import VolumeAgent.Proofs.Routine.Contract

/-!
# Footprints and crashes

An attempt obeys a contract if it makes only calls that are allowed, whatever
it is answered; a footprint is a contract that only lists calls, and `Uses`
says that an attempt makes no others. What each allowed call preserves, the
attempt preserves, and so does any part of it: `leave` is where a routine
leaves its host when it is cut off after some calls.
-/

namespace VolumeAgent

open Host (Call)

def Contract.only (ok : Call → Prop) : Contract Unit :=
  ⟨fun _ => ok, fun _ _ _ _ => True⟩

def Contract.restrict (K : Contract σ) (ok : Call → Prop) : Contract σ :=
  ⟨fun s c => K.allows s c ∧ ok c, K.answers⟩

namespace Routine

variable {I : σ → Prop}

/-- The host's state after at most `limit` calls, or after all of them if
there is no limit. -/
def leave (answer : (c : Call) → σ → c.Answer × σ) : Routine α → Option Nat → σ → σ
  | done _, _, s | call _ _, some 0, s => s
  | call c next, limit, s => (next (answer c s).1).leave answer (limit.map (· - 1)) (answer c s).2
  | lock next, limit, s | unlock next, limit, s | report _ next, limit, s =>
    next.leave answer limit s

theorem leave_none (r : Routine α) (s : σ) : r.leave answer none s = (r.run answer s).2 := by
  induction r generalizing s with
  | done a => rfl
  | call c next ih => exact ih _ _
  | lock next ih => exact ih _
  | unlock next ih => exact ih _
  | report e next ih => exact ih _

theorem Meets.leave {r : Routine α} (h : r.Meets (.only ok) () R)
    (hI : ∀ c s, ok c → I s → I (answer c s).2) (hs : I s) (limit : Option Nat) :
    I (r.leave answer limit s) := by
  induction r generalizing s limit with
  | done a => exact hs
  | call c next ih =>
    -- Either no call is left, or one is made and the limit is one less.
    have hnext := fun limit => ih (answer c s).1 (h.2 _ () trivial) (hI c s h.1 hs) limit
    match limit with
    | none => exact hnext none
    | some 0 => exact hs
    | some (n + 1) => exact hnext (some n)
  | lock next ih => exact ih h hs limit
  | unlock next ih => exact ih h hs limit
  | report e next ih => exact ih h hs limit

/-- What a host's contract preserves at each allowed call holds in its terms
wherever the routine is cut off. -/
theorem Meets.leave_kept {K : Contract τ} {view : σ → τ} {J : σ → Prop} {I : τ → Prop}
    (hk : Keeps K answer view J)
    (hI : ∀ t c a u, K.allows t c → I t → K.answers t c a u → I u)
    {r : Routine α} (h : r.Meets K (view s) Q) (hJ : J s) (hs : I (view s))
    (limit : Option Nat) : I (view (r.leave answer limit s)) := by
  induction r generalizing s limit with
  | done a => exact hs
  | call c next ih =>
    have ha := hk.answers (c := c) hJ
    have hnext := fun limit =>
      ih (answer c s).1 (h.2 _ _ ha) (hk.invariant hJ) (hI _ _ _ _ h.1 hs ha) limit
    match limit with
    | none => exact hnext none
    | some 0 => exact hs
    | some (n + 1) => exact hnext (some n)
  | lock next ih => exact ih h hJ hs limit
  | unlock next ih => exact ih h hJ hs limit
  | report e next ih => exact ih h hJ hs limit

theorem run_invariant (hI : ∀ c s, I s → I (answer c s).2) (hs : I s) (r : Routine α) :
    I (r.run answer s).2 := by
  induction r generalizing s with
  | done a => exact hs
  | call c next ih => exact ih _ (hI c s hs)
  | lock next ih => exact ih hs
  | unlock next ih => exact ih hs
  | report e next ih => exact ih hs

theorem Meets.keep {K : Contract σ} {r : Routine α} (h : r.Meets K s Q)
    (hu : r.Meets (.only ok) () R) (hI : ∀ c s a t, ok c → I s → K.answers s c a t → I t)
    (hs : I s) : r.Meets K s fun a t => Q a t ∧ I t := by
  induction r generalizing s with
  | done a => exact ⟨h, hs⟩
  | call c next ih =>
    exact ⟨h.1, fun a t ha => ih a (h.2 a t ha) (hu.2 a () trivial) (hI c s a t hu.1 hs ha)⟩
  | lock next ih => exact ih h hu hs
  | unlock next ih => exact ih h hu hs
  | report e next ih => exact ih h hu hs

theorem Meets.restrict {K : Contract σ} {r : Routine α} (h : r.Meets K s Q)
    (hu : r.Meets (.only ok) () R) : r.Meets (K.restrict ok) s Q := by
  induction r generalizing s with
  | done a => exact h
  | call c next ih => exact ⟨⟨h.1, hu.1⟩, fun a t ha => ih a (h.2 a t ha) (hu.2 a () trivial)⟩
  | lock next ih => exact ih h hu
  | unlock next ih => exact ih h hu
  | report e next ih => exact ih h hu

theorem Keeps.restrict {K : Contract τ} (h : Keeps K answer view I) (ok : Call → Prop) :
    Keeps (K.restrict ok) answer view I :=
  ⟨h.answers, h.invariant⟩

/-- Where the contract leaves no choice at the calls of the footprint, the
routine does what it does on a host that answers so. -/
theorem Meets.exact {K : Contract σ} {r : Routine α} (hu : r.Meets (.only ok) () R)
    (hallows : ∀ c s, ok c → K.allows s c)
    (hanswers : ∀ c s a t, ok c → I s → K.answers s c a t → answer c s = (a, t) ∧ I t)
    (hs : I s) : r.Meets K s fun a t => r.run answer s = (a, t) := by
  induction r generalizing s with
  | done a => rfl
  | call c next ih =>
    refine ⟨hallows c s hu.1, fun a t ha => ?_⟩
    obtain ⟨hrun, ht⟩ := hanswers c s a t hu.1 hs ha
    simp only [Routine.run, hrun]
    exact ih a (hu.2 a () trivial) ht
  | lock next ih => exact ih hu hs
  | unlock next ih => exact ih hu hs
  | report e next ih => exact ih hu hs

end Routine

namespace Attempt

def leave (m : Attempt α) (answer : (c : Call) → σ → c.Answer × σ) (limit : Option Nat) (s : σ) :
    σ :=
  m.run.leave answer limit s

def Obeys (K : Contract σ) (m : Attempt α) : Prop :=
  ∀ s, Triple K m s (fun _ _ => True) (fun _ _ => True)

namespace Obeys

variable {K : Contract σ}

theorem pure : Obeys K (Pure.pure a : Attempt α) := fun _ => trivial

theorem throw : Obeys K (MonadExcept.throw f : Attempt α) := fun _ => trivial

theorem note : Obeys K (Attempt.note e) := fun _ => trivial

theorem bind {m : Attempt β} {f : β → Attempt α} (h : Obeys K m) (hf : ∀ b, Obeys K (f b)) :
    Obeys K (m >>= f) :=
  fun s => Triple.bind (h s) fun b t _ => hf b t

theorem ask (h : ∀ s, K.allows s c) : Obeys K (Attempt.ask c) :=
  fun s => ⟨h s, fun _ _ _ => trivial⟩

theorem askLocked (h : ∀ s, K.allows s c) : Obeys K (Attempt.askLocked c) :=
  fun s => ⟨h s, fun _ _ _ => trivial⟩

theorem outcome {m : Attempt α} (h : Obeys K m) : Obeys K m.outcome :=
  fun s => triple_outcome.mpr (h s)

theorem leave {K : Contract τ} {view : σ → τ} {J : σ → Prop} {I : τ → Prop} {m : Attempt α}
    (h : Obeys K m) (hk : Routine.Keeps K answer view J)
    (hI : ∀ t c a u, K.allows t c → I t → K.answers t c a u → I u) (hJ : J s) (hs : I (view s))
    (limit : Option Nat) : I (view (m.leave answer limit s)) :=
  Routine.Meets.leave_kept hk hI (h (view s)) hJ hs limit

end Obeys

def Uses (ok : Call → Prop) (m : Attempt α) : Prop :=
  Triple (.only ok) m () (fun _ _ => True) (fun _ _ => True)

theorem Uses.leave {ok : Call → Prop} {I : σ → Prop} {m : Attempt α} (h : m.Uses ok)
    (hI : ∀ c s, ok c → I s → I (answer c s).2) (hs : I s) (limit : Option Nat) :
    I (m.leave answer limit s) :=
  Routine.Meets.leave h hI hs limit

end Attempt

theorem Attempt.uses_all (m : Attempt α) : m.Uses fun _ => True :=
  Routine.meets_of_forall (fun _ _ => trivial) fun r _ => by cases r <;> trivial

theorem Triple.keep {K : Contract σ} {I : σ → Prop} {m : Attempt α} (h : Triple K m s Q E)
    (hu : m.Uses ok) (hI : ∀ c s a t, ok c → I s → K.answers s c a t → I t) (hs : I s) :
    Triple K m s (fun a t => Q a t ∧ I t) (fun f t => E f t ∧ I t) := by
  refine (Routine.Meets.keep h hu hI hs).mono fun r t hr => ?_
  cases r <;> exact hr

theorem Triple.restrict {K : Contract σ} {m : Attempt α} (h : Triple K m s Q E) (hu : m.Uses ok) :
    Triple (K.restrict ok) m s Q E :=
  Routine.Meets.restrict h hu

end VolumeAgent
