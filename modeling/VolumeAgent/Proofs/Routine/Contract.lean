import VolumeAgent.Routine

/-!
# What a host promises, and what an attempt does under it

A contract says which calls may be made in a state, and which answers and
states can follow a call. `Triple` reads an attempt against a contract: it
makes no call that is not allowed, and whatever the host answers, it ends in
a state that fits its result or its failure. The laws below are
equivalences, so a routine is taken apart call by call.

A contract that never answers is met by everything; `Meets.run` ties a
contract to a host that answers calls by a function.
-/

namespace VolumeAgent

open Host (Call)

structure Contract (σ : Type) where
  /-- Whether a call may be made in a state. -/
  allows : σ → Call → Prop
  /-- The answers that can follow, with the states they leave. -/
  answers : σ → (c : Call) → c.Answer → σ → Prop

namespace Routine

def Meets (K : Contract σ) : Routine α → σ → (α → σ → Prop) → Prop
  | done a, s, Q => Q a s
  | call c next, s, Q => K.allows s c ∧ ∀ a t, K.answers s c a t → (next a).Meets K t Q
  | lock next, s, Q | unlock next, s, Q | report _ next, s, Q => next.Meets K s Q

variable {K : Contract σ}

theorem meets_bind {r : Routine α} {f : α → Routine β} :
    (r.bind f).Meets K s Q ↔ r.Meets K s fun a t => (f a).Meets K t Q := by
  induction r generalizing s with
  | done a => rfl
  | call c next ih =>
    simp only [bind, Meets, ih]
  | lock next ih => exact ih
  | unlock next ih => exact ih
  | report e next ih => exact ih

theorem Meets.mono {r : Routine α} (h : r.Meets K s Q) (hq : ∀ a t, Q a t → Q' a t) :
    r.Meets K s Q' := by
  induction r generalizing s with
  | done a => exact hq _ _ h
  | call c next ih => exact ⟨h.1, fun a t ha => ih a (h.2 a t ha)⟩
  | lock next ih => exact ih h
  | unlock next ih => exact ih h
  | report e next ih => exact ih h

theorem Meets.and {r : Routine α} (h : r.Meets K s Q) (h' : r.Meets K s Q') :
    r.Meets K s fun a t => Q a t ∧ Q' a t := by
  induction r generalizing s with
  | done a => exact ⟨h, h'⟩
  | call c next ih => exact ⟨h.1, fun a t ha => ih a (h.2 a t ha) (h'.2 a t ha)⟩
  | lock next ih => exact ih h h'
  | unlock next ih => exact ih h h'
  | report e next ih => exact ih h h'

theorem meets_of_forall {r : Routine α} {Q : α → σ → Prop} (hK : ∀ s c, K.allows s c)
    (h : ∀ a t, Q a t) : r.Meets K s Q := by
  induction r generalizing s with
  | done a => exact h a s
  | call c next ih => exact ⟨hK s c, fun a t _ => ih a⟩
  | lock next ih => exact ih
  | unlock next ih => exact ih
  | report e next ih => exact ih

theorem Meets.transfer {K K' : Contract σ} {r : Routine α} (h : r.Meets K s Q)
    (hallows : ∀ s c, K.allows s c → K'.allows s c)
    (hanswers : ∀ s c a t, K'.answers s c a t → K.answers s c a t) : r.Meets K' s Q := by
  induction r generalizing s with
  | done a => exact h
  | call c next ih => exact ⟨hallows s c h.1, fun a t ha => ih a (h.2 a t (hanswers s c a t ha))⟩
  | lock next ih => exact ih h
  | unlock next ih => exact ih h
  | report e next ih => exact ih h

/-- A host keeps a contract through a view of its state if, as long as `I`
holds, each answer is one that the contract lists. -/
structure Keeps (K : Contract τ) (answer : (c : Call) → σ → c.Answer × σ) (view : σ → τ)
    (I : σ → Prop) : Prop where
  answers : I s → K.answers (view s) c (answer c s).1 (view (answer c s).2)
  invariant : I s → I (answer c s).2

theorem Meets.run {K : Contract τ} (hk : Keeps K answer view I) (hi : I s) {r : Routine α}
    (h : r.Meets K (view s) Q) : Q (r.run answer s).1 (view (r.run answer s).2) := by
  induction r generalizing s with
  | done a => exact h
  | call c next ih => exact ih _ (hk.invariant hi) (h.2 _ _ (hk.answers hi))
  | lock next ih => exact ih hi h
  | unlock next ih => exact ih hi h
  | report e next ih => exact ih hi h

end Routine

namespace Attempt

theorem run_bind (m : Attempt α) (f : α → Attempt β) :
    (m >>= f).run = m.run.bind fun r =>
      match r with
      | .ok a => (f a).run
      | .error e => .done (.error e) := by
  refine congrArg (Routine.bind m.run) (funext fun r => ?_)
  cases r <;> rfl

@[simp] theorem ofExcept_ok_bind (a : α) (f : α → Attempt β) :
    ofExcept (.ok a) >>= f = f a := rfl

@[simp] theorem ofExcept_error_bind (e : Failure) (f : α → Attempt β) :
    ofExcept (.error e) >>= f = throw e := rfl

theorem run_outcome (m : Attempt α) : m.outcome.run = m.run.bind fun r => .done (.ok r) := rfl

end Attempt

def Triple (K : Contract σ) (m : Attempt α) (s : σ) (Q : α → σ → Prop)
    (E : Failure → σ → Prop) : Prop :=
  m.run.Meets K s fun r t =>
    match r with
    | .ok a => Q a t
    | .error f => E f t

section
variable {K : Contract σ} {s : σ} {Q Q' : α → σ → Prop} {E E' : Failure → σ → Prop}

@[simp] theorem triple_pure : Triple K (pure a) s Q E ↔ Q a s := Iff.rfl

@[simp] theorem triple_throw : Triple K (throw f) s Q E ↔ E f s := Iff.rfl

@[simp] theorem triple_note {Q : Unit → σ → Prop} :
    Triple K (Attempt.note e) s Q E ↔ Q () s := Iff.rfl

@[simp] theorem triple_bind {m : Attempt β} {f : β → Attempt α} :
    Triple K (m >>= f) s Q E ↔ Triple K m s (fun a t => Triple K (f a) t Q E) E := by
  unfold Triple
  rw [Attempt.run_bind, Routine.meets_bind]
  constructor <;> intro h <;> refine h.mono fun r t hr => ?_ <;> cases r <;> exact hr

@[simp] theorem triple_map {m : Attempt β} {f : β → α} :
    Triple K (f <$> m) s Q E ↔ Triple K m s (fun a => Q (f a)) E := by
  rw [← bind_pure_comp]
  exact triple_bind

@[simp] theorem triple_outcome {m : Attempt β} {Q : Except Failure β → σ → Prop} :
    Triple K m.outcome s Q E ↔
      Triple K m s (fun a => Q (.ok a)) (fun f => Q (.error f)) := by
  unfold Triple
  rw [Attempt.run_outcome, Routine.meets_bind]
  constructor <;> intro h <;> refine h.mono fun r t hr => ?_ <;> cases r <;> exact hr

theorem Triple.mono {m : Attempt α} (h : Triple K m s Q E) (hq : ∀ a t, Q a t → Q' a t)
    (he : ∀ f t, E f t → E' f t) : Triple K m s Q' E' := by
  refine Routine.Meets.mono h fun r t hr => ?_
  cases r with
  | ok a => exact hq a t hr
  | error f => exact he f t hr

theorem Triple.and {m : Attempt α} (h : Triple K m s Q E) (h' : Triple K m s Q' E') :
    Triple K m s (fun a t => Q a t ∧ Q' a t) (fun f t => E f t ∧ E' f t) := by
  refine (Routine.Meets.and h h').mono fun r t hr => ?_
  cases r <;> exact hr

theorem Triple.transfer {K K' : Contract σ} {m : Attempt α} (h : Triple K m s Q E)
    (hallows : ∀ s c, K.allows s c → K'.allows s c)
    (hanswers : ∀ s c a t, K'.answers s c a t → K.answers s c a t) : Triple K' m s Q E :=
  Routine.Meets.transfer h hallows hanswers

theorem Triple.bind {m : Attempt β} {f : β → Attempt α} {R : β → σ → Prop}
    (h : Triple K m s R E) (hf : ∀ b t, R b t → Triple K (f b) t Q E) :
    Triple K (m >>= f) s Q E :=
  triple_bind.mpr (h.mono hf fun _ _ he => he)

theorem Triple.bind_sure {m : Attempt β} {f : β → Attempt α} {R : β → σ → Prop}
    (h : Triple K m s R fun _ _ => False) (hf : ∀ b t, R b t → Triple K (f b) t Q E) :
    Triple K (m >>= f) s Q E :=
  triple_bind.mpr (h.mono hf fun _ _ hfalse => hfalse.elim)

theorem Triple.ask {c : Call} {f : c.Answer → Attempt α} (hc : K.allows s c)
    (hf : ∀ a t, K.answers s c a t → Triple K (f a) t Q E) :
    Triple K (Attempt.ask c >>= f) s Q E :=
  triple_bind.mpr ⟨hc, hf⟩

theorem Triple.askLocked {c : Call} {f : c.Answer → Attempt α} (hc : K.allows s c)
    (hf : ∀ a t, K.answers s c a t → Triple K (f a) t Q E) :
    Triple K (Attempt.askLocked c >>= f) s Q E :=
  triple_bind.mpr ⟨hc, hf⟩

/-- After an attempt whose outcome is taken as a value, a failure is one
more way to go on. -/
theorem Triple.outcome {m : Attempt β} {f : Except Failure β → Attempt α}
    {R : β → σ → Prop} {F : Failure → σ → Prop} (h : Triple K m s R F)
    (hok : ∀ b t, R b t → Triple K (f (.ok b)) t Q E)
    (herror : ∀ e t, F e t → Triple K (f (.error e)) t Q E) :
    Triple K (m.outcome >>= f) s Q E :=
  triple_bind.mpr (triple_outcome.mpr (h.mono hok herror))

end

end VolumeAgent
