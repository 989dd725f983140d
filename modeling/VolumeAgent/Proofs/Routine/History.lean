import VolumeAgent.Proofs.Routine.Interleaving
import VolumeAgent.Proofs.Routine.Trace

/-!
# What happens when routines take turns

The history of a run in turns is its calls, with who has made them, what they
were answered, and the host just before. `history_sound` is how to reason
about it: each routine keeps rules about what it has said itself, under
answers that are credible; the host and the history keep an invariant, which
makes the answers credible. Then every call was within the rules.
-/

namespace VolumeAgent

open Host (Call)

structure Moment (ι σ : Type) where
  who : ι
  said : Exchange
  /-- Before the call. -/
  host : σ

def Contract.heard (allows : List Exchange → Call → Prop)
    (credible : List Exchange → Exchange → Prop) : Contract (List Exchange) :=
  ⟨allows, fun past c a next => credible past ⟨c, a⟩ ∧ next = past ++ [⟨c, a⟩]⟩

section
variable {ι : Type} [DecidableEq ι]

def own (i : ι) (past : List (Moment ι σ)) : List Exchange :=
  (past.filter (·.who = i)).map (·.said)

@[simp] theorem own_nil (i : ι) : own i ([] : List (Moment ι σ)) = [] := rfl

@[simp] theorem own_append (i : ι) (past later : List (Moment ι σ)) :
    own i (past ++ later) = own i past ++ own i later := by
  simp [own]

@[simp] theorem own_cons_self (m : Moment ι σ) (past : List (Moment ι σ)) :
    own m.who (m :: past) = m.said :: own m.who past := by
  simp [own]

theorem own_cons_ne {m : Moment ι σ} (h : m.who ≠ i) (past : List (Moment ι σ)) :
    own i (m :: past) = own i past := by
  simp [own, h]

theorem mem_own {past : List (Moment ι σ)} :
    x ∈ own i past ↔ ∃ m ∈ past, m.who = i ∧ m.said = x := by
  simp [own, and_assoc]

theorem exists_moment_of_own {past : List (Moment ι σ)} (h : own i past = earlier ++ x :: later) :
    ∃ before m after, past = before ++ m :: after ∧ m.who = i ∧ m.said = x ∧
      own i before = earlier ∧ own i after = later := by
  induction past generalizing earlier with
  | nil => simp at h
  | cons y past ih =>
    by_cases hy : y.who = i
    · subst hy
      rw [own_cons_self] at h
      cases earlier with
      | nil =>
        obtain ⟨hsaid, hlater⟩ := List.cons.inj h
        exact ⟨[], y, past, rfl, rfl, hsaid, rfl, hlater⟩
      | cons z earlier =>
        obtain ⟨hsaid, hrest⟩ := List.cons.inj h
        obtain ⟨before, m, after, rfl, hm, hx, hearlier, hlater⟩ := ih hrest
        exact ⟨y :: before, m, after, rfl, hm, hx, by rw [own_cons_self, hsaid, hearlier], hlater⟩
    · rw [own_cons_ne hy] at h
      obtain ⟨before, m, after, rfl, hm, hx, hearlier, hlater⟩ := ih h
      exact ⟨y :: before, m, after, rfl, hm, hx, by rw [own_cons_ne hy, hearlier], hlater⟩

namespace Routine

def history (answer : (c : Call) → σ → c.Answer × σ) :
    List ι → (ι → Routine α) → σ → List (Moment ι σ)
  | [], _, _ => []
  | i :: schedule, threads, s =>
    let rest := history answer schedule
      (Function.update threads i ((threads i).turn answer s).1) ((threads i).turn answer s).2
    match threads i with
    | call c _ => ⟨i, ⟨c, (answer c s).1⟩, s⟩ :: rest
    | _ => rest

/-- Whether a schedule keeps to the lock: who takes it finds it free. -/
def orderly (answer : (c : Call) → σ → c.Answer × σ) (holder : Option ι) :
    List ι → (ι → Routine α) → σ → Bool
  | [], _, _ => true
  | i :: schedule, threads, s =>
    let rest holder := orderly answer holder schedule
      (Function.update threads i ((threads i).turn answer s).1) ((threads i).turn answer s).2
    match threads i with
    | lock _ => holder == none && rest (some i)
    | unlock _ => rest none
    | _ => rest holder

variable {allows : List Exchange → Call → Prop} {credible : List Exchange → Exchange → Prop}
  {answer : (c : Call) → σ → c.Answer × σ}

theorem history_sound (I : List (Moment ι σ) → σ → Prop)
    (hstep : ∀ past i c s, I past s → allows (own i past) c →
      credible (own i past) ⟨c, (answer c s).1⟩ ∧
        I (past ++ [⟨i, ⟨c, (answer c s).1⟩, s⟩]) (answer c s).2)
    {threads : ι → Routine α} {past : List (Moment ι σ)} {s : σ} (hI : I past s)
    (hm : ∀ i, (threads i).Meets (.heard allows credible) (own i past) fun _ _ => True)
    {schedule : List ι} (h : history answer schedule threads s = before ++ x :: after) :
    allows (own x.who (past ++ before)) x.said.call ∧
      x.said.answer = (answer x.said.call x.host).1 ∧ I (past ++ before) x.host := by
  induction schedule generalizing threads past s before with
  | nil => simp [history] at h
  | cons i schedule ih =>
    have hi := hm i
    -- A step that is no call changes only what is left of one routine.
    have hquiet : ∀ r : Routine α, r.Meets (.heard allows credible) (own i past) (fun _ _ => True) →
        history answer schedule (Function.update threads i r) s = before ++ x :: after →
        allows (own x.who (past ++ before)) x.said.call ∧
          x.said.answer = (answer x.said.call x.host).1 ∧ I (past ++ before) x.host := by
      intro r hr h
      refine ih hI (fun j => ?_) h
      by_cases hj : j = i
      · subst hj
        simpa using hr
      · simpa [hj] using hm j
    cases hr : threads i with
    | done a =>
      simp only [history, hr, turn] at h
      rw [hr] at hi
      exact hquiet (done a) hi h
    | lock next =>
      simp only [history, hr, turn] at h
      rw [hr] at hi
      exact hquiet next hi h
    | unlock next =>
      simp only [history, hr, turn] at h
      rw [hr] at hi
      exact hquiet next hi h
    | report e next =>
      simp only [history, hr, turn] at h
      rw [hr] at hi
      exact hquiet next hi h
    | call c next =>
      simp only [history, hr, turn] at h
      rw [hr] at hi
      cases before with
      | nil =>
        obtain ⟨rfl, -⟩ := List.cons.inj h
        rw [List.append_nil]
        exact ⟨hi.1, rfl, hI⟩
      | cons m before =>
        obtain ⟨rfl, hrest⟩ := List.cons.inj h
        obtain ⟨hcredible, hnext⟩ := hstep past i c s hI hi.1
        have hsound := ih hnext (fun j => ?_) hrest
        · rwa [List.append_assoc] at hsound
        · by_cases hj : j = i
          · subst hj
            simpa [own_cons_self ⟨j, _, s⟩] using hi.2 _ _ ⟨hcredible, rfl⟩
          · have hown : own j [⟨i, ⟨c, (answer c s).1⟩, s⟩] = [] := own_cons_ne (Ne.symm hj) []
            simpa [hj, hown] using hm j

end Routine

theorem Attempt.history_sound {allows : List Exchange → Call → Prop}
    {credible : List Exchange → Exchange → Prop} {answer : (c : Call) → σ → c.Answer × σ}
    {attempts : ι → Attempt α} (I : List (Moment ι σ) → σ → Prop)
    (hstep : ∀ past i c s, I past s → allows (own i past) c →
      credible (own i past) ⟨c, (answer c s).1⟩ ∧
        I (past ++ [⟨i, ⟨c, (answer c s).1⟩, s⟩]) (answer c s).2)
    (hI : I [] s)
    (hm : ∀ i, Triple (.heard allows credible) (attempts i) [] (fun _ _ => True) fun _ _ => True)
    (h : Routine.history answer schedule (fun i => (attempts i).run) s = before ++ x :: after) :
    allows (own x.who before) x.said.call ∧
      x.said.answer = (answer x.said.call x.host).1 ∧ I before x.host := by
  refine Routine.history_sound I hstep hI (fun i => ?_) h
  exact Routine.Meets.mono (hm i) fun _ _ _ => trivial

end

end VolumeAgent
