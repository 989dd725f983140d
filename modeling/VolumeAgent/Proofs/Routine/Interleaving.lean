import Mathlib.Logic.Function.Basic
import VolumeAgent.Proofs.Routine.Contract

/-!
# Routines in turns

Several routines run on one host, a step at a time, in the order that a
schedule gives. The mount lock only excludes schedules; here none is
excluded. `Meets.interleave` is the way to reason about one routine among
others: if every call of every routine keeps a relation between the host and
a state for each routine, in which that routine's contract is kept, all
routines do what they promise under their contracts.
-/

namespace VolumeAgent.Routine

open Host (Call)

/-- One step of a routine: a call, an event, or taking or giving back the
lock. A routine that is done stays so. -/
def turn (answer : (c : Call) → σ → c.Answer × σ) : Routine α → σ → Routine α × σ
  | done a, s => (done a, s)
  | call c next, s => (next (answer c s).1, (answer c s).2)
  | lock next, s | unlock next, s | report _ next, s => (next, s)

section
variable {ι : Type} [DecidableEq ι]

def interleave (answer : (c : Call) → σ → c.Answer × σ) :
    List ι → (ι → Routine α) → σ → (ι → Routine α) × σ
  | [], threads, s => (threads, s)
  | i :: schedule, threads, s =>
    interleave answer schedule (Function.update threads i ((threads i).turn answer s).1)
      ((threads i).turn answer s).2

theorem interleave_append (first rest : List ι) (threads : ι → Routine α) (s : σ) :
    interleave answer (first ++ rest) threads s =
      interleave answer rest (interleave answer first threads s).1
        (interleave answer first threads s).2 := by
  induction first generalizing threads s with
  | nil => rfl
  | cons i first ih => exact ih _ _

variable {K : ι → Contract τ} {answer : (c : Call) → σ → c.Answer × σ} {R : σ → (ι → τ) → Prop}
  {Q : ι → α → τ → Prop} {threads : ι → Routine α} {s : σ} {u : ι → τ}

theorem Meets.turn
    (hstep : ∀ i c s u, R s u → (K i).allows (u i) c →
      ∃ t, (K i).answers (u i) c (answer c s).1 t ∧ R (answer c s).2 (Function.update u i t))
    (hR : R s u) {r : Routine α} (h : r.Meets (K i) (u i) (Q i)) :
    ∃ t, R (r.turn answer s).2 (Function.update u i t) ∧
      (r.turn answer s).1.Meets (K i) t (Q i) := by
  have hstay : R s (Function.update u i (u i)) := by rwa [Function.update_eq_self]
  cases r with
  | done a => exact ⟨u i, hstay, h⟩
  | call c next =>
    obtain ⟨t, ha, ht⟩ := hstep i c s u hR h.1
    exact ⟨t, ht, h.2 _ t ha⟩
  | lock next => exact ⟨u i, hstay, h⟩
  | unlock next => exact ⟨u i, hstay, h⟩
  | report e next => exact ⟨u i, hstay, h⟩

theorem Meets.interleave
    (hstep : ∀ i c s u, R s u → (K i).allows (u i) c →
      ∃ t, (K i).answers (u i) c (answer c s).1 t ∧ R (answer c s).2 (Function.update u i t))
    (hR : R s u) (h : ∀ i, (threads i).Meets (K i) (u i) (Q i)) (schedule : List ι) :
    ∃ v, R (interleave answer schedule threads s).2 v ∧
      ∀ i, ((interleave answer schedule threads s).1 i).Meets (K i) (v i) (Q i) := by
  induction schedule generalizing threads s u with
  | nil => exact ⟨u, hR, h⟩
  | cons i schedule ih =>
    obtain ⟨t, ht, hi⟩ := (h i).turn hstep hR
    refine ih ht fun j => ?_
    by_cases hj : j = i
    · subst hj
      simpa using hi
    · simpa [hj] using h j

-- ---------------------------------------------------------------------------
-- One after another
-- ---------------------------------------------------------------------------

variable (answer)

theorem exists_schedule_run (r : Routine α) (threads : ι → Routine α) (i : ι) (s : σ) :
    ∃ schedule, interleave answer schedule (Function.update threads i r) s =
      (Function.update threads i (done (r.run answer s).1), (r.run answer s).2) := by
  induction r generalizing s with
  | done a => exact ⟨[], rfl⟩
  | call c next ih =>
    obtain ⟨schedule, h⟩ := ih (answer c s).1 (answer c s).2
    exact ⟨i :: schedule, by simpa [interleave, turn, run] using h⟩
  | lock next ih | unlock next ih =>
    obtain ⟨schedule, h⟩ := ih s
    exact ⟨i :: schedule, by simpa [interleave, turn, run] using h⟩
  | report e next ih =>
    obtain ⟨schedule, h⟩ := ih s
    exact ⟨i :: schedule, by simpa [interleave, turn, run] using h⟩

theorem exists_schedule_foldl (routines : ι → Routine α) {order : List ι}
    (hnodup : order.Nodup) {threads : ι → Routine α} (h : ∀ i ∈ order, threads i = routines i)
    (s : σ) :
    ∃ schedule, (interleave answer schedule threads s).2 =
        order.foldl (fun s i => ((routines i).run answer s).2) s ∧
      ∀ i, i ∈ order ∨ (∃ a, threads i = done a) →
        ∃ a, (interleave answer schedule threads s).1 i = done a := by
  induction order generalizing threads s with
  | nil => exact ⟨[], rfl, fun i hi => hi.resolve_left (by simp)⟩
  | cons i order ih =>
    obtain ⟨hi, hrest⟩ := List.nodup_cons.mp hnodup
    obtain ⟨first, hfirst⟩ := exists_schedule_run answer (threads i) threads i s
    rw [Function.update_eq_self, h i List.mem_cons_self] at hfirst
    have hthreads : ∀ j ∈ order,
        Function.update threads i (done ((routines i).run answer s).1) j = routines j := by
      intro j hj
      have hne : j ≠ i := fun he => hi (he ▸ hj)
      simpa [hne] using h j (List.mem_cons_of_mem _ hj)
    obtain ⟨rest, hfold, hdone⟩ := ih hrest hthreads ((routines i).run answer s).2
    refine ⟨first ++ rest, ?_, fun j hj => ?_⟩ <;> rw [interleave_append, hfirst]
    · exact hfold
    · refine hdone j ?_
      by_cases hji : j = i
      · exact .inr ⟨((routines i).run answer s).1, by simp [hji]⟩
      · simpa [hji] using hj

/-- Whatever turns were taken, all routines can still get to their ends. -/
theorem exists_completion {order : List ι} (hnodup : order.Nodup) (hall : ∀ i, i ∈ order)
    (schedule : List ι) (threads : ι → Routine α) (s : σ) :
    ∃ rest, ∀ i, ∃ a, (interleave answer (schedule ++ rest) threads s).1 i = done a := by
  obtain ⟨rest, -, hdone⟩ := exists_schedule_foldl answer
    (interleave answer schedule threads s).1 hnodup (fun _ _ => rfl)
    (interleave answer schedule threads s).2
  refine ⟨rest, fun i => ?_⟩
  rw [interleave_append]
  exact hdone i (.inl (hall i))

end

end VolumeAgent.Routine
