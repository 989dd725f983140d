import Mathlib.Logic.Function.Basic
import Mathlib.Logic.Relation
import VolumeAgent.Routine

/-!
# Routines that share the mount lock

Routines take steps in any order and are answered in any way; only the lock
makes one wait. `Disciplined` reads off a single routine how it uses the lock.
`Crew.Disciplined.reaches` carries that through every run of a crew: a routine
has the lock exactly while it is in a call that needs it, and some routine can
go on until all are done.
-/

namespace VolumeAgent

open Host (Call)

instance (c : Call) : Nonempty c.Answer := by
  cases c <;> exact ⟨.error default⟩

namespace Routine

/-- Calls that change mounts are made with the lock and all others without.
It is taken only if it is not held, given back only if it is, and not held in
the end. -/
def Disciplined (held : Bool) : Routine α → Prop
  | done _ => held = false
  | call c next => c.changesMounts = held ∧ ∀ a, (next a).Disciplined held
  | lock next => held = false ∧ next.Disciplined true
  | unlock next => held = true ∧ next.Disciplined false
  | report _ next => next.Disciplined held

theorem Disciplined.bind {r : Routine α} {f : α → Routine β} (h : r.Disciplined held)
    (hf : ∀ a, (f a).Disciplined false) : (r.bind f).Disciplined held := by
  induction r generalizing held with
  | done a =>
    obtain rfl : held = false := h
    exact hf a
  | call c next ih => exact ⟨h.1, fun a => ih a (h.2 a)⟩
  | lock next ih => exact ⟨h.1, ih h.2⟩
  | unlock next ih => exact ⟨h.1, ih h.2⟩
  | report e next ih => exact ih h

end Routine

-- ---------------------------------------------------------------------------
-- Attempts
-- ---------------------------------------------------------------------------

namespace Attempt

def Disciplined (m : Attempt α) : Prop := m.run.Disciplined false

namespace Disciplined

theorem pure : Disciplined (Pure.pure a : Attempt α) := rfl

theorem throw : Disciplined (MonadExcept.throw f : Attempt α) := rfl

theorem note : Disciplined (Attempt.note e) := rfl

theorem bind {m : Attempt β} {f : β → Attempt α} (h : Disciplined m)
    (hf : ∀ b, Disciplined (f b)) : Disciplined (m >>= f) := by
  refine Routine.Disciplined.bind h ?_
  rintro (e | b)
  · rfl
  · exact hf b

theorem ask (h : c.changesMounts = false) : Disciplined (Attempt.ask c) := ⟨h, fun _ => rfl⟩

theorem askLocked (h : c.changesMounts = true) : Disciplined (Attempt.askLocked c) :=
  ⟨rfl, h, fun _ => ⟨rfl, rfl⟩⟩

theorem outcome {m : Attempt α} (h : Disciplined m) : Disciplined m.outcome :=
  Routine.Disciplined.bind h fun _ => rfl

theorem ofExcept (r : Except Failure α) : Disciplined (Attempt.ofExcept r) := by
  cases r <;> rfl

end Disciplined

end Attempt

-- ---------------------------------------------------------------------------
-- Crews
-- ---------------------------------------------------------------------------

/-- Routines at work on one host, and which of them has the mount lock. One
that stands at a call is in it until it is answered. -/
structure Crew (ι α : Type) where
  routines : ι → Routine α
  holder : Option ι := none

namespace Crew

variable {ι : Type} [DecidableEq ι]

def advance (s : Crew ι α) (i : ι) (next : Routine α) : Crew ι α :=
  { s with routines := Function.update s.routines i next }

/-- A step of the routine `i`. A call can be answered by anything, and the
lock can be taken if nobody has it. -/
inductive Step (s : Crew ι α) (i : ι) : Crew ι α → Prop where
  | answered (h : s.routines i = .call c next) (a : c.Answer) : Step s i (s.advance i (next a))
  | locked (h : s.routines i = .lock next) (hfree : s.holder = none) :
    Step s i { s.advance i next with holder := some i }
  | unlocked (h : s.routines i = .unlock next) :
    Step s i { s.advance i next with holder := none }
  | reported (h : s.routines i = .report e next) : Step s i (s.advance i next)

def Reaches : Crew ι α → Crew ι α → Prop := Relation.ReflTransGen fun s t => ∃ i, Step s i t

theorem Reaches.step {s t u : Crew ι α} (h : s.Reaches t) (i : ι) (hs : Step t i u) :
    s.Reaches u :=
  .tail h ⟨i, hs⟩

def Disciplined (s : Crew ι α) : Prop := ∀ i, (s.routines i).Disciplined (s.holder == some i)

variable {s t : Crew ι α}

theorem Disciplined.update (h : s.Disciplined) {r : Routine α} {holder : Option ι}
    (hr : r.Disciplined (holder == some i))
    (hothers : ∀ j, j ≠ i → (holder == some j) = (s.holder == some j)) :
    Disciplined { s.advance i r with holder } := by
  intro j
  by_cases hj : j = i
  · subst hj
    simpa [advance] using hr
  · simpa [advance, hj, hothers j hj] using h j

theorem Disciplined.step (h : s.Disciplined) (hs : Step s i t) : t.Disciplined := by
  have hi := h i
  cases hs with
  | answered hr a =>
    rw [hr] at hi
    exact h.update (hi.2 a) fun _ _ => rfl
  | locked hr hfree =>
    rw [hr] at hi
    refine h.update (by simpa using hi.2) fun j hj => ?_
    simp [hfree, Ne.symm hj]
  | unlocked hr =>
    rw [hr] at hi
    -- It was held by `i`, so the others are as far from it as before.
    have hheld : s.holder = some i := by simpa using hi.1
    refine h.update hi.2 fun j hj => ?_
    simp [hheld, Ne.symm hj]
  | reported hr =>
    rw [hr] at hi
    exact h.update hi fun _ _ => rfl

theorem Disciplined.reaches (h : s.Disciplined) (hs : s.Reaches t) : t.Disciplined := by
  induction hs with
  | refl => exact h
  | tail _ hstep ih =>
    obtain ⟨i, hi⟩ := hstep
    exact ih.step hi

theorem exists_step_of_free (hi : ∀ r, s.routines i ≠ .done r)
    (hfree : ∀ next, s.routines i = .lock next → s.holder = none) : ∃ t, Step s i t := by
  cases hr : s.routines i with
  | done r => exact absurd hr (hi r)
  | call c next =>
    obtain ⟨a⟩ : Nonempty c.Answer := inferInstance
    exact ⟨_, .answered hr a⟩
  | lock next => exact ⟨_, .locked hr (hfree next hr)⟩
  | unlock next => exact ⟨_, .unlocked hr⟩
  | report e next => exact ⟨_, .reported hr⟩

-- ---------------------------------------------------------------------------
-- Where the lock is, by where a routine stands
-- ---------------------------------------------------------------------------

theorem Disciplined.holder_call (h : s.Disciplined) (hr : s.routines i = .call c next) :
    c.changesMounts = (s.holder == some i) := by
  have hi := h i
  rw [hr] at hi
  exact hi.1

theorem Disciplined.holder_lock (h : s.Disciplined) (hr : s.routines i = .lock next) :
    s.holder ≠ some i := by
  have hi := h i
  rw [hr] at hi
  simpa using hi.1

theorem Disciplined.holder_unlock (h : s.Disciplined) (hr : s.routines i = .unlock next) :
    s.holder = some i := by
  have hi := h i
  rw [hr] at hi
  simpa using hi.1

theorem Disciplined.holder_done (h : s.Disciplined) (hr : s.routines i = .done r) :
    s.holder ≠ some i := by
  have hi := h i
  rw [hr] at hi
  simpa [Routine.Disciplined] using hi

/-- Whoever has the lock can go on; if nobody has it, anyone can. -/
theorem Disciplined.progress (h : s.Disciplined) (hi : ∀ r, s.routines i ≠ .done r) :
    ∃ j t, Step s j t := by
  cases hh : s.holder with
  | none => exact ⟨i, exists_step_of_free hi fun _ _ => hh⟩
  | some j =>
    refine ⟨j, exists_step_of_free ?_ ?_⟩
    · exact fun r hr => h.holder_done hr hh
    · exact fun next hr => absurd hh (h.holder_lock hr)

end Crew

end VolumeAgent
