import VolumeAgent.Event
import VolumeAgent.Failure
import VolumeAgent.Host.Call

/-!
# Routines

What the agent does is a tree: host calls with what follows each answer,
steps that take and give back the mount lock, and events. Nothing is done
until a tree is run, so the same routine can be run on a host, against
arbitrary answers, cut off after any call, or in turns with others.
-/

namespace VolumeAgent

open Host (Call)

inductive Routine (α : Type) where
  | done (result : α)
  | call (c : Call) (next : c.Answer → Routine α)
  | lock (next : Routine α)
  | unlock (next : Routine α)
  | report (e : Event) (next : Routine α)

namespace Routine

def bind : Routine α → (α → Routine β) → Routine β
  | done a, f => f a
  | call c next, f => call c fun answer => (next answer).bind f
  | lock next, f => lock (next.bind f)
  | unlock next, f => unlock (next.bind f)
  | report e next, f => report e (next.bind f)

instance : Monad Routine where
  pure := done
  bind := bind

theorem bind_done (r : Routine α) : r.bind done = r := by
  induction r with
  | done a => rfl
  | call c next ih => exact congrArg (call c) (funext ih)
  | lock next ih => exact congrArg lock ih
  | unlock next ih => exact congrArg unlock ih
  | report e next ih => exact congrArg (report e) ih

theorem bind_assoc (r : Routine α) (f : α → Routine β) (g : β → Routine γ) :
    (r.bind f).bind g = r.bind fun a => (f a).bind g := by
  induction r with
  | done a => rfl
  | call c next ih => exact congrArg (call c) (funext ih)
  | lock next ih => exact congrArg lock ih
  | unlock next ih => exact congrArg unlock ih
  | report e next ih => exact congrArg (report e) ih

instance : LawfulMonad Routine :=
  LawfulMonad.mk' Routine bind_done (fun _ _ => rfl) bind_assoc

def ask (c : Call) : Routine c.Answer := call c done

def note (e : Event) : Routine Unit := report e (done ())

/-- A host call made while holding the mount lock. -/
def askLocked (c : Call) : Routine c.Answer := lock (call c fun answer => unlock (done answer))

/-- Runs a routine against a state machine that answers calls. -/
def run (answer : (c : Call) → σ → c.Answer × σ) : Routine α → σ → α × σ
  | done a, s => (a, s)
  | call c next, s =>
    let (a, s) := answer c s
    (next a).run answer s
  | lock next, s | unlock next, s | report _ next, s => next.run answer s

theorem run_bind (answer : (c : Call) → σ → c.Answer × σ) (r : Routine α) (f : α → Routine β)
    (s : σ) : (r.bind f).run answer s =
      (f (r.run answer s).1).run answer (r.run answer s).2 := by
  induction r generalizing s with
  | done a => rfl
  | call c next ih => exact ih _ _
  | lock next ih => exact ih _
  | unlock next ih => exact ih _
  | report e next ih => exact ih _

end Routine

abbrev Attempt := ExceptT Failure Routine

namespace Attempt

def ask (c : Call) : Attempt c.Answer := liftM (Routine.ask c)

def askLocked (c : Call) : Attempt c.Answer := liftM (Routine.askLocked c)

def note (e : Event) : Attempt Unit := liftM (Routine.note e)

def ofExcept (r : Except Failure α) : Attempt α := ExceptT.mk (pure r)

/-- The outcome of an attempt as a value; this cannot fail. -/
def outcome (a : Attempt α) : Attempt (Except Failure α) := liftM a.run

end Attempt

end VolumeAgent
