import VolumeAgent.Routine

/-!
# Running routines and watching them

A host answers calls from a state and may report something of its own. A
watched run keeps, next to the host's state, whether the mount lock is held,
every call with the state of the lock at that moment, and every event.
-/

namespace VolumeAgent

open Host (Call)

structure Responder (σ : Type) where
  answer : (c : Call) → σ → c.Answer × σ
  /-- What the host itself reports when it gets a call. -/
  reports : Call → List Event := fun _ => []

/-- A call, and whether the mount lock was held when it was made. -/
structure Step where
  call : Call
  locked : Bool
deriving DecidableEq, Repr

structure Watched (σ : Type) where
  host : σ
  locked : Bool := false
  steps : List Step := []
  events : List Event := []

def Watched.start (host : σ) : Watched σ := { host }

def Routine.watch (host : Responder σ) : Routine α → Watched σ → α × Watched σ
  | done a, w => (a, w)
  | call c next, w =>
    let (answer, state) := host.answer c w.host
    (next answer).watch host
      { w with
        host := state
        steps := w.steps ++ [⟨c, w.locked⟩]
        events := w.events ++ host.reports c }
  | lock next, w => next.watch host { w with locked := true }
  | unlock next, w => next.watch host { w with locked := false }
  | report e next, w => next.watch host { w with events := w.events ++ [e] }

end VolumeAgent
