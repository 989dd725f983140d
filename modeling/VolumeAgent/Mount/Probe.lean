import VolumeAgent.Routine

/-!
# The state of a mount point

The state is asked for anew each time. A path that does not exist is not
mounted; one whose check fails as a broken mount does, or whose mount cannot
be listed, counts as corrupted.
-/

namespace VolumeAgent.Mount

inductive State where
  | notMounted
  | healthy
  | corrupted
deriving DecidableEq, Repr

def probe (path : Path) : Attempt State := do
  match ← Attempt.ask (.isMountPoint path) with
  | .ok false => pure .notMounted
  | .ok true =>
    match ← Attempt.ask (.readDir path) with
    | .ok _ => pure .healthy
    | .error _ =>
      Attempt.note .mountNotListable
      pure .corrupted
  | .error e =>
    if e.isMissing then pure .notMounted
    else if e.isBrokenMount then
      Attempt.note .corruptedMountFound
      pure .corrupted
    else throw (.mountStateUnknown path e)

end VolumeAgent.Mount
