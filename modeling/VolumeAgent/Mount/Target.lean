import VolumeAgent.Mount.Probe
import VolumeAgent.Options

/-!
# Mounting and unmounting targets

Every call that changes the mount table is made under the mount lock, and
nothing else is. A cleanup unmounts, checks that the mount is gone and only
then removes the directory.
-/

namespace VolumeAgent.Mount

def makeDir (target : Path) : Attempt Unit := do
  match ← Attempt.ask (.createDirAll target directoryMode) with
  | .ok () => pure ()
  | .error e =>
    Attempt.note .targetNotMade
    throw (.targetNotCreated target e)

/-- Removes an empty directory. One that is gone already is no failure. -/
def removeDir (target : Path) : Attempt Unit := do
  match ← Attempt.ask (.removeDir target) with
  | .ok () => pure ()
  | .error e => if e.isMissing then pure () else throw (.targetNotRemoved target e)

def unmount (target : Path) : Attempt Unit := do
  match ← Attempt.askLocked (.unmount target) with
  | .ok () => pure ()
  | .error e => throw (.notUnmounted target e)

def forceUnmount (target : Path) (timeoutMs : Nat) : Attempt Unit := do
  match ← Attempt.askLocked (.forceUnmount target timeoutMs) with
  | .ok () => pure ()
  | .error e => throw (.notForced target e)

/-- Makes `target` ready to be mounted on. True means that it already is a
healthy mount point and was left alone; a corrupted mount is unmounted. -/
def ensureMountPoint (target : Path) : Attempt Bool := do
  match ← probe target with
  | .healthy => pure true
  | .corrupted =>
    Attempt.note .corruptedMountUnmounted
    unmount target
    makeDir target
    pure false
  | .notMounted =>
    makeDir target
    pure false

def mount (o : Options) (source : String) (target : Path) (fsType : String)
    (options : List String) : Attempt Unit := do
  makeDir target
  if o.redirects source then Attempt.note .sourceRedirected
  let (source, fsType) := o.redirected source fsType
  match ← Attempt.askLocked (.mount source target fsType options) with
  | .ok () => pure ()
  | .error e => throw (.notMounted source target e)

def mountOrRemoveTarget (o : Options) (source : String) (target : Path) (fsType : String)
    (options : List String) : Attempt Unit := do
  match ← (mount o source target fsType options).outcome with
  | .ok () => pure ()
  | .error failure =>
    match ← Attempt.ask (.removeDir target) with
    | .ok () => throw failure
    | .error e => throw (.mountTargetNotRemoved target e failure)

/-- Whether a cleanup has something to unmount. What looks like a broken
mount has. -/
def isMountedForCleanup (target : Path) : Attempt Bool := do
  match ← Attempt.ask (.isMountPoint target) with
  | .ok mounted => pure mounted
  | .error e =>
    if e.isMissing then pure false
    else if e.isBrokenMount then pure true
    else throw (.cleanupStateUnknown target e)

/-- Unmounts `target` if it is mounted, then removes it. A target that does
not exist is clean. -/
def cleanup (o : Options) (target : Path) : Attempt Unit := do
  match ← Attempt.ask (.pathExists target) with
  | .ok false => pure ()
  | .ok true =>
    if ← isMountedForCleanup target then
      forceUnmount target o.cleanupMs
      if ← isMountedForCleanup target then throw (.stillMounted target)
    removeDir target
  | .error e =>
    if e.isBrokenMount then
      Attempt.note .corruptedMountCleaned
      forceUnmount target o.cleanupMs
      removeDir target
    else throw (.targetNotStated target e)

/-- Whether the target's entry in its directory can be seen: the directory
can be listed and, if the entry is in it, the entry can be looked at. -/
def entryIsHealthy (target : Path) : Attempt Bool := do
  match target.parent? with
  | none => pure true
  | some parent =>
    match ← Attempt.ask (.readDir parent) with
    | .error _ =>
      Attempt.note .directoryNotListed
      pure false
    | .ok entries =>
      if target.fileName?.any entries.contains then
        match ← Attempt.ask (.stat target) with
        | .ok () => pure true
        | .error _ =>
          Attempt.note .entryNotStated
          pure false
      else pure true

/-- Takes a published target down. A target whose entry is not healthy is
unmounted first, whether that works or not. -/
def takeDown (o : Options) (target : Path) : Attempt Unit := do
  unless ← entryIsHealthy target do
    match ← (forceUnmount target o.forceUnmountMs).outcome with
    | .ok () => pure ()
    | .error _ => Attempt.note .firstUnmountFailed
  cleanup o target

end VolumeAgent.Mount
