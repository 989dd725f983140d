import VolumeAgent.Mount.Target
import VolumeAgent.Path.Internal
import VolumeAgent.Volume.Descriptor

/-!
# Creating a volume's sub-directory

The root of the filesystem is mounted at the internal path of the target,
the directory is created in it, and the internal mount is released whatever
came of that. A failed release is reported and does not change the outcome.
-/

namespace VolumeAgent.Mount

def release (o : Options) (internal : Path) : Attempt Unit := do
  match ← (cleanup o internal).outcome with
  | .ok () => pure ()
  | .error _ => Attempt.note .internalMountLeft

/-- Mounts the root of the volume's filesystem at the internal path. What is
mounted there already is stale and is cleaned up first. -/
def mountInternal (o : Options) (volume : Volume) (internal : Path) (options : List String) :
    Attempt Unit := do
  if ← ensureMountPoint internal then
    Attempt.note .staleInternalMount
    match ← (cleanup o internal).outcome with
    | .ok () => pure ()
    | .error failure => throw (.staleMountNotRemoved internal failure)
  mountOrRemoveTarget o volume.source internal lustre options

def provision (o : Options) (volume : Volume) (target : Path) (subDir : String)
    (options : List String) : Attempt Unit := do
  let internal ← Attempt.ofExcept (Path.internal o.workingDir target)
  let directory ← Attempt.ofExcept (Path.internalVolume o.workingDir target subDir)
  mountInternal o volume internal options
  let made ← Attempt.ask (.createDirAll directory directoryMode)
  release o internal
  match made with
  | .ok () => pure ()
  | .error e => throw (.subDirNotCreated e)

end VolumeAgent.Mount
