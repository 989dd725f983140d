import VolumeAgent.Failure
import VolumeAgent.Path.SubPath

/-!
# Where filesystem roots are mounted while a sub-directory is created

The internal path of a target repeats the target's path below the working
directory, so separate targets have separate internal paths.
-/

namespace VolumeAgent.Path

def internal (work target : Path) : Except Failure Path :=
  let relative := Text.trimChar '/' target.text
  if isStrictSubpath relative then .ok (work.join relative)
  else .error (.targetNotInternal relative)

def internalVolume (work target : Path) (subDir : String) : Except Failure Path := do
  let mounted ← internal work target
  if isStrictSubpath subDir then .ok (mounted.join (cleanSubpath subDir))
  else .error (.subDirNotStrict subDir)

end VolumeAgent.Path
