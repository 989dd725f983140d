import VolumeAgent.Host.Error
import VolumeAgent.Path.Basic

/-!
# Calls to the host

Everything the agent asks of the host is one of these calls: three that
change the mount table, and questions and changes that concern directories.
Each call fixes the type of its answer.
-/

namespace VolumeAgent.Host

/-- Sizes of a filesystem, in blocks and nodes. -/
structure Capacity where
  blockSize : Nat
  blocks : Nat
  blocksFree : Nat
  blocksAvailable : Nat
  nodes : Nat
  nodesFree : Nat
deriving DecidableEq, Repr, Inhabited

inductive Call where
  | mount (source : String) (target : Path) (fsType : String) (options : List String)
  | unmount (target : Path)
  | forceUnmount (target : Path) (timeoutMs : Nat)
  | isMountPoint (path : Path)
  | createDirAll (path : Path) (mode : Nat)
  | readDir (path : Path)
  | stat (path : Path)
  | pathExists (path : Path)
  | removeDir (path : Path)
  | capacity (path : Path)
deriving DecidableEq, Repr

namespace Call

abbrev Answer : Call → Type
  | mount .. | unmount _ | forceUnmount .. => Except MountError Unit
  | createDirAll .. | stat _ | removeDir _ => Except IoError Unit
  | isMountPoint _ | pathExists _ => Except IoError Bool
  | readDir _ => Except IoError (List String)
  | capacity _ => Except IoError Capacity

def path : Call → Path
  | mount _ p _ _ | unmount p | forceUnmount p _ | isMountPoint p | createDirAll p _
  | readDir p | stat p | pathExists p | removeDir p | capacity p => p

/-- The calls that change the mount table. -/
def changesMounts : Call → Bool
  | mount .. | unmount _ | forceUnmount .. => true
  | _ => false

def hasEffect : Call → Bool
  | mount .. | unmount _ | forceUnmount .. | createDirAll .. | removeDir _ => true
  | _ => false

end Call

end VolumeAgent.Host
