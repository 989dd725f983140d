import VolumeAgent.Path.Basic

/-!
# Requests and what they are answered with
-/

namespace VolumeAgent

structure PublishRequest where
  volumeId : String
  target : Path
  /-- None if the request carried no context at all. -/
  context : Option (List (String × String)) := none
  readonly : Bool := false
  mountFlags : List String := []
  /-- Empty means Lustre. -/
  fsType : String := ""
deriving DecidableEq, Repr

structure UnpublishRequest where
  volumeId : String
  target : Path
deriving DecidableEq, Repr

structure StageRequest where
  volumeId : String
  stagingTarget : Path
deriving DecidableEq, Repr

structure StatsRequest where
  volumeId : String
  path : Path
deriving DecidableEq, Repr

structure Usage where
  available : Nat
  total : Nat
  used : Nat
deriving DecidableEq, Repr

def Usage.maximum : Nat := 0xffffffffffffffff

structure VolumeStats where
  bytes : Usage
  inodes : Usage
deriving DecidableEq, Repr

inductive Capability where
  | getVolumeStats
  | singleNodeMultiWriter
deriving DecidableEq, Repr

def Capability.all : List Capability := [.getVolumeStats, .singleNodeMultiWriter]

def Capability.name : Capability → String
  | .getVolumeStats => "GET_VOLUME_STATS"
  | .singleNodeMultiWriter => "SINGLE_NODE_MULTI_WRITER"

def Capability.ofName? (name : String) : Option Capability :=
  Capability.all.find? (·.name == name)

structure NodeInfo where
  nodeId : String
deriving DecidableEq, Repr

structure PluginInfo where
  name : String
  vendorVersion : String
deriving DecidableEq, Repr

/-- The mount options of a request, and whether it is read-only: `ro` comes
first if the request asks for it, and is then dropped from the flags; a flag
`ro` of the user also makes the mount read-only. -/
def mountOptions (readonly : Bool) (flags : List String) : List String × Bool :=
  let kept := if readonly then "ro" :: flags.filter (· != "ro") else flags
  (kept, readonly || flags.contains "ro")

end VolumeAgent
