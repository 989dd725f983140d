import VolumeAgent.Mount.Provision
import VolumeAgent.Request

/-!
# The node and identity services

Publishing keeps no state: each request looks at the target again, so one
that is repeated finds a healthy mount or repairs what is there.
-/

namespace VolumeAgent.Service

/-- Creates the sub-directory of a volume unless the mount is read-only,
where it is taken to exist. -/
def prepareSubDir (o : Options) (volume : Volume) (target : Path) (options : List String)
    (readonly : Bool) : Attempt Unit := do
  match volume.subDir with
  | none => pure ()
  | some subDir =>
    if !Path.isStrictSubpath subDir then throw .contextSubDirNotStrict
    if !readonly then Mount.provision o volume target subDir options

def resolve (volumeId : String) (context : List (String × String)) : Attempt Volume := do
  let resolution ← Attempt.ofExcept (Volume.resolve volumeId context)
  if resolution.mismatch then Attempt.note .contextMismatch
  pure resolution.volume

/-- Makes the volume available at the target. A target that is mounted
already is left as it is. -/
def publish (o : Options) (request : PublishRequest) : Attempt Unit := do
  if request.volumeId.isEmpty then throw .volumeIdMissing
  if request.target.isEmpty then throw .targetNotProvided
  let some context := request.context | throw .contextMissing
  let volume ← resolve request.volumeId context
  let (options, readonly) := mountOptions request.readonly request.mountFlags
  prepareSubDir o volume request.target options readonly
  if ← Mount.ensureMountPoint request.target then
    Attempt.note .alreadyMounted
  else
    let fsType := if request.fsType.isEmpty then lustre else request.fsType
    Mount.mountOrRemoveTarget o volume.publishSource request.target fsType options
    Attempt.note .published

/-- Takes the target down. A target that does not exist is unpublished. -/
def unpublish (o : Options) (request : UnpublishRequest) : Attempt Unit := do
  if request.volumeId.isEmpty then throw .volumeIdMissing
  if request.target.isEmpty then throw .targetMissing
  match ← (Mount.takeDown o request.target).outcome with
  | .ok () => Attempt.note .unpublished
  | .error failure => throw (.targetNotUnpublished request.target failure)

/-- Staging is not offered: all mounts of one cluster share a device number,
so an unstage check for other mounts would find those of other volumes. -/
def stage (_ : StageRequest) : Attempt Unit := throw (.unsupported "NodeStageVolume")

def unstage (_ : StageRequest) : Attempt Unit := throw (.unsupported "NodeUnstageVolume")

def expand (_volumeId : String) : Attempt Unit := throw (.unsupported "NodeExpandVolume")

def statsOfCapacity (c : Host.Capacity) : VolumeStats :=
  let bytes (blocks : Nat) := min (blocks * c.blockSize) Usage.maximum
  { bytes := ⟨bytes c.blocksAvailable, bytes c.blocks, bytes (c.blocks - c.blocksFree)⟩
    inodes := ⟨c.nodesFree, c.nodes, c.nodes - c.nodesFree⟩ }

def stats (request : StatsRequest) : Attempt VolumeStats := do
  if request.volumeId.isEmpty then throw .statsVolumeIdEmpty
  if request.path.isEmpty then throw .statsPathEmpty
  match ← Attempt.ask (.stat request.path) with
  | .error e =>
    throw (if e.isMissing then .pathGone request.path else .pathNotStated request.path e)
  | .ok () =>
    match ← Attempt.ask (.capacity request.path) with
    | .error e => throw (.usageUnknown e)
    | .ok capacity => pure (statsOfCapacity capacity)

def capabilities : List Capability := Capability.all

def nodeInfo (o : Options) : NodeInfo := ⟨o.nodeId⟩

def pluginInfo (o : Options) : Except Failure PluginInfo :=
  if o.driverName.isEmpty then .error .driverNameMissing
  else if o.version.isEmpty then .error .driverVersionMissing
  else .ok ⟨o.driverName, o.version⟩

def ready : Bool := true

end VolumeAgent.Service
