import VolumeAgent.Json.Basic
import VolumeAgent.Request
import VolumeAgent.Version

/-!
# Requests and answers as JSON

A structure is read from an object or from the list of its fields. Fields
that a request may leave out have defaults; null is a value only for the
volume context.
-/

namespace VolumeAgent

open Json (Record)

/-- Numbers of an answer fit in 64 bits. -/
def Json.usage? (j : Json) : Option Nat := do
  let n ← j.nat?
  if n ≤ Usage.maximum then some n else none

def Json.Record.getD (r : Record) (position : Nat) (name : String) (read : Json → Option α)
    (default : α) : Option α :=
  match r.get? position name with
  | some value => read value
  | none => some default

namespace PublishRequest

def ofJson? (j : Json) : Option PublishRequest := do
  let r ← j.record? 6
  let volumeId ← (← r.get? 0 "volume_id").text?
  let target ← (← r.get? 1 "target_path").text?
  let context ← match r, r.get? 2 "volume_context" with
    | .ordered _, none => none
    | _, value => Json.optional? Json.textMap? value
  let readonly ← r.getD 3 "readonly" Json.bool? false
  let mountFlags ← r.getD 4 "mount_flags" Json.texts? []
  let fsType ← r.getD 5 "fs_type" Json.text? ""
  pure { volumeId, target := ⟨target⟩, context, readonly, mountFlags, fsType }

def contextJson : Option (List (String × String)) → Json
  | some pairs => .object (pairs.map fun (name, value) => (name, .text value))
  | none => .null

def toJson (r : PublishRequest) : Json :=
  .object [
    ("volume_id", .text r.volumeId), ("target_path", .text r.target.text),
    ("volume_context", contextJson r.context),
    ("readonly", .bool r.readonly), ("mount_flags", .texts r.mountFlags),
    ("fs_type", .text r.fsType)]

end PublishRequest

def Json.twoTexts? (j : Json) (first second : String) : Option (String × String) := do
  let r ← j.record? 2
  let a ← (← r.get? 0 first).text?
  let b ← (← r.get? 1 second).text?
  pure (a, b)

def UnpublishRequest.ofJson? (j : Json) : Option UnpublishRequest := do
  let (volumeId, target) ← j.twoTexts? "volume_id" "target_path"
  pure ⟨volumeId, ⟨target⟩⟩

def UnpublishRequest.toJson (r : UnpublishRequest) : Json :=
  .object [("volume_id", .text r.volumeId), ("target_path", .text r.target.text)]

def StageRequest.ofJson? (j : Json) : Option StageRequest := do
  let (volumeId, target) ← j.twoTexts? "volume_id" "staging_target_path"
  pure ⟨volumeId, ⟨target⟩⟩

def StageRequest.toJson (r : StageRequest) : Json :=
  .object [("volume_id", .text r.volumeId), ("staging_target_path", .text r.stagingTarget.text)]

def StatsRequest.ofJson? (j : Json) : Option StatsRequest := do
  let (volumeId, path) ← j.twoTexts? "volume_id" "volume_path"
  pure ⟨volumeId, ⟨path⟩⟩

def StatsRequest.toJson (r : StatsRequest) : Json :=
  .object [("volume_id", .text r.volumeId), ("volume_path", .text r.path.text)]

def Usage.ofJson? (j : Json) : Option Usage := do
  let r ← j.record? 3
  let available ← (← r.get? 0 "available").usage?
  let total ← (← r.get? 1 "total").usage?
  let used ← (← r.get? 2 "used").usage?
  pure ⟨available, total, used⟩

def Usage.toJson (u : Usage) : Json :=
  .object [("available", .nat u.available), ("total", .nat u.total), ("used", .nat u.used)]

def VolumeStats.ofJson? (j : Json) : Option VolumeStats := do
  let r ← j.record? 2
  let bytes ← Usage.ofJson? (← r.get? 0 "bytes")
  let inodes ← Usage.ofJson? (← r.get? 1 "inodes")
  pure ⟨bytes, inodes⟩

def VolumeStats.toJson (s : VolumeStats) : Json :=
  .object [("bytes", s.bytes.toJson), ("inodes", s.inodes.toJson)]

/-- A name, alone or as an object with nothing under it. -/
def Capability.ofJson? : Json → Option Capability
  | .text name | .object [(name, .null)] => Capability.ofName? name
  | _ => none

def Capability.toJson (c : Capability) : Json := .text c.name

def NodeInfo.ofJson? (j : Json) : Option NodeInfo := do
  let r ← j.record? 1
  pure ⟨← (← r.get? 0 "node_id").text?⟩

def NodeInfo.toJson (i : NodeInfo) : Json := .object [("node_id", .text i.nodeId)]

def PluginInfo.ofJson? (j : Json) : Option PluginInfo := do
  let (name, vendorVersion) ← j.twoTexts? "name" "vendor_version"
  pure ⟨name, vendorVersion⟩

def PluginInfo.toJson (i : PluginInfo) : Json :=
  .object [("name", .text i.name), ("vendor_version", .text i.vendorVersion)]

def VersionInfo.ofJson? (j : Json) : Option VersionInfo := do
  let r ← j.record? 3
  let driverName ← (← r.get? 0 VersionInfo.nameKey).text?
  let driverVersion ← (← r.get? 1 VersionInfo.versionKey).text?
  let platform ← (← r.get? 2 VersionInfo.platformKey).text?
  pure ⟨driverName, driverVersion, platform⟩

def VersionInfo.toJson (i : VersionInfo) : Json :=
  .object [
    (VersionInfo.nameKey, .text i.driverName), (VersionInfo.versionKey, .text i.driverVersion),
    (VersionInfo.platformKey, .text i.platform)]

end VolumeAgent
