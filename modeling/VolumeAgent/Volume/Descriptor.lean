import VolumeAgent.Failure
import VolumeAgent.Path.SubPath
import VolumeAgent.Volume.Interpolation

/-!
# What a request asks to mount

A descriptor is resolved afresh for every request from the volume identifier
and the volume context. The context decides the server and the
sub-directory; the identifier gives the name and the filesystem. An
identifier of the form `name#fsname#server[#sub-dir]` may disagree with the
context, which is reported and has no other effect.
-/

namespace VolumeAgent

structure Volume where
  /-- May be empty. -/
  name : String
  id : String
  server : String
  filesystem : String
  /-- Cleaned, so without slashes at its ends. -/
  subDir : Option String
deriving DecidableEq, Repr

namespace Volume

def defaultFilesystem : String := "lustrefs"

/-- The volume that an identifier of at least three fields between number
signs describes. -/
def ofId? (id : String) : Option Volume :=
  match Text.split '#' id with
  | name :: _ :: server :: rest =>
    let subDir := (rest.head?.map (Text.trimChar '/')).filter (!·.isEmpty)
    some ⟨name, id, server, defaultFilesystem, subDir⟩
  | _ => none

def isWordChar (c : Char) : Bool := c.isAlphanum || c == '-' || c == '_'

/-- The filesystem an identifier names: the first segment after `:/`, or the
identifier itself if it is a plain word. -/
def filesystemOfId (id : String) : String :=
  if id.toList.contains '#' then defaultFilesystem
  else
    match Text.cutAt [':', '/'] id.toList with
    | some (_, path) =>
      (((Text.fields '/' path).find? (!·.isEmpty)).map String.ofList).getD defaultFilesystem
    | none => if !id.isEmpty && id.toList.all isWordChar then id else defaultFilesystem

/-- The mount source of the filesystem's root. A server without a network is
taken to be on `tcp`. -/
def source (v : Volume) : String :=
  let address := if v.server.toList.contains '@' then v.server else v.server ++ "@tcp"
  address ++ ":/" ++ String.ofList (v.filesystem.toList.dropWhile (· == '/'))

def publishSource (v : Volume) : String :=
  match v.subDir with
  | some subDir => v.source ++ "/" ++ subDir
  | none => v.source

/-- A resolved volume, and whether the identifier disagrees with the
context. -/
structure Resolution where
  volume : Volume
  mismatch : Bool
deriving DecidableEq, Repr

/-- The sub-directory of a context as written, without slashes at its ends. -/
def rawSubDir (context : Context) : Option String :=
  (context.get? subDirKey).map (Text.trimChar '/')

def resolve (id : String) (pairs : List (String × String)) : Except Failure Resolution := do
  let context := Context.ofList pairs
  let raw := rawSubDir context
  if raw == some "" then throw .subDirEmpty
  let subDir := raw.map fun raw => Path.cleanSubpath (context.interpolate raw)
  let server ← match context.get? serverKey with
    | some server => if server.isEmpty then throw .serverMissing else pure server
    | none => throw .serverMissing
  let fromId := ofId? id
  let volume : Volume :=
    { name := (fromId.map (·.name)).getD ""
      id, server
      filesystem := filesystemOfId id
      subDir }
  let mismatch := fromId.any fun v => v.server != server || v.subDir != raw
  pure ⟨volume, mismatch⟩

end Volume

end VolumeAgent
