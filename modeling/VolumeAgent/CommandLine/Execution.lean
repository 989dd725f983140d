import VolumeAgent.CommandLine.Invocation
import VolumeAgent.Json.Printer
import VolumeAgent.Request.Codec
import VolumeAgent.Service

/-!
# Carrying out a command line

The outcome is what goes to standard output, or the report of a failure.
-/

namespace VolumeAgent.CommandLine

def reportOf (doing : String) (f : Failure) : String :=
  "Failed to " ++ doing ++ ": " ++ f.message

def infoJson (o : Options) (plugin : PluginInfo) : Json :=
  .object [
    ("capabilities", .list (Service.capabilities.map Capability.toJson)),
    ("node", (Service.nodeInfo o).toJson),
    ("plugin", plugin.toJson)]

def publishedJson (published : Bool) (target : Path) (volumeId : String) : Json :=
  .object [
    ("published", .bool published), ("target_path", .text target.text),
    ("volume_id", .text volumeId)]

def Task.execute (o : Options) : Task → Routine (Except String String)
  | .version => pure (.ok (VersionInfo.ofName o.driverName).toYaml)
  | .info =>
    pure <|
      match Service.pluginInfo o with
      | .ok plugin => .ok (infoJson o plugin).pretty
      | .error f => .error (reportOf "get plugin info" f)
  | .publish request =>
    (Service.publish o request).run.bind fun
      | .ok () => pure (.ok (publishedJson true request.target request.volumeId).pretty)
      | .error f => pure (.error (reportOf "publish volume" f))
  | .unpublish request =>
    (Service.unpublish o request).run.bind fun
      | .ok () => pure (.ok (publishedJson false request.target request.volumeId).pretty)
      | .error f => pure (.error (reportOf "unpublish volume" f))
  | .stats request =>
    (Service.stats request).run.bind fun
      | .ok usage => pure (.ok usage.toJson.pretty)
      | .error f => pure (.error (reportOf "get volume stats" f))

structure Outcome where
  exitCode : Nat
  output : String := ""
  report : Option String := none
deriving DecidableEq, Repr

def Outcome.ofResult : Except String String → Outcome
  | .ok output => { exitCode := 0, output := output ++ "\n" }
  | .error report => { exitCode := 1, report := some report }

/-- An agent is started for every task but the version report; one that
mocks mounts says so. -/
def Invocation.execute (i : Invocation) : Routine Outcome := do
  if i.options.mockMount && i.task != .version then Routine.note .mockMountsEnabled
  let result ← i.task.execute i.options
  pure (.ofResult result)

end VolumeAgent.CommandLine
