import VolumeAgent.CommandLine.Grammar
import VolumeAgent.Options
import VolumeAgent.Request

/-!
# The agent's command line
-/

namespace VolumeAgent.CommandLine

inductive LogFormat where
  | text
  | json
deriving DecidableEq, Repr

inductive Task where
  | version
  | info
  | publish (request : PublishRequest)
  | unpublish (request : UnpublishRequest)
  | stats (request : StatsRequest)
deriving DecidableEq, Repr

structure Invocation where
  options : Options
  debug : Bool
  logFormat : LogFormat
  task : Task
deriving DecidableEq, Repr

/-- Options that may stand before or behind the subcommand. -/
def globalOptions : List Opt :=
  [{ name := "node-id", effect := .set .any, variableName := some "KUBE_NODE_NAME"
     label := "NODE_ID", help := "Node ID reported to the orchestrator", default := some "" },
   { name := "driver-name", effect := .set .any
     label := "DRIVER_NAME", help := "Name the driver registers under"
     default := some ({} : Options).driverName },
   { name := "working-mount-dir", effect := .set .path,
     variableName := some "LUSTRE_CSI_WORKING_MOUNT_DIR"
     label := "WORKING_MOUNT_DIR", help := "Directory for temporary internal mounts" },
   { name := "enable-mock-mount", effect := .switch
     help := "Record mounts in memory instead of mounting (testing only)" },
   { name := "swap-source-from", effect := .set .any,
     requires := ["swap-source-to", "swap-source-to-type"]
     label := "SWAP_SOURCE_FROM", help := "Mount source to replace" },
   { name := "swap-source-to", effect := .set .any
     label := "SWAP_SOURCE_TO", help := "Replacement mount source" },
   { name := "swap-source-to-type", effect := .set .any
     label := "SWAP_SOURCE_TO_TYPE"
     help := "Filesystem type of the replacement mount source" },
   { name := "debug", effect := .switch, help := "Enable debug logging" },
   { name := "log-format"
     effect := .set (.choice
       [("text", "Human-readable lines"), ("json", "One JSON object per event")])
     label := "LOG_FORMAT", help := "Log output format", default := some "text" }]

def askingOptions : List Opt :=
  [{ name := "help", short := some 'h', effect := .showHelp },
   { name := "version", short := some 'V', effect := .showVersion, help := "Print version" }]

def volumeIdWord : Positional := ⟨"volume-id", .any, "<VOLUME_ID>", "Volume ID"⟩

def targetPathWord : Positional := ⟨"path", .path, "<TARGET_PATH>", "Target path"⟩

def volumePathWord : Positional :=
  ⟨"path", .path, "<VOLUME_PATH>", "Path the volume is published at"⟩

def publishOptions : List Opt :=
  [{ name := "context", short := some 'c', effect := .append .pair
     label := "KEY=VALUE", help := "Volume context entry (repeatable)" },
   { name := "readonly", effect := .switch, help := "Publish read-only" },
   { name := "mount-flag", short := some 'o', effect := .append .any
     label := "MOUNT_FLAGS", help := "Mount flag (repeatable)" },
   { name := "fs-type", effect := .set .any
     label := "FS_TYPE", help := "Filesystem type (default: lustre)", default := some "" }]

def subcommand (name about : String) (own : List Opt) (positionals : List Positional) : Command :=
  { name, about, options := interleaved own globalOptions ++ askingOptions, positionals }

def program : Program :=
  { top :=
      { name := "lustre-csi-node"
        about := "Lustre CSI node agent: publishes and unpublishes Lustre mounts"
        options := globalOptions ++ askingOptions }
    subcommands :=
      [subcommand "version" "Print driver name, version and platform" [] [],
       subcommand "info" "Print plugin info, node info and node capabilities" [] [],
       subcommand "publish" "Publish a volume at a target path" publishOptions
         [volumeIdWord, targetPathWord],
       subcommand "unpublish" "Unpublish a volume from a target path" []
         [volumeIdWord, targetPathWord],
       subcommand "stats" "Print usage statistics of a published volume" []
         [volumeIdWord, volumePathWord]] }

namespace Findings

def values (f : Findings) (name : String) : List String :=
  ((f.lookup name).map (·.values)).getD []

def value? (f : Findings) (name : String) : Option String := (values f name).head?

def value (f : Findings) (name : String) : String := (value? f name).getD ""

def has (f : Findings) (name : String) : Bool := (f.lookup name).isSome

/-- A source is redirected if all three parts are given. -/
def redirect? (f : Findings) : Option Redirect := do
  let source ← value? f "swap-source-from"
  let target ← value? f "swap-source-to"
  pure ⟨source, target, ← value? f "swap-source-to-type"⟩

def options (f : Findings) : Options :=
  let base : Options := {}
  { base with
    nodeId := value f "node-id"
    driverName := (value? f "driver-name").getD base.driverName
    workingDir := ((value? f "working-mount-dir").map (⟨·⟩)).getD base.workingDir
    mockMount := has f "enable-mock-mount"
    redirect := redirect? f }

def publishRequest (f : Findings) : PublishRequest :=
  { volumeId := value f "volume-id"
    target := ⟨value f "path"⟩
    context := some ((values f "context").map pairOf)
    readonly := has f "readonly"
    mountFlags := values f "mount-flag"
    fsType := value f "fs-type" }

def task (f : Findings) : String → Task
  | "publish" => .publish (publishRequest f)
  | "unpublish" => .unpublish ⟨value f "volume-id", ⟨value f "path"⟩⟩
  | "stats" => .stats ⟨value f "volume-id", ⟨value f "path"⟩⟩
  | "info" => .info
  | _ => .version

end Findings

def Invocation.parse (env : List (String × String)) (args : List String) :
    Except Refusal Invocation := do
  let (name, found) ← program.parse env args
  pure
    { options := Findings.options found
      debug := Findings.has found "debug"
      logFormat := if Findings.value found "log-format" == "json" then .json else .text
      task := Findings.task found name }

end VolumeAgent.CommandLine
