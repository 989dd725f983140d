import VolumeAgent.CommandLine.Execution
import VolumeAgent.CommandLine.Help
import VolumeAgent.Mount.Info

/-!
# The program

Reads the command line and the environment, carries out the routine on this
machine and prints the outcome. It starts no other program and makes no
system call on mounts: mounts are recorded if mock mounts are enabled, and
refused if not. What is mounted is read from the kernel's listing.
-/

namespace VolumeAgent.Machine

open Host (Call IoError MountError)
open CommandLine (Invocation LogFormat)

/-- The number of a system error. Some calls give it with the sign turned. -/
def errorNumber (code : UInt32) : Nat := min code.toNat (0 - code).toNat

def errorOf : IO.Error → IoError
  | .alreadyExists _ code _ | .otherError code _ | .resourceBusy code _
  | .resourceVanished code _ | .unsupportedOperation code _ | .hardwareFault code _
  | .unsatisfiedConstraints code _ | .illegalOperation code _ | .protocolError code _
  | .timeExpired code _ | .interrupted _ code _ | .noFileOrDirectory _ code _
  | .invalidArgument _ code _ | .permissionDenied _ code _ | .resourceExhausted _ code _
  | .inappropriateType _ code _ | .noSuchThing _ code _ => .os (errorNumber code)
  | .unexpectedEof => .other "unexpected end of file"
  | .userError text => .other text

def attempt (action : IO α) : IO (Except IoError α) := do
  match ← action.toBaseIO with
  | .ok a => pure (.ok a)
  | .error e => pure (.error (errorOf e))

/-- A path as an entry of its own directory, so that its place can be asked. -/
def entry (p : Path) : IO.FS.DirEntry := ⟨p.text, ""⟩

def onPath (p : Path) (action : IO α) : IO (Except IoError α) :=
  if p.isEmpty then pure (.error .noEntry) else attempt action

abbrev Recorded := Option (IO.Ref (List (Path.Key × Bool)))

def isMountPoint (recorded : Recorded) (p : Path) : IO (Except IoError Bool) :=
  onPath p do
    discard (entry p).root.metadata
    match recorded with
    | some mounts => pure ((← mounts.get).contains p.components)
    | none =>
      let listing ← IO.FS.readFile "/proc/self/mountinfo"
      pure ((Mount.mountPoints listing).any fun m => (⟨m⟩ : Path).components == p.components)

def changeMounts (recorded : Recorded) (refusal : MountError)
    (change : List (Path.Key × Bool) → List (Path.Key × Bool)) : IO (Except MountError Unit) := do
  match recorded with
  | some mounts => mounts.modify change; pure (.ok ())
  | none => pure (.error refusal)

def answer (recorded : Recorded) : (c : Call) → IO c.Answer
  | .mount _ target _ _ =>
    changeMounts recorded (.helperNotRun .notPermitted) (target.components :: ·)
  | .unmount target | .forceUnmount target _ =>
    changeMounts recorded (.syscall "umount" .notPermitted) (·.filter (· != target.components))
  | .isMountPoint p => isMountPoint recorded p
  | .createDirAll p _ =>
    if p.isEmpty then pure (.ok ()) else attempt (IO.FS.createDirAll p.text)
  | .removeDir p => onPath p (IO.FS.removeDir p.text)
  | .readDir p => onPath p do
    pure ((← (entry p).root.readDir).toList.map (·.fileName))
  | .stat p => onPath p (discard (entry p).root.symlinkMetadata)
  | .pathExists p => do
    match ← onPath p (discard (entry p).root.metadata) with
    | .ok () => pure (.ok true)
    | .error e => pure (if e.isMissing then .ok false else .error e)
  | .capacity _ => pure (.error .notImplemented)

def logLine : LogFormat → Event → String
  | .text, e => e.line
  | .json, e =>
    (Json.object [("level", .text e.level.name), ("message", .text e.message)]).compact

/-- Carries out a routine. Nothing else runs in this process, so its lock is
always free. -/
def perform (recorded : Recorded) (log : Event → IO Unit) : Routine α → IO α
  | .done a => pure a
  | .call c next => do
    match recorded, c with
    | some _, .mount .. => log .mockMount
    | _, _ => pure ()
    perform recorded log (next (← answer recorded c))
  | .lock next | .unlock next => perform recorded log next
  | .report e next => do
    log e
    perform recorded log next

def environment : IO (List (String × String)) := do
  let names := CommandLine.program.top.options.filterMap (·.variableName)
  let values ← names.mapM fun name => do
    pure ((← IO.getEnv name).map fun value => (name, value))
  pure (values.filterMap id)

def carryOut (i : Invocation) : IO UInt32 := do
  let recorded ← if i.options.mockMount then some <$> IO.mkRef [] else pure none
  let outcome ← perform recorded (fun e => IO.eprintln (logLine i.logFormat e)) i.execute
  IO.print outcome.output
  if let some report := outcome.report then IO.eprintln ("Error: " ++ report)
  pure outcome.exitCode.toUInt32

def refuse (env : List (String × String)) (r : CommandLine.Refusal) : IO UInt32 := do
  IO.print (r.output env)
  IO.eprint (r.complaint env)
  pure r.error.exitCode.toUInt32

end VolumeAgent.Machine

def main (args : List String) : IO UInt32 := do
  let env ← VolumeAgent.Machine.environment
  match VolumeAgent.CommandLine.Invocation.parse env args with
  | .ok invocation => VolumeAgent.Machine.carryOut invocation
  | .error refusal => VolumeAgent.Machine.refuse env refusal
