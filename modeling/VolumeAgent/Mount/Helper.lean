import VolumeAgent.Host.Error
import VolumeAgent.Path.Basic
import VolumeAgent.Text.Blank
import VolumeAgent.Text.Utf8

/-!
# The mount helper

A mount is made by a helper program. Its arguments name the filesystem type
and the options if there are any, then the source and the target; its ending
and what it wrote to standard error decide the outcome.
-/

namespace VolumeAgent.Mount.Helper

open Host (IoError MountError)

def arguments (source : String) (target : Path) (fsType : String) (options : List String) :
    List String :=
  (if fsType.isEmpty then [] else ["-t", fsType])
    ++ (if options.isEmpty then [] else ["-o", Text.join ',' options])
    ++ ["--no-mtab", source, target.text]

inductive Ending where
  | exited (status : Nat)
  | killed (signal : Nat)
deriving DecidableEq, Repr

def signalNames : List (Nat × String) :=
  [(1, "SIGHUP"), (2, "SIGINT"), (3, "SIGQUIT"), (4, "SIGILL"), (5, "SIGTRAP"), (6, "SIGABRT"),
   (7, "SIGBUS"), (8, "SIGFPE"), (9, "SIGKILL"), (10, "SIGUSR1"), (11, "SIGSEGV"),
   (12, "SIGUSR2"), (13, "SIGPIPE"), (14, "SIGALRM"), (15, "SIGTERM"), (16, "SIGSTKFLT"),
   (17, "SIGCHLD"), (18, "SIGCONT"), (19, "SIGSTOP"), (20, "SIGTSTP"), (21, "SIGTTIN"),
   (22, "SIGTTOU"), (23, "SIGURG"), (24, "SIGXCPU"), (25, "SIGXFSZ"), (26, "SIGVTALRM"),
   (27, "SIGPROF"), (28, "SIGWINCH"), (29, "SIGIO"), (30, "SIGPWR"), (31, "SIGSYS")]

def Ending.text : Ending → String
  | .exited status => "exit status: " ++ toString status
  | .killed signal =>
    let name := match signalNames.lookup signal with
      | some name => " (" ++ name ++ ")"
      | none => ""
    "signal: " ++ toString signal ++ name

/-- A helper cannot be given an argument that holds a zero character. -/
def refusal? (arguments : List String) : Option IoError :=
  if arguments.any (·.toList.contains '\x00') then
    some (.other "nul byte found in provided data")
  else none

def outcome (ending : Ending) (stderr : List UInt8) : Except MountError Unit :=
  if ending = .exited 0 then .ok ()
  else
    let output := Text.trimBlank (String.ofList (Text.decodeLossy stderr))
    .error (.helperFailed ending.text output)

end VolumeAgent.Mount.Helper
