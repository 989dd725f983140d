import VolumeAgent.Path.Basic

/-!
# Configuration of the agent
-/

namespace VolumeAgent

/-- The filesystem type of internal mounts, and of requests that name none. -/
def lustre : String := "lustre"

/-- Permission bits of mount targets and created sub-directories. -/
def directoryMode : Nat := 0o775

def agentVersion : String := "0.1.0"

def platform : String := "linux/x86_64"

/-- One mount source replaced by another, with the filesystem type of the
replacement. -/
structure Redirect where
  source : String
  target : String
  fsType : String
deriving DecidableEq, Repr

structure Options where
  nodeId : String := ""
  driverName : String := "lustre-csi.hpe.com"
  version : String := agentVersion
  /-- Filesystem roots are mounted below it while a sub-directory is made. -/
  workingDir : Path := ⟨"/tmp"⟩
  /-- Record mounts instead of mounting. -/
  mockMount : Bool := false
  redirect : Option Redirect := none
  /-- How long the first unmount of an unhealthy target may take. -/
  forceUnmountMs : Nat := 30000
  /-- How long the unmount inside a cleanup may take. -/
  cleanupMs : Nat := 10000
deriving DecidableEq, Repr

def Options.redirected (o : Options) (source fsType : String) : String × String :=
  match o.redirect with
  | some r => if r.source == source then (r.target, r.fsType) else (source, fsType)
  | none => (source, fsType)

def Options.redirects (o : Options) (source : String) : Bool :=
  o.redirect.any (·.source == source)

end VolumeAgent
