import VolumeAgent.Host.Tree
import VolumeAgent.Mount.Info
import VolumeAgent.Routine.Observe

/-!
# A host over a file tree

Directory calls go to the tree. Mount calls go either to a record of what
was mounted, which mounts nothing, or to the system, which here refuses
every change of its mount table and can only be asked.
-/

namespace VolumeAgent.Host

inductive Mounter where
  /-- The mounted paths, told apart by their components. -/
  | record (mounted : List (Path.Key × Bool))
  /-- The mount table as the kernel lists it. -/
  | system (listing : String)
deriving DecidableEq, Repr

structure LocalHost where
  tree : Tree := {}
  mounter : Mounter := .record []
deriving DecidableEq, Repr

/-- The device of a place: only the directory of processes is on its own. -/
def Place.device : Place → Nat
  | .proc => 1
  | .inside _ | .above _ | .root => 0

def knownMounts : String :=
  "1 0 0:1 / / rw - rootfs rootfs rw\n2 1 0:2 / /proc rw - proc proc rw\n"

namespace Tree

/-- The place of a path as system calls see it that take any bytes: a zero
character is an invalid argument. -/
def systemPlace (t : Tree) (p : Path) : Except IoError Place :=
  match t.resolve p true with
  | .error .zeroInPath => .error .invalid
  | r => r

/-- Whether a path is a mount point: it is on another device than the
directory it is in, or the table lists it. -/
def isSystemMount (t : Tree) (listing : String) (p : Path) : Except IoError Bool := do
  let place ← t.systemPlace p
  let parent ← t.systemPlace (p.parent?.getD ⟨"/"⟩)
  if place.device != parent.device then pure true
  else pure ((Mount.mountPoints listing).any fun m => (⟨m⟩ : Path).components == p.components)

/-- The system refuses to unmount, after it has looked the path up. -/
def systemUnmount (t : Tree) (p : Path) : Except MountError Unit :=
  match t.systemPlace p with
  | .ok _ => .error (.syscall "umount" .notPermitted)
  | .error e => .error (.syscall "umount" e)

/-- Sizes are not kept; a path that leads somewhere has some. -/
def capacity (t : Tree) (p : Path) : Except IoError Capacity :=
  (t.systemPlace p).map fun _ => default

end Tree

namespace LocalHost

def mount (s : LocalHost) (target : Path) : Except MountError Unit × LocalHost :=
  match s.mounter with
  | .record mounted => (.ok (), { s with mounter := .record (target.components :: mounted) })
  | .system _ => (.error (.helperNotRun .notPermitted), s)

def unmount (s : LocalHost) (target : Path) : Except MountError Unit × LocalHost :=
  match s.mounter with
  | .record mounted =>
    (.ok (), { s with mounter := .record (mounted.filter (· != target.components)) })
  | .system _ => (s.tree.systemUnmount target, s)

def isMountPoint (s : LocalHost) (p : Path) : Except IoError Bool :=
  match s.mounter with
  | .record mounted => (s.tree.resolve p true).map fun _ => mounted.contains p.components
  | .system listing => s.tree.isSystemMount listing p

def onTree (s : LocalHost) (r : α × Tree) : α × LocalHost := (r.1, { s with tree := r.2 })

def answer : (c : Call) → LocalHost → c.Answer × LocalHost
  | .mount _ target _ _, s => s.mount target
  | .unmount target, s | .forceUnmount target _, s => s.unmount target
  | .isMountPoint p, s => (s.isMountPoint p, s)
  | .createDirAll p _, s => s.onTree (s.tree.createDirAll p)
  | .removeDir p, s => s.onTree (s.tree.removeDir p)
  | .readDir p, s => (s.tree.readDir p, s)
  | .stat p, s => (s.tree.stat p, s)
  | .pathExists p, s => (s.tree.pathExists p, s)
  | .capacity p, s => (s.tree.capacity p, s)

def reports : Mounter → Call → List Event
  | .record _, .mount .. => [.mockMount]
  | _, _ => []

def host (mounter : Mounter) : Responder LocalHost := { answer, reports := reports mounter }

end LocalHost

end VolumeAgent.Host
