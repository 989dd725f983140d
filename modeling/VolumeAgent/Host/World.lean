import VolumeAgent.Routine.Observe

/-!
# A host in memory

Directories and files by key, a mount table, and a list of faults that
answer calls in the host's place. The keys without names are directories
that always exist. With `overlay`, an unmount takes along everything that was
made below the mount point.
-/

namespace VolumeAgent.Host

open VolumeAgent.Path (Key)

abbrev Table (α : Type) := List (Key × α)

namespace Table

def get? (t : Table α) (k : Key) : Option α := List.lookup k t

def has (t : Table α) (k : Key) : Bool := (t.get? k).isSome

def dropWhere (t : Table α) (gone : Key → Bool) : Table α := t.filter fun e => !gone e.1

def erase (t : Table α) (k : Key) : Table α := t.dropWhere (· == k)

def set (t : Table α) (k : Key) (a : α) : Table α := (k, a) :: t.erase k

theorem get?_dropWhere (t : Table α) (gone : Key → Bool) (k : Key) :
    (t.dropWhere gone).get? k = if gone k then none else t.get? k := by
  induction t with
  | nil => simp [dropWhere, get?]
  | cons e t ih =>
    obtain ⟨j, a⟩ := e
    simp only [dropWhere, get?] at ih ⊢
    by_cases hj : gone j
    · by_cases hk : k = j
      · subst hk; simpa [hj] using ih
      · simpa [hj, List.lookup_cons, beq_false_of_ne hk] using ih
    · by_cases hk : k = j
      · subst hk; simp [hj]
      · simpa [hj, List.lookup_cons, beq_false_of_ne hk] using ih

theorem get?_erase (t : Table α) (j k : Key) :
    (t.erase j).get? k = if k = j then none else t.get? k := by
  simp [erase, get?_dropWhere]

theorem get?_set (t : Table α) (j : Key) (a : α) (k : Key) :
    (t.set j a).get? k = if k = j then some a else t.get? k := by
  by_cases h : k = j
  · subst h; simp [set, get?]
  · have := get?_erase t j k
    simpa [set, get?, List.lookup_cons, beq_false_of_ne h, h] using this

end Table

inductive Node where
  | directory
  | file
deriving DecidableEq, Repr

structure Mounted where
  source : String
  fsType : String
  options : List String
deriving DecidableEq, Repr

/-- What a fault answers: an error of a filesystem call, an error of a mount
call, a truth value, names, or plain success. -/
inductive FaultResult where
  | fails (e : IoError)
  | refuses (e : MountError)
  | value (b : Bool)
  | entries (names : List String)
  | succeeds
deriving DecidableEq, Repr

/-- Calls without what they carry besides a path. -/
inductive CallKind where
  | mount
  | unmount
  | forceUnmount
  | isMountPoint
  | createDirAll
  | readDir
  | stat
  | pathExists
  | removeDir
  | capacity
deriving DecidableEq, Repr

def Call.kind : Call → CallKind
  | .mount .. => .mount
  | .unmount _ => .unmount
  | .forceUnmount .. => .forceUnmount
  | .isMountPoint _ => .isMountPoint
  | .createDirAll .. => .createDirAll
  | .readDir _ => .readDir
  | .stat _ => .stat
  | .pathExists _ => .pathExists
  | .removeDir _ => .removeDir
  | .capacity _ => .capacity

/-- Answers calls of one kind, on one path or on any, in the host's place. -/
structure Fault where
  kind : CallKind
  path : Option Key
  /-- Matching calls to let pass first. -/
  skip : Nat
  /-- Matching calls to answer; none means all. -/
  times : Option Nat
  result : FaultResult
deriving DecidableEq, Repr

def Fault.covers (f : Fault) (c : Call) : Bool :=
  f.kind == c.kind && f.path.all (· == c.path.key)

/-- The first fault that answers a call, and the faults afterwards. A fault
that lets the call pass is used up by one; one with nothing left is passed
over. -/
def takeFault (c : Call) : List Fault → Option FaultResult × List Fault
  | [] => (none, [])
  | f :: fs =>
    let passOver (f : Fault) :=
      let (result, fs) := takeFault c fs
      (result, f :: fs)
    if !f.covers c then passOver f
    else
      match f.skip, f.times with
      | skip + 1, _ => passOver { f with skip }
      | 0, some 0 => passOver f
      | 0, times => (some f.result, { f with times := times.map (· - 1) } :: fs)

/-- The answer of a fault to a call. An error of the wrong family, or a value
that the call does not give, is success without a result. -/
def FaultResult.answer (result : FaultResult) : (c : Call) → c.Answer
  | .mount .. | .unmount _ | .forceUnmount .. =>
    match result with
    | .refuses e => .error e
    | _ => .ok ()
  | .createDirAll .. | .stat _ | .removeDir _ =>
    match result with
    | .fails e => .error e
    | _ => .ok ()
  | .isMountPoint _ | .pathExists _ =>
    match result with
    | .fails e => .error e
    | .value b => .ok b
    | _ => .ok false
  | .readDir _ =>
    match result with
    | .fails e => .error e
    | .entries names => .ok names
    | _ => .ok []
  | .capacity _ =>
    match result with
    | .fails e => .error e
    | _ => .ok default

structure World where
  nodes : Table Node := []
  mounts : Table Mounted := []
  overlay : Bool := false
  faults : List Fault := []
deriving DecidableEq, Repr

namespace World

def node? (w : World) (p : Path) : Option Node :=
  if p.isEmpty then none
  else if p.key.isTop then some .directory
  else w.nodes.get? p.key

def children (w : World) (k : Key) : List String :=
  w.nodes.filterMap fun (j, _) =>
    if j.absolute == k.absolute && j.names.dropLast == k.names then j.names.getLast? else none

def withDirs (w : World) (k : Key) : World :=
  { w with nodes := k.chain.foldl (fun t j => t.set j .directory) w.nodes }

def withFile (w : World) (k : Key) : World :=
  if k.isTop then w else { w with nodes := w.nodes.set k .file }

def withMount (w : World) (k : Key) (m : Mounted) : World :=
  { w with mounts := w.mounts.set k m }

def withoutMount (w : World) (k : Key) : World :=
  { w with
    mounts := w.mounts.erase k
    nodes := if w.overlay then w.nodes.dropWhere (·.below k) else w.nodes }

def withoutNode (w : World) (k : Key) : World := { w with nodes := w.nodes.erase k }

def unmounted (w : World) (k : Key) : Except MountError Unit × World :=
  if w.mounts.has k then (.ok (), w.withoutMount k)
  else (.error (.syscall "umount" .invalid), w)

def createdDirs (w : World) (p : Path) : Except IoError Unit × World :=
  let k := p.key
  match k.chain.find? fun j => w.nodes.get? j == some .file with
  | some j => (.error (if j == k then .alreadyExists else .notDirectory), w)
  | none => (.ok (), w.withDirs k)

def removedDir (w : World) (p : Path) : Except IoError Unit × World :=
  let k := p.key
  match w.node? p with
  | none => (.error .noEntry, w)
  | some .file => (.error .notDirectory, w)
  | some .directory =>
    if k.isTop || w.mounts.has k then (.error .busy, w)
    else if !(w.children k).isEmpty then (.error .notEmpty, w)
    else (.ok (), w.withoutNode k)

def perform : (c : Call) → World → c.Answer × World
  | .mount source target fsType options, w =>
    (.ok (), w.withMount target.key ⟨source, fsType, options⟩)
  | .unmount target, w => w.unmounted target.key
  | .forceUnmount target _, w => w.unmounted target.key
  | .isMountPoint path, w =>
    (if (w.node? path).isSome then .ok (w.mounts.has path.key) else .error .noEntry, w)
  | .createDirAll path _, w => w.createdDirs path
  | .readDir path, w =>
    (match w.node? path with
      | none => .error .noEntry
      | some .file => .error .notDirectory
      | some .directory => .ok (w.children path.key), w)
  | .stat path, w => (if (w.node? path).isSome then .ok () else .error .noEntry, w)
  | .pathExists path, w => (.ok (w.node? path).isSome, w)
  | .removeDir path, w => w.removedDir path
  | .capacity path, w => (if (w.node? path).isSome then .ok default else .error .noEntry, w)

def answer (c : Call) (w : World) : c.Answer × World :=
  match takeFault c w.faults with
  | (some result, faults) => (result.answer c, { w with faults })
  | (none, faults) => perform c { w with faults }

def host : Responder World := { answer }

/-- A change made to the host from outside. -/
structure Change where
  remove : List Path := []
  unmount : List Path := []
  dirs : List Path := []
  files : List Path := []
  mounts : List Path := []
  overlay : Option Bool := none
  faults : Option (List Fault) := none

def preset : Mounted := ⟨"preset", "preset", []⟩

def apply (w : World) (c : Change) : World :=
  let w := c.remove.foldl (fun w p => w.withoutNode p.key) w
  let w := c.unmount.foldl (fun w p => { w with mounts := w.mounts.erase p.key }) w
  let w := c.dirs.foldl (fun w p => w.withDirs p.key) w
  let w := c.files.foldl (fun w p => (w.withDirs p.key.parent).withFile p.key) w
  let w := c.mounts.foldl (fun w p => (w.withDirs p.key).withMount p.key preset) w
  { w with overlay := c.overlay.getD w.overlay, faults := c.faults.getD w.faults }

end World

end VolumeAgent.Host
