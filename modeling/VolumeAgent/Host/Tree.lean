import VolumeAgent.Host.Call

/-!
# A file tree with symbolic links

The tree below a working directory, as a table from the names on the way to
each entry. Paths are walked name by name: every segment but the last must
be a directory, links are followed up to a limit, and `..` leads out of the
working directory, level by level up to the root. Of what lies there, only
the root and `/proc` are known.
-/

namespace VolumeAgent.Host

inductive Entry where
  | directory
  | file
  | link (target : String)
deriving DecidableEq, Repr

structure Tree where
  entries : List (List String × Entry) := []
deriving DecidableEq, Repr

/-- Where a walk has come to: an entry below the working directory, a
directory some levels above it, the root, or the directory of processes. -/
inductive Place where
  | inside (names : List String)
  | above (levels : Nat)
  | root
  | proc
deriving DecidableEq, Repr

/-- What a walk looks for at the end of a path. -/
inductive Aim where
  /-- The entry itself, also if it is a link. -/
  | entry
  /-- What links at the end lead to. -/
  | target
  /-- A file to write, behind links at the end; it need not be there yet. -/
  | file
deriving DecidableEq, Repr

/-- What a walk has found: an entry, or a name that a directory has none
for. -/
inductive Found where
  | at (place : Place)
  | free (dir : Place) (name : String)
deriving DecidableEq, Repr

namespace Tree

def maxLinks : Nat := 40

/-- Bytes that a name, and a path with its end mark, may have. -/
def maxName : Nat := 255

def maxPath : Nat := 4096

/-- Levels that the working directory lies below the root. -/
def workingDepth : Nat := 2

def entry? (t : Tree) (names : List String) : Option Entry :=
  if names.isEmpty then some .directory else t.entries.lookup names

def placeEntry? (t : Tree) : Place → Option Entry
  | .inside names => t.entry? names
  | .above _ | .root | .proc => some .directory

def child? (t : Tree) : Place → String → Option Place
  | .inside names, name =>
    if (t.entry? (names ++ [name])).isSome then some (.inside (names ++ [name])) else none
  | .root, name => if name == "proc" then some .proc else none
  | .above _, _ | .proc, _ => none

def placeAbove (levels : Nat) : Place :=
  if levels < workingDepth then .above levels else .root

def parentPlace : Place → Place
  | .inside [] => placeAbove 1
  | .above levels => placeAbove (levels + 1)
  | .inside names => .inside names.dropLast
  | .root | .proc => .root

def startOf (segments : List String) (here : Place) : Place :=
  match segments with
  | "" :: _ :: _ => .root
  | _ => here

/-- Walks from `here`, following at most `links` links. A link at the end is
followed unless the walk aims at the entry itself. A file's name has nothing
after it, not even a separator. -/
def walk (t : Tree) (aim : Aim) (links : Nat) (here : Place) :
    List String → Except IoError Found
  | [] => .ok (.at here)
  | s :: rest =>
    if t.placeEntry? here != some .directory then .error .notDirectory
    else if Path.isStill s then t.walk aim links here rest
    else if s == ".." then t.walk aim links (parentPlace here) rest
    else if aim = .file ∧ rest ≠ [] ∧ rest.all (·.isEmpty) then .error .isDirectory
    else if s.utf8ByteSize > maxName then .error .nameTooLong
    else
      match t.child? here s with
      | none => if aim = .file ∧ rest = [] then .ok (.free here s) else .error .noEntry
      | some next =>
        match t.placeEntry? next with
        | some (.link target) =>
          if aim = .entry ∧ rest = [] then .ok (.at next)
          else
            match links with
            | 0 => .error .linkLoop
            | links + 1 =>
              let segments := Text.split '/' target
              t.walk aim links (startOf segments here) (segments ++ rest)
        | _ => t.walk aim links next rest
termination_by segments => (links, segments.length)

def refusal? (p : Path) : Option IoError :=
  if p.text.toList.contains '\x00' then some .zeroInPath
  else if p.isEmpty then some .noEntry
  else if p.text.utf8ByteSize ≥ maxPath then some .nameTooLong
  else none

def search (t : Tree) (p : Path) (aim : Aim) : Except IoError Found :=
  match refusal? p with
  | some e => .error e
  | none => t.walk aim maxLinks (startOf p.segments (.inside [])) p.segments

def Found.place : Found → Except IoError Place
  | .at place => .ok place
  | .free .. => .error .noEntry

def resolve (t : Tree) (p : Path) (follow : Bool) : Except IoError Place :=
  t.search p (if follow then .target else .entry) >>= Found.place

/-- The directory that the last segment of a path is looked up in, and that
segment: empty for the root. Separators at the end do not count. -/
def resolveLast (t : Tree) (p : Path) : Except IoError (Place × String) :=
  match refusal? p with
  | some e => .error e
  | none =>
    match (p.segments.reverse.dropWhile (·.isEmpty)) with
    | [] => .ok (.root, "")
    | last :: before =>
      let before := before.reverse ++ [""]
      let start := if p.isAbsolute then Place.root else .inside []
      (t.walk .target maxLinks start before >>= Found.place).map (·, last)

def isDirectory (t : Tree) (p : Path) : Bool :=
  match t.resolve p true with
  | .ok place => t.placeEntry? place == some .directory
  | .error _ => false

def names (t : Tree) (dir : List String) : List String :=
  t.entries.filterMap fun (names, _) =>
    if names.dropLast == dir then names.getLast? else none

def insert (t : Tree) (names : List String) (e : Entry) : Tree :=
  ⟨t.entries ++ [(names, e)]⟩

def erase (t : Tree) (names : List String) : Tree :=
  ⟨t.entries.filter (·.1 != names)⟩

/-- A new entry under the last segment of a path, where nothing is yet. Only
a directory's name may have separators after it. -/
def makeEntry (t : Tree) (p : Path) (e : Entry) : Except IoError Tree := do
  let (dir, last) ← t.resolveLast p
  if Path.isStill last || last == ".." then throw .alreadyExists
  if last.utf8ByteSize > maxName then throw .nameTooLong
  if (t.child? dir last).isSome then throw .alreadyExists
  if e ≠ .directory ∧ p.segments.getLast? = some "" then throw .noEntry
  match dir with
  | .inside names => pure (t.insert (names ++ [last]) e)
  | _ => throw .readOnly

def ancestors : Nat → Path → List Path
  | 0, _ => []
  | count + 1, p =>
    p :: match p.parent? with
      | some up => ancestors count up
      | none => []

/-- Makes the first path of the list a directory, and the ones after it
where they are missing. A directory that exists is fine, also behind links;
what was made before an error stays. -/
def makeDirs (t : Tree) : List Path → Except IoError Unit × Tree
  | [] => (.error (.other "failed to create whole tree"), t)
  | p :: up =>
    if p.isEmpty then (.ok (), t)
    else
      match t.makeEntry p .directory with
      | .ok t => (.ok (), t)
      | .error e =>
        if e.isMissing then
          match t.makeDirs up with
          | (.error e, t) => (.error e, t)
          | (.ok (), t) =>
            match t.makeEntry p .directory with
            | .ok t => (.ok (), t)
            | .error e => (if t.isDirectory p then .ok () else .error e, t)
        else (if t.isDirectory p then .ok () else .error e, t)

def createDirAll (t : Tree) (p : Path) : Except IoError Unit × Tree :=
  t.makeDirs (ancestors (p.segments.length + 1) p)

def readDir (t : Tree) (p : Path) : Except IoError (List String) := do
  let place ← t.resolve p true
  match t.placeEntry? place, place with
  | some .directory, .inside names => pure (t.names names)
  | some .directory, .root => pure ["proc"]
  | some .directory, _ => pure []
  | _, _ => throw .notDirectory

/-- Whether a path leads to an entry, a link at its end included. -/
def stat (t : Tree) (p : Path) : Except IoError Unit := do
  discard (t.resolve p false)

def pathExists (t : Tree) (p : Path) : Except IoError Bool :=
  match t.resolve p true with
  | .ok _ => .ok true
  | .error e => if e.isMissing then .ok false else .error e

def removable (t : Tree) (p : Path) : Except IoError (List String) := do
  let (dir, last) ← t.resolveLast p
  if last.isEmpty then throw .busy
  if last == "." then throw .invalid
  if last == ".." then throw .notEmpty
  if last.utf8ByteSize > maxName then throw .nameTooLong
  match t.child? dir last with
  | none => throw .noEntry
  | some (.inside names) =>
    if t.entry? names != some .directory then throw .notDirectory
    if !(t.names names).isEmpty then throw .notEmpty
    pure names
  | some _ => throw .busy

def removeDir (t : Tree) (p : Path) : Except IoError Unit × Tree :=
  match t.removable p with
  | .ok names => (.ok (), t.erase names)
  | .error e => (.error e, t)

/-- Writes a file, over one that exists, and makes one where a link leads to
nothing. -/
def writeFile (t : Tree) (p : Path) : Except IoError Tree := do
  match ← t.search p .file with
  | .at place => if t.placeEntry? place = some .directory then throw .isDirectory else pure t
  | .free (.inside names) name => pure (t.insert (names ++ [name]) .file)
  | .free _ _ => throw .readOnly

def linkRefusal? (target : String) (p : Path) : Option IoError :=
  if (target ++ p.text).toList.contains '\x00' then some .zeroInPath
  else refusal? ⟨target⟩

def makeLink (t : Tree) (p : Path) (target : String) : Except IoError Tree :=
  match linkRefusal? target p with
  | some e => .error e
  | none => t.makeEntry p (.link target)

def listing (t : Tree) : List String :=
  t.entries.map fun (names, e) =>
    let mark := match e with
      | .directory => "d "
      | .file => "f "
      | .link _ => "l "
    mark ++ Text.join '/' names

end Tree

end VolumeAgent.Host
