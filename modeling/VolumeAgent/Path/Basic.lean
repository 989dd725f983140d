import VolumeAgent.Text.Fields

/-!
# Paths

A path is kept as it was written. Its segments are the fields between
slashes; `parent?` and `fileName?` ignore empty segments and `.` except at
the start, and `key` says which place a path names when only its text is
known.
-/

namespace VolumeAgent

structure Path where
  text : String
deriving DecidableEq, Repr, Inhabited

namespace Path

def isEmpty (p : Path) : Bool := p.text.isEmpty

def isAbsolute (p : Path) : Bool := p.text.toList.head? == some '/'

/-- Everything between slashes, empty segments included. -/
def segments (p : Path) : List String := Text.split '/' p.text

/-- A segment that does not move: empty or a single dot. -/
def isStill (segment : String) : Bool := segment == "" || segment == "."

def trimStill (segments : List String) : List String :=
  (segments.reverse.dropWhile isStill).reverse

/-- The first segment, which is empty in an absolute path, and the others up
to the last one that moves. -/
def body (p : Path) : String × List String :=
  match p.segments with
  | [] => ("", [])
  | first :: rest => (first, trimStill rest)

/-- The path without its last component, in the spelling it had. The root
and the empty path have none. -/
def parent? (p : Path) : Option Path :=
  match p.body with
  | (first, []) => if first == "" then none else some ⟨""⟩
  | (first, rest) =>
    match trimStill rest.dropLast with
    | [] => if p.isAbsolute then some ⟨"/"⟩ else some ⟨first⟩
    | rest => some ⟨Text.join '/' (first :: rest)⟩

/-- The last component, unless it is the root, `.` or `..`. -/
def fileName? (p : Path) : Option String :=
  let (first, rest) := p.body
  let name := rest.getLast?.getD first
  if name == "" || name == "." || name == ".." then none else some name

/-- `p` with a relative path behind it, or an absolute path instead of it. -/
def join (p : Path) (tail : String) : Path :=
  if tail.toList.head? == some '/' then ⟨tail⟩
  else if p.isEmpty || p.text.toList.getLast? == some '/' then ⟨p.text ++ tail⟩
  else ⟨p.text ++ "/" ++ tail⟩

/-- Which place a path names, read from its text: absolute or not, and its
segments without the empty ones and `.`; `..` counts as a name. -/
structure Key where
  absolute : Bool
  names : List String
deriving DecidableEq, Repr, Inhabited

def key (p : Path) : Key :=
  ⟨p.isAbsolute, p.segments.filter (!isStill ·)⟩

/-- Like `key`, but a relative path that starts with `.` is distinguished. -/
def components (p : Path) : Key × Bool :=
  (p.key, p.segments.head? == some ".")

end Path

namespace Path.Key

def text (k : Key) : String :=
  if k.absolute then "/" ++ Text.join '/' k.names
  else if k.names.isEmpty then "."
  else Text.join '/' k.names

/-- A key with no names: the root, or the directory that relative paths
start from. -/
def isTop (k : Key) : Bool := k.names.isEmpty

/-- `k` is strictly below `above`. -/
def below (k above : Key) : Bool :=
  k.absolute == above.absolute && above.names.isPrefixOf k.names && above.names != k.names

def parent (k : Key) : Key := ⟨k.absolute, k.names.dropLast⟩

/-- The keys on the way to `k`, shortest first, `k` last; without the top. -/
def chain (k : Key) : List Key :=
  (List.range k.names.length).map fun n => ⟨k.absolute, k.names.take (n + 1)⟩

end Path.Key

end VolumeAgent
