import VolumeAgent.Yaml.Number

/-!
# Text as a YAML scalar

The style is plain where that reads back as the same text, single quotes
where it does not, and double quotes with escapes where single quotes will
not do. Text of several lines is a literal block.
-/

namespace VolumeAgent.Yaml

def isBreak (c : Char) : Bool :=
  c == '\n' || c == '\r' || c == '\x85' || c == '\u2028' || c == '\u2029'

def isPrintable (c : Char) : Bool :=
  let n := c.toNat
  n == 0xa || (0x20 ≤ n && n ≤ 0x7e)
    || (0xa0 ≤ n && n != 0xfeff && n != 0xfffe && n != 0xffff)

def endsWord (c : Option Char) : Bool :=
  match c with
  | none => true
  | some c => c == ' ' || c == '\t' || c == '\x00' || isBreak c

/-- Characters that start something else than a plain scalar. -/
def indicators : List Char :=
  ['#', ',', '[', ']', '\x7b', '\x7d', '&', '*', '!', '|', '>', '\'', '"', '%', '@', '\x60']

/-- Whether a character with its neighbours is punctuation inside the text. -/
def separatesAt (before : Option Char) (c : Char) (after : Option Char) : Bool :=
  match before with
  | none => indicators.contains c || ((c == '?' || c == ':' || c == '-') && endsWord after)
  | some _ => (c == ':' && endsWord after) || (c == '#' && endsWord before)

def separatesFrom (before : Option Char) : List Char → Bool
  | [] => false
  | c :: cs => separatesAt before c cs.head? || separatesFrom (some c) cs

def hasSeparator (cs : List Char) : Bool :=
  ['-', '-', '-'].isPrefixOf cs || ['.', '.', '.'].isPrefixOf cs || separatesFrom none cs

def adjacent (p q : Char → Bool) : List Char → Bool
  | c :: d :: cs => (p c && q d) || adjacent p q (d :: cs)
  | _ => false

inductive Style where
  | plain
  | single
  | double
  | literal
deriving DecidableEq, Repr

def isSpace (c : Char) : Bool := c == ' '

/-- Single quotes keep everything but unprintable characters and spaces next
to a line break. -/
def singleAllowed (cs : List Char) : Bool :=
  cs.all isPrintable && !adjacent isBreak isSpace cs && !adjacent isSpace isBreak cs

def plainAllowed (cs : List Char) : Bool :=
  singleAllowed cs && !cs.any isBreak && !hasSeparator cs
    && !cs.head?.any isSpace && !cs.getLast?.any isSpace

/-- A literal block keeps no space at the end of a line. -/
def literalAllowed (cs : List Char) : Bool :=
  cs.all isPrintable && !adjacent isSpace isBreak cs && !cs.getLast?.any isSpace

def styleOf (s : String) : Style :=
  let cs := s.toList
  if cs.contains '\n' then if literalAllowed cs then .literal else .double
  else if !isAmbiguous s && plainAllowed cs then .plain
  else if singleAllowed cs then .single
  else .double

def hexPadded (width n : Nat) : List Char :=
  let digits := (Nat.toDigits 16 n).map Char.toUpper
  List.replicate (width - digits.length) '0' ++ digits

def shortEscapes : List (Char × Char) :=
  [('\x00', '0'), ('\x07', 'a'), ('\x08', 'b'), ('\t', 't'), ('\n', 'n'), ('\x0b', 'v'),
   ('\x0c', 'f'), ('\r', 'r'), ('\x1b', 'e'), ('"', '"'), ('\\', '\\'), ('\x85', 'N'),
   ('\xa0', '_'), ('\u2028', 'L'), ('\u2029', 'P')]

def escapeInDouble (c : Char) : List Char :=
  if isPrintable c && !isBreak c && c != '"' && c != '\\' then [c]
  else
    match shortEscapes.lookup c with
    | some e => ['\\', e]
    | none =>
      if c.toNat ≤ 0xff then '\\' :: 'x' :: hexPadded 2 c.toNat
      else if c.toNat ≤ 0xffff then '\\' :: 'u' :: hexPadded 4 c.toNat
      else '\\' :: 'U' :: hexPadded 8 c.toNat

/-- The text inside single quotes. What follows a line break is indented. -/
def inSingle : Bool → List Char → List Char
  | broken, [] => if broken then [' ', ' '] else []
  | broken, c :: cs =>
    if isBreak c then c :: inSingle true cs
    else
      (if broken then [' ', ' '] else []) ++ (if c = '\'' then ['\'', '\''] else [c])
        ++ inSingle false cs

def inLiteral : Bool → List Char → List Char
  | _, [] => []
  | broken, c :: cs =>
    if isBreak c then c :: inLiteral true cs
    else (if broken then [' ', ' '] else []) ++ c :: inLiteral false cs

/-- How the line breaks at the end of a literal block are kept: not at all,
one, or all of them. -/
def chomping (cs : List Char) : List Char :=
  match cs.reverse with
  | [] => ['-']
  | last :: before =>
    if !isBreak last then ['-']
    else if before.head?.all isBreak then ['+']
    else []

def literal (cs : List Char) : List Char :=
  let indent := if cs.head?.any fun c => isSpace c || isBreak c then ['2'] else []
  let body := inLiteral true cs
  let ended := if cs.getLast?.any isBreak then [] else ['\n']
  '|' :: indent ++ chomping cs ++ '\n' :: body ++ ended

def scalarLine (s : String) : String :=
  let cs := s.toList
  String.ofList <|
    match styleOf s with
    | .plain => cs ++ ['\n']
    | .single => '\'' :: inSingle false cs ++ ['\'', '\n']
    | .double => '"' :: cs.flatMap escapeInDouble ++ ['"', '\n']
    | .literal => literal cs

end VolumeAgent.Yaml
