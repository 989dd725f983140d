import VolumeAgent.Json.Basic
import VolumeAgent.Text.Quoted

/-!
# JSON as text

A compact form without blanks, and an indented form with one item a line
and two spaces for each level.
-/

namespace VolumeAgent.Json

def escapeChar (c : Char) : List Char :=
  if c = '"' || c = '\\' then ['\\', c]
  else if c = '\x08' then ['\\', 'b']
  else if c = '\x0c' then ['\\', 'f']
  else if c = '\n' then ['\\', 'n']
  else if c = '\r' then ['\\', 'r']
  else if c = '\t' then ['\\', 't']
  else if c.toNat < 0x20 then
    ['\\', 'u', '0', '0'] ++ Nat.toDigits 16 (c.toNat / 16) ++ Nat.toDigits 16 (c.toNat % 16)
  else [c]

def quote (s : String) : String :=
  String.ofList ('"' :: s.toList.flatMap escapeChar ++ ['"'])

def numberText (mantissa : Int) (places : Nat) : String :=
  let digits := Nat.toDigits 10 mantissa.natAbs
  let digits := List.replicate (places + 1 - digits.length) '0' ++ digits
  let whole := digits.take (digits.length - places)
  let rest := digits.drop (digits.length - places)
  let sign := if mantissa < 0 then "-" else ""
  sign ++ String.ofList (if rest.isEmpty then whole else whole ++ '.' :: rest)

mutual
def compact : Json → String
  | null => "null"
  | bool b => if b then "true" else "false"
  | number mantissa places => numberText mantissa places
  | text s => quote s
  | list items => "[" ++ compactItems items ++ "]"
  | object fields => "\x7b" ++ compactFields fields ++ "\x7d"
def compactItems : List Json → String
  | [] => ""
  | [j] => j.compact
  | j :: k :: rest => j.compact ++ "," ++ compactItems (k :: rest)
def compactFields : List (String × Json) → String
  | [] => ""
  | [(name, j)] => quote name ++ ":" ++ j.compact
  | (name, j) :: f :: rest => quote name ++ ":" ++ j.compact ++ "," ++ compactFields (f :: rest)
end

def newline (depth : Nat) : String := "\n" ++ String.ofList (List.replicate (2 * depth) ' ')

mutual
def prettyAt (depth : Nat) : Json → String
  | list (j :: rest) =>
    "[" ++ prettyItems (depth + 1) (j :: rest) ++ newline depth ++ "]"
  | object (f :: rest) =>
    "\x7b" ++ prettyFields (depth + 1) (f :: rest) ++ newline depth ++ "\x7d"
  | j => j.compact
def prettyItems (depth : Nat) : List Json → String
  | [] => ""
  | [j] => newline depth ++ j.prettyAt depth
  | j :: k :: rest => newline depth ++ j.prettyAt depth ++ "," ++ prettyItems depth (k :: rest)
def prettyFields (depth : Nat) : List (String × Json) → String
  | [] => ""
  | [(name, j)] => newline depth ++ quote name ++ ": " ++ j.prettyAt depth
  | (name, j) :: f :: rest =>
    newline depth ++ quote name ++ ": " ++ j.prettyAt depth ++ "," ++ prettyFields depth (f :: rest)
end

def pretty (j : Json) : String := j.prettyAt 0

end VolumeAgent.Json
