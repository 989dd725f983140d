/-!
# Plain scalars that are not text

A reader of YAML takes some plain scalars for nothing, truth values or
numbers. Text that would be taken for one has to be quoted.
-/

namespace VolumeAgent.Yaml

def isNull (s : String) : Bool := ["", "null", "Null", "NULL", "~"].contains s

def isBool (s : String) : Bool :=
  ["true", "True", "TRUE", "false", "False", "FALSE"].contains s

def digitValue (base : Nat) (c : Char) : Option Nat :=
  let n :=
    if c.isDigit then c.toNat - '0'.toNat
    else if 'a' ≤ c && c ≤ 'f' then c.toNat - 'a'.toNat + 10
    else if 'A' ≤ c && c ≤ 'F' then c.toNat - 'A'.toNat + 10
    else base
  if n < base then some n else none

def digits? (base : Nat) (cs : List Char) : Option Nat :=
  if cs.isEmpty then none
  else cs.foldlM (fun n c => (digitValue base c).map (n * base + ·)) 0

def dropSign (cs : List Char) : List Char :=
  match cs with
  | '+' :: rest => rest
  | _ => cs

/-- More than one digit, the first of them zero: not a number. -/
def isPaddedDigits (cs : List Char) : Bool :=
  let cs := match cs with
    | '+' :: rest | '-' :: rest => rest
    | _ => cs
  match cs with
  | '0' :: _ :: _ => cs.all Char.isDigit
  | _ => false

def based? : List Char → Option (Nat × List Char)
  | '0' :: 'x' :: rest => some (16, rest)
  | '0' :: 'o' :: rest => some (8, rest)
  | '0' :: 'b' :: rest => some (2, rest)
  | _ => none

/-- The largest whole number of 128 bits, and the largest that may follow a
minus sign. -/
def maxInteger : Nat := Nat.pow 2 128 - 1

def maxNegated : Nat := Nat.pow 2 127

/-- Whole numbers of 128 bits, with a sign or without. -/
def isInteger (cs : List Char) : Bool :=
  let upTo (limit : Nat) (n : Option Nat) := n.any (· ≤ limit)
  let positive := dropSign cs
  let marked (cs : List Char) (limit : Nat) :=
    (based? cs).any fun (base, rest) => upTo limit (digits? base rest)
  marked positive maxInteger
    || (!isPaddedDigits cs && upTo maxInteger (digits? 10 positive))
    || match cs with
      | '-' :: rest =>
        marked rest maxNegated || (!isPaddedDigits cs && upTo maxNegated (digits? 10 rest))
      | _ => false

/-- Numbers from here on are not finite as binary numbers of 64 bits. -/
def infinite : Nat := Nat.pow 2 1024 - Nat.pow 2 970

def isFinite (mantissa : Nat) (exponent : Int) : Bool :=
  let length := (Nat.toDigits 10 mantissa).length
  if mantissa = 0 then true
  else if length + exponent > 400 then false
  else if length + exponent < 0 then true
  else if 0 ≤ exponent then mantissa * Nat.pow 10 exponent.toNat < infinite
  else mantissa < infinite * Nat.pow 10 (-exponent).toNat

def exponent? : List Char → Option Int
  | [] => some 0
  | e :: rest =>
    if e = 'e' || e = 'E' then
      match rest with
      | '-' :: digits => (digits? 10 digits).map fun n => -(n : Int)
      | _ => (digits? 10 (dropSign rest)).map Int.ofNat
    else none

/-- Finite decimal numbers: digits with at most one point, and an exponent. -/
def isDecimal (cs : List Char) : Bool :=
  let cs := match cs with
    | '-' :: rest => rest
    | _ => dropSign cs
  let whole := cs.takeWhile Char.isDigit
  let rest := cs.dropWhile Char.isDigit
  let (part, rest) := match rest with
    | '.' :: rest => (rest.takeWhile Char.isDigit, rest.dropWhile Char.isDigit)
    | _ => ([], rest)
  match digits? 10 (whole ++ part), exponent? rest with
  | some mantissa, some exponent => isFinite mantissa (exponent - part.length)
  | _, _ => false

def isFloat (cs : List Char) : Bool :=
  match cs with
  | '+' :: '+' :: _ | '+' :: '-' :: _ => false
  | _ =>
    [".inf", ".Inf", ".INF"].contains (String.ofList (dropSign cs))
      || ["-.inf", "-.Inf", "-.INF", ".nan", ".NaN", ".NAN"].contains (String.ofList cs)
      || isDecimal cs

/-- Text that a reader would take for something else, or that looks like a
number and is none. -/
def isAmbiguous (s : String) : Bool :=
  isNull s || isBool s || isInteger s.toList || isPaddedDigits s.toList || isFloat s.toList

end VolumeAgent.Yaml
