/-!
# JSON values

Fields of an object keep their order. A number is a whole number of decimal
units, so that `1.0` is told apart from `1`.
-/

namespace VolumeAgent

inductive Json where
  | null
  | bool (b : Bool)
  /-- `mantissa` divided by ten to the power of `places`. -/
  | number (mantissa : Int) (places : Nat)
  | text (s : String)
  | list (items : List Json)
  | object (fields : List (String × Json))
deriving Repr, Inhabited

namespace Json

def nat (n : Nat) : Json := .number n 0

def texts (ss : List String) : Json := .list (ss.map .text)

def text? : Json → Option String
  | text s => some s
  | _ => none

def bool? : Json → Option Bool
  | bool b => some b
  | _ => none

/-- Whole numbers without a decimal point. -/
def int? : Json → Option Int
  | number mantissa 0 => some mantissa
  | _ => none

def nat? (j : Json) : Option Nat :=
  j.int?.bind fun n => if 0 ≤ n then some n.toNat else none

def texts? : Json → Option (List String)
  | list items => items.mapM text?
  | _ => none

def textMap? : Json → Option (List (String × String))
  | object fields => fields.mapM fun (name, value) => value.text?.map (name, ·)
  | _ => none

/-- Present and not null. -/
def optional? (read : Json → Option α) : Option Json → Option (Option α)
  | none | some null => some none
  | some value => (read value).map some

/-- A structure written with names, or as its fields in order. -/
inductive Record where
  | named (fields : List (String × Json))
  | ordered (items : List Json)

/-- Reads a structure of `size` fields. Names that are not looked at are
allowed, surplus items are not. -/
def record? (size : Nat) : Json → Option Record
  | object fields => some (.named fields)
  | list items => if items.length ≤ size then some (.ordered items) else none
  | _ => none

def Record.get? : Record → Nat → String → Option Json
  | named fields, _, name => fields.lookup name
  | ordered items, position, _ => items[position]?

end Json

end VolumeAgent
