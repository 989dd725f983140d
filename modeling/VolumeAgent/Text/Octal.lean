import VolumeAgent.Text.Utf8

/-!
# Octal escapes

A byte may be written as a backslash and three octal digits. Reading leaves
alone a backslash without three such digits after it, and one whose digits
give no byte.
-/

namespace VolumeAgent.Text

def backslash : UInt8 := 0x5c

def octalDigit (n : Nat) : UInt8 := UInt8.ofNat (0x30 + n % 8)

def octalEscape (b : UInt8) : List UInt8 :=
  [backslash, octalDigit (b.toNat / 64), octalDigit (b.toNat / 8), octalDigit b.toNat]

def octalValue (b : UInt8) : Option Nat :=
  if 0x30 ≤ b.toNat && b.toNat ≤ 0x37 then some (b.toNat - 0x30) else none

/-- The byte that four bytes spell, if they are an escape. -/
def escapedByte (slash x y z : UInt8) : Option UInt8 := do
  guard (slash = backslash)
  let n := (← octalValue x) * 64 + (← octalValue y) * 8 + (← octalValue z)
  guard (n < 256)
  pure (UInt8.ofNat n)

def unescape : List UInt8 → List UInt8
  | slash :: x :: y :: z :: rest =>
    match escapedByte slash x y z with
    | some b => b :: unescape rest
    | none => slash :: unescape (x :: y :: z :: rest)
  | b :: rest => b :: unescape rest
  | [] => []

def unescapeText (cs : List Char) : List Char := decodeLossy (unescape (encode cs))

/-- Bytes, each with a mark that says whether to escape it. -/
def escapeMarked (bs : List (UInt8 × Bool)) : List UInt8 :=
  bs.flatMap fun (b, marked) => if marked then octalEscape b else [b]

end VolumeAgent.Text
