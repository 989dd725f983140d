/-!
# Characters as bytes

`encode` writes the UTF-8 form of characters. `decodeLossy` reads any bytes:
each longest run that starts a form but cannot be finished, and each byte
that starts none, reads as one replacement character.
-/

namespace VolumeAgent.Text

def replacement : Char := '\ufffd'

def encodeChar (c : Char) : List UInt8 :=
  let n := c.toNat
  let tail (k : Nat) : UInt8 := UInt8.ofNat (0x80 + n / k % 64)
  if n < 0x80 then [UInt8.ofNat n]
  else if n < 0x800 then [UInt8.ofNat (0xc0 + n / 64), tail 1]
  else if n < 0x10000 then [UInt8.ofNat (0xe0 + n / 4096), tail 64, tail 1]
  else [UInt8.ofNat (0xf0 + n / 262144), tail 4096, tail 64, tail 1]

def encode (cs : List Char) : List UInt8 := cs.flatMap encodeChar

/-- A form that has begun: the bounds of its next byte, how many more bytes
follow that one, and the value read so far. -/
structure OpenForm where
  low : Nat
  high : Nat
  more : Nat
  value : Nat
deriving DecidableEq, Repr

/-- What a byte means at the start of a form: a whole character, the start
of a longer form, or nothing. -/
def leading (b : Nat) : List Char × Option OpenForm :=
  if b < 0x80 then ([Char.ofNat b], none)
  else if 0xc2 ≤ b && b ≤ 0xdf then ([], some ⟨0x80, 0xbf, 0, b - 0xc0⟩)
  else if b = 0xe0 then ([], some ⟨0xa0, 0xbf, 1, 0⟩)
  else if b = 0xed then ([], some ⟨0x80, 0x9f, 1, 0xd⟩)
  else if 0xe1 ≤ b && b ≤ 0xef then ([], some ⟨0x80, 0xbf, 1, b - 0xe0⟩)
  else if b = 0xf0 then ([], some ⟨0x90, 0xbf, 2, 0⟩)
  else if 0xf1 ≤ b && b ≤ 0xf3 then ([], some ⟨0x80, 0xbf, 2, b - 0xf0⟩)
  else if b = 0xf4 then ([], some ⟨0x80, 0x8f, 2, 4⟩)
  else ([replacement], none)

def decodeFrom : Option OpenForm → List UInt8 → List Char
  | none, [] => []
  | some _, [] => [replacement]
  | none, b :: bs =>
    let (out, next) := leading b.toNat
    out ++ decodeFrom next bs
  | some form, b :: bs =>
    if form.low ≤ b.toNat && b.toNat ≤ form.high then
      let value := form.value * 64 + (b.toNat - 0x80)
      match form.more with
      | 0 => Char.ofNat value :: decodeFrom none bs
      | more + 1 => decodeFrom (some ⟨0x80, 0xbf, more, value⟩) bs
    else
      let (out, next) := leading b.toNat
      replacement :: out ++ decodeFrom next bs

def decodeLossy (bs : List UInt8) : List Char := decodeFrom none bs

end VolumeAgent.Text
