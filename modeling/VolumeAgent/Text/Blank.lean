import VolumeAgent.Text.Fields
import VolumeAgent.Text.Ranges

/-!
# Blank characters, words and lines

Blank means the Unicode property White_Space.
-/

namespace VolumeAgent.Text

def blankRanges : List (Nat × Nat) :=
  [(0x9, 0xd), (0x20, 0x20), (0x85, 0x85), (0xa0, 0xa0), (0x1680, 0x1680), (0x2000, 0x200a),
   (0x2028, 0x2029), (0x202f, 0x202f), (0x205f, 0x205f), (0x3000, 0x3000)]

def isBlank (c : Char) : Bool := inRanges blankRanges c.toNat

def trimBlank (s : String) : String := String.ofList (trim isBlank s.toList)

def words : List Char → List (List Char)
  | [] => []
  | c :: cs =>
    if isBlank c then words cs
    else
      match cs, words cs with
      | d :: _, w :: ws => if isBlank d then [c] :: w :: ws else (c :: w) :: ws
      | _, ws => [c] :: ws

/-- The lines of a text, each ended by a line feed or by a carriage return
and a line feed. What follows the last line feed is a line if not empty. -/
def lines (cs : List Char) : List (List Char) :=
  let pieces := fields '\n' cs
  let ended := pieces.dropLast.map fun l => if l.getLast? = some '\r' then l.dropLast else l
  match pieces.getLast? with
  | some [] | none => ended
  | some rest => ended ++ [rest]

end VolumeAgent.Text
