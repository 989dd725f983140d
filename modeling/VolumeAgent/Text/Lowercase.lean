import VolumeAgent.Text.LetterCase

/-!
# Lowercase text

Each character takes its own lowercase form, with two exceptions: U+0130
becomes two characters, and a capital sigma at the end of a word becomes the
final small sigma. Characters that letter case ignores are passed over when
looking for the letters around a sigma.
-/

namespace VolumeAgent.Text

/-- Whether the nearest character that counts for letter case is a letter
with case. -/
def nextIsCased (cs : List Char) : Bool :=
  match cs.dropWhile isCaseIgnorable with
  | [] => false
  | c :: _ => isCased c

/-- Lowercase of one character between `before`, read backwards, and `after`. -/
def lowerBetween (before : List Char) (c : Char) (after : List Char) : List Char :=
  if c = 'İ' then ['i', '\u0307']
  else if c = 'Σ' then
    if nextIsCased before && !nextIsCased after then ['ς'] else ['σ']
  else [lowerChar c]

def lowerFrom (before : List Char) : List Char → List Char
  | [] => []
  | c :: cs => lowerBetween before c cs ++ lowerFrom (c :: before) cs

def lowercase (s : String) : String := String.ofList (lowerFrom [] s.toList)

end VolumeAgent.Text
