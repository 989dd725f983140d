import VolumeAgent.Text.Hidden

/-!
# Quoted text

The form of a name inside a message: double quotes around it, a backslash
before a double quote or a backslash, short escapes for the commonest
control characters, and the scalar value of everything else that would not
be seen.
-/

namespace VolumeAgent.Text

def hexDigits (n : Nat) : List Char := Nat.toDigits 16 n

def quoteChar (c : Char) : List Char :=
  if c = '\x00' then ['\\', '0']
  else if c = '\t' then ['\\', 't']
  else if c = '\r' then ['\\', 'r']
  else if c = '\n' then ['\\', 'n']
  else if c = '"' || c = '\\' then ['\\', c]
  else if isHidden c then ['\\', 'u', '\x7b'] ++ hexDigits c.toNat ++ ['\x7d']
  else [c]

def quoted (s : String) : String :=
  String.ofList ('"' :: s.toList.flatMap quoteChar ++ ['"'])

end VolumeAgent.Text
