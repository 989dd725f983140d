import VolumeAgent.Volume.Context

/-!
# Placeholders in sub-directory templates

Replacement is literal and from left to right: a value that has been put in
is not looked at again. A placeholder without a value stays as it is.
-/

namespace VolumeAgent.Volume.Context

/-- The placeholder with a value that `text` starts with: how many characters
it takes and its value. -/
def placeholderAt (context : Context) (text : List Char) : Option (Nat × List Char) :=
  placeholders.findSome? fun p =>
    if p.token.toList.isPrefixOf text then
      (context.get? p.source).map fun value => (p.token.length, value.toList)
    else none

/-- Expands `text`, of which the first `skip` characters belong to what has
been replaced. Only a dollar sign and an opening brace can start a
placeholder; where they start none, both are kept. -/
def expandFrom (context : Context) (skip : Nat) : List Char → List Char
  | [] => []
  | c :: cs =>
    match skip with
    | skip + 1 => expandFrom context skip cs
    | 0 =>
      if ['$', '\x7b'].isPrefixOf (c :: cs) then
        match context.placeholderAt (c :: cs) with
        | some (length, value) => value ++ expandFrom context (length - 1) cs
        | none => '$' :: '\x7b' :: expandFrom context 1 cs
      else c :: expandFrom context 0 cs

def interpolate (context : Context) (template : String) : String :=
  String.ofList (context.expandFrom 0 template.toList)

end VolumeAgent.Volume.Context
