import VolumeAgent.CommandLine.Invocation

/-!
# Help pages

A page says what a command is for, how it is written and what it takes. On
the brief page the notes on an item follow its text; the full page gives them
lines of their own and explains the words that a value can be.
-/

namespace VolumeAgent.CommandLine

def pageWidth : Nat := 100

def textIndent : Nat := 10

structure Item where
  head : String
  text : String
  notes : List String := []
  choices : List (String × String) := []
deriving DecidableEq, Repr

def spaces (count : Nat) : String := String.ofList (List.replicate count ' ')

def spaced (sep : String) (parts : List String) : String := sep.intercalate parts

def chunks (line : List Char) : List (List Char) :=
  line.splitBy fun a b => !(a == ' ' && b != ' ')

def brokenLines (width : Nat) (line : List Char) : List (List Char) → List (List Char)
  | [] => [line]
  | word :: rest =>
    if width < line.length + (Text.trimEnd (· == ' ') word).length then
      Text.trimEnd (· == ' ') line :: brokenLines width word rest
    else brokenLines width (line ++ word) rest

def indented (indent : Nat) (text : String) : String :=
  let lines := (Text.fields '\n' text.toList).flatMap fun line =>
    match chunks line with
    | [] => [[]]
    | word :: rest => brokenLines (pageWidth - indent) word rest
  spaced ("\n" ++ spaces indent) (lines.map String.ofList)

def widest (texts : List String) : Nat := (texts.map (·.length)).foldl max 0

def possibleValues (words : List (String × String)) : String :=
  "[possible values: " ++ spaced ", " (words.map (·.1)) ++ "]"

namespace Item

def briefNotes (i : Item) : List String :=
  i.notes ++ if i.choices.isEmpty then [] else [possibleValues i.choices]

def body (full : Bool) (i : Item) : String :=
  if full then
    if i.notes.isEmpty then i.text else i.text ++ "\n\n" ++ spaced "\n" i.notes
  else spaced " " (i.text :: i.briefNotes)

def choiceLines (i : Item) : String :=
  let width := widest (i.choices.map (·.1))
  let line (word meaning : String) :=
    "\n" ++ spaces textIndent ++ "- "
      ++ indented (textIndent + 2) (word ++ ": " ++ spaces (width - word.length) ++ meaning)
  if i.choices.isEmpty then ""
  else
    "\n\n" ++ spaces textIndent ++ "Possible values:"
      ++ String.join (i.choices.map fun (word, meaning) => line word meaning)

/-- The head takes much of the page and the text would not fit behind it. -/
def isCrowded (column : Nat) (i : Item) : Bool :=
  let taken := column + 12
  let width := i.text.length + (spaced " " i.briefNotes).length
  taken ≤ pageWidth && pageWidth * 40 < taken * 100 && pageWidth - taken < width

end Item

/-- A heading and the items below it. All have their texts on lines of their
own if the page is full or one of them is crowded. -/
def listed (full : Bool) (heading : String) (items : List Item) : List String :=
  let column := widest (items.map (·.head))
  let below := full || items.any (·.isCrowded column)
  let entry (i : Item) :=
    "  " ++ i.head ++
      if below then
        "\n" ++ spaces textIndent ++ indented textIndent (i.body full)
          ++ if full then i.choiceLines else ""
      else
        spaces (column + 2 - i.head.length) ++ indented (column + 4) (i.body full)
  if items.isEmpty then []
  else [heading ++ ":\n" ++ spaced (if full then "\n\n" else "\n") (items.map entry)]

def Opt.choices (o : Opt) : List (String × String) :=
  match o.effect with
  | .set (.choice words) | .append (.choice words) => words
  | _ => []

/-- The full page differs from the brief one where words are explained. -/
def Command.hasFullPage (c : Command) : Bool := c.options.any (!·.choices.isEmpty)

def Opt.head (o : Opt) : String :=
  let letter := match o.short with
    | some l => String.ofList ['-', l, ',', ' ']
    | none => spaces 4
  let value := if o.effect.takesValue then " <" ++ o.label ++ ">" else ""
  letter ++ "--" ++ o.name ++ value

/-- An option with the variable that may set it and what that holds, and with
the value that counts without it. -/
def Opt.item (env : List (String × String)) (full : Bool) (o : Opt) : Item :=
  let variableNote (name : String) :=
    "[env: " ++ name ++ "=" ++ (env.lookup name).getD "" ++ "]"
  let text := match o.effect, full with
    | .showHelp, true => "Print help (see a summary with '-h')"
    | .showHelp, false => "Print help (see more with '--help')"
    | _, _ => o.help
  { head := o.head, text
    notes := (o.variableName.map variableNote).toList
      ++ (o.default.map fun value => "[default: " ++ value ++ "]").toList
    choices := o.choices }

def Command.form (c : Command) : List String :=
  (if c.options.isEmpty then [] else ["[OPTIONS]"]) ++ c.positionals.map (·.label)

namespace Program

def page (p : Program) (env : List (String × String)) (full : Bool) (sub : Option Command) :
    String :=
  let c := sub.getD p.top
  let full := full && c.hasFullPage
  let form := match sub with
    | some c => c.name :: c.form
    | none => c.form ++ ["<COMMAND>"]
  let commands := match sub with
    | some _ => []
    | none => listed false "Commands" (p.commands.map fun c => { head := c.name, text := c.about })
  let positionals := c.positionals.map fun w => { head := w.label, text := w.help : Item }
  let sections := commands ++ listed full "Arguments" positionals
    ++ listed full "Options" (c.options.map (·.item env full))
  spaced "\n\n"
    ([c.about, "Usage: " ++ spaced " " (p.top.name :: form)] ++ sections) ++ "\n"

def versionLine (p : Program) (sub : Option Command) : String :=
  spaced "-" (p.top.name :: (sub.map (·.name)).toList) ++ " " ++ agentVersion ++ "\n"

end Program

def Refusal.output (env : List (String × String)) (r : Refusal) : String :=
  match r.error with
  | .displayHelp full => program.page env full r.command
  | .displayVersion => program.versionLine r.command
  | _ => ""

/-- What standard error gets: the brief page if nothing was given, otherwise
the kind of the error. -/
def Refusal.complaint (env : List (String × String)) (r : Refusal) : String :=
  match r.error with
  | .displayHelp _ | .displayVersion => ""
  | .displayHelpOnMissing => program.page env false r.command
  | e => "error: " ++ e.name ++ "\n\nFor more information, try '--help'.\n"

end VolumeAgent.CommandLine
