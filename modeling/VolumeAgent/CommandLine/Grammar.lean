import VolumeAgent.Text.Fields

/-!
# Command lines

A command takes options, words by position and perhaps a subcommand, whose
own words follow it. An option's value, and a word by position, is only
looked at when the next word of the same command has been understood, so the
first word that cannot be understood decides the error.
-/

namespace VolumeAgent.CommandLine

inductive ValueForm where
  | any
  /-- Not empty. -/
  | path
  /-- One of some words, each with its meaning. -/
  | choice (words : List (String × String))
  /-- A key and a value with an equals sign between them. -/
  | pair
deriving DecidableEq, Repr

inductive Effect where
  /-- Takes one value, once. -/
  | set (form : ValueForm)
  /-- Takes one value each time. -/
  | append (form : ValueForm)
  /-- Takes no value, once. -/
  | switch
  | showHelp
  | showVersion
deriving DecidableEq, Repr

def Effect.takesValue : Effect → Bool
  | .set _ | .append _ => true
  | .switch | .showHelp | .showVersion => false

inductive Spelling where
  | letter
  | name
deriving DecidableEq, Repr

structure Opt where
  name : String
  short : Option Char := none
  effect : Effect
  /-- The variable that gives the value where the command line does not. -/
  variableName : Option String := none
  /-- Options that have to be given along with this one. -/
  requires : List String := []
  /-- What the value is called. -/
  label : String := ""
  help : String := ""
  /-- The value that counts where none is given. -/
  default : Option String := none
deriving DecidableEq, Repr

def Opt.listingKey (o : Opt) : String :=
  match o.short with
  | some l => String.ofList [l.toLower, if l.isLower then '0' else '1']
  | none => o.name

def interleaved : List Opt → List Opt → List Opt
  | [], others => others
  | own, [] => own
  | a :: own, b :: others =>
    if a.listingKey ≤ b.listingKey then a :: b :: interleaved own others
    else b :: a :: interleaved own others

structure Positional where
  name : String
  form : ValueForm
  /-- How the word is written on a help page. -/
  label : String
  help : String := ""
deriving DecidableEq, Repr

structure Command where
  name : String
  about : String := ""
  options : List Opt := []
  positionals : List Positional := []
deriving DecidableEq, Repr

structure Program where
  top : Command
  subcommands : List Command
deriving DecidableEq, Repr

inductive UsageError where
  | unknownArgument
  | invalidSubcommand
  | missingSubcommand
  | missingRequiredArgument
  | invalidValue
  | valueValidation
  | tooManyValues
  | argumentConflict
  /-- The brief or the full page. -/
  | displayHelp (full : Bool)
  | displayVersion
  | displayHelpOnMissing
deriving DecidableEq, Repr

def UsageError.name : UsageError → String
  | unknownArgument => "UnknownArgument"
  | invalidSubcommand => "InvalidSubcommand"
  | missingSubcommand => "MissingSubcommand"
  | missingRequiredArgument => "MissingRequiredArgument"
  | invalidValue => "InvalidValue"
  | valueValidation => "ValueValidation"
  | tooManyValues => "TooManyValues"
  | argumentConflict => "ArgumentConflict"
  | displayHelp _ => "DisplayHelp"
  | displayVersion => "DisplayVersion"
  | displayHelpOnMissing => "DisplayHelpOnMissingArgumentOrSubcommand"

/-- Help and the version that were asked for are no failure. -/
def UsageError.exitCode : UsageError → Nat
  | displayHelp _ | displayVersion => 0
  | _ => 2

def ValueForm.check (form : ValueForm) (value : String) : Except UsageError Unit :=
  match form with
  | .any => .ok ()
  | .path => if value.isEmpty then .error .invalidValue else .ok ()
  | .choice words => if words.any (·.1 == value) then .ok () else .error .invalidValue
  | .pair => if value.toList.contains '=' then .ok () else .error .valueValidation

def pairOf (value : String) : String × String :=
  match Text.cutAt ['='] value.toList with
  | some (key, value) => (String.ofList key, String.ofList value)
  | none => (value, "")

/-- Where a value comes from; the later the stronger. -/
inductive Origin where
  | environment
  | commandLine
deriving DecidableEq, Repr

structure Given where
  origin : Origin
  values : List String
deriving DecidableEq, Repr

abbrev Findings := List (String × Given)

/-- What waits for the next word: an option or a word by position, with the
values it has. -/
structure Pending where
  name : String
  effect : Effect
  values : List String
deriving DecidableEq, Repr

structure Scan where
  found : Findings := []
  pending : Option Pending := none
  /-- The pending option still has no value. -/
  awaiting : Bool := false
  /-- Only words by position follow. -/
  trailing : Bool := false
  position : Nat := 0
deriving DecidableEq, Repr

namespace Scan

/-- Enters an option or a word by position. Anything but a repeatable option
may be given once. -/
def enter (found : Findings) (origin : Origin) (name : String) (effect : Effect)
    (values : List String) : Except UsageError Findings := do
  match effect with
  | .showHelp | .showVersion => pure found
  | .switch =>
    if (found.lookup name).isSome then throw .argumentConflict
    pure ((name, ⟨origin, values⟩) :: found)
  | .set form =>
    if (found.lookup name).isSome then throw .argumentConflict
    values.forM form.check
    pure ((name, ⟨origin, values⟩) :: found)
  | .append form =>
    values.forM form.check
    let earlier := ((found.lookup name).map (·.values)).getD []
    pure ((name, ⟨origin, earlier ++ values⟩) :: found.filter (·.1 != name))

/-- Enters what is pending. An option that got no value is an error. -/
def settle (s : Scan) : Except UsageError Scan := do
  match s.pending with
  | none => pure s
  | some p =>
    if p.values.isEmpty then throw .invalidValue
    let found ← enter s.found .commandLine p.name p.effect p.values
    pure { s with found, pending := none, awaiting := false }

/-- An option, by its letter or by its name, with the value attached to it if
there is one. The letter asks for brief help, the name for full help. -/
def option (s : Scan) (o : Opt) (spelled : Spelling) (attached : Option String) :
    Except UsageError Scan := do
  match o.effect.takesValue, attached with
  | true, some value =>
    let s ← s.settle
    pure { s with found := ← enter s.found .commandLine o.name o.effect [value] }
  | true, none =>
    let s ← s.settle
    pure { s with pending := some ⟨o.name, o.effect, []⟩, awaiting := true }
  | false, some _ => throw .tooManyValues
  | false, none =>
    let s ← s.settle
    match o.effect with
    | .showHelp => throw (.displayHelp (spelled = .name))
    | .showVersion => throw .displayVersion
    | _ => pure { s with found := ← enter s.found .commandLine o.name o.effect [] }

/-- The letters behind one hyphen: switches, and at the end an option with
the rest as its value, an equals sign in front of it left out. -/
def letters (c : Command) (s : Scan) : List Char → Except UsageError Scan
  | [] => pure s
  | l :: rest =>
    match c.options.find? (·.short == some l) with
    | none => .error .unknownArgument
    | some o =>
      if o.effect.takesValue then
        let attached := match rest with
          | [] => none
          | '=' :: value => some (String.ofList value)
          | value => some (String.ofList value)
        s.option o .letter attached
      else do letters c (← s.option o .letter none) rest

def positional (c : Command) (subcommands : List String) (s : Scan) (word : String) :
    Except UsageError Scan := do
  match c.positionals[s.position]? with
  | some p =>
    let s ← s.settle
    pure { s with pending := some ⟨p.name, .set p.form, [word]⟩, position := s.position + 1 }
  | none =>
    if subcommands.isEmpty || (s.trailing && subcommands.contains word) then
      throw .unknownArgument
    else throw .invalidSubcommand

def long (c : Command) (s : Scan) (text : List Char) : Except UsageError Scan :=
  let (name, attached) := match Text.cutAt ['='] text with
    | some (name, value) => (name, some (String.ofList value))
    | none => (text, none)
  match c.options.find? (·.name.toList == name) with
  | some o => s.option o .name attached
  | none => .error .unknownArgument

def word (c : Command) (subcommands : List String) (s : Scan) (w : String) :
    Except UsageError Scan :=
  if s.trailing then s.positional c subcommands w
  else
    match w.toList with
    | ['-', '-'] => pure { s with trailing := true }
    | '-' :: '-' :: text => s.long c text
    | '-' :: l :: rest => s.letters c (l :: rest)
    | _ =>
      match s.awaiting, s.pending with
      | true, some p => pure { s with pending := some { p with values := [w] }, awaiting := false }
      | _, _ => s.positional c subcommands w

def words (c : Command) (subcommands : List String) :
    Scan → List String → Except UsageError (Scan × Option (String × List String))
  | s, [] => pure (s, none)
  | s, w :: rest =>
    if !s.trailing && !s.awaiting && subcommands.contains w then pure (s, some (w, rest))
    else do words c subcommands (← s.word c subcommands w) rest

def addEnvironment (env : List (String × String)) (found : Findings) :
    List Opt → Except UsageError Findings
  | [] => pure found
  | o :: rest => do
    let value := o.variableName.bind (env.lookup ·)
    match (found.lookup o.name).isSome, value with
    | false, some value =>
      addEnvironment env (← enter found .environment o.name o.effect [value]) rest
    | _, _ => addEnvironment env found rest

def complete (c : Command) (env : List (String × String)) (s : Scan) :
    Except UsageError Findings := do
  addEnvironment env (← s.settle).found c.options

/-- Words by position that are missing, and options without those that have
to come with them. -/
def isIncomplete (c : Command) (found : Findings) : Bool :=
  let missing (name : String) := (found.lookup name).isNone
  c.positionals.any (missing ·.name)
    || c.options.any fun o => !missing o.name && o.requires.any missing

end Scan

/-- An error, and the subcommand among whose words it came up. -/
structure Refusal where
  error : UsageError
  command : Option Command := none
deriving DecidableEq, Repr

def refusing (c : Option Command) (r : Except UsageError α) : Except Refusal α :=
  r.mapError (⟨·, c⟩)

def helpCommand : Command :=
  { name := "help", about := "Print this message or the help of the given subcommand(s)"
    positionals := [⟨"subcommand", .any, "[COMMAND]...", "Print help for the subcommand(s)"⟩] }

def Program.commands (p : Program) : List Command := p.subcommands ++ [helpCommand]

def helpOn (commands : List Command) : List String → Refusal
  | [] => ⟨.displayHelp true, none⟩
  | [w] =>
    match commands.find? (·.name == w) with
    | some c => ⟨.displayHelp true, some c⟩
    | none => ⟨.invalidSubcommand, none⟩
  | _ => ⟨.invalidSubcommand, none⟩

/-- Findings of the program and of the subcommand. A subcommand's own are
used unless the program's have the stronger origin. -/
def merged (outer inner : Findings) : Findings :=
  let weaker (e : String × Given) :=
    e.2.origin == .environment && (outer.lookup e.1).any (·.origin == .commandLine)
  inner.filter (!weaker ·) ++ outer

def Program.parse (p : Program) (env : List (String × String)) (args : List String) :
    Except Refusal (String × Findings) := do
  let (scan, sub) ← refusing none (Scan.words p.top (p.commands.map (·.name)) {} args)
  let inner ← match sub with
    | none => pure none
    | some (name, rest) =>
      match p.subcommands.find? (·.name == name) with
      | none => throw (helpOn p.commands rest)
      | some c =>
        refusing (some c) do
          let (scan, _) ← Scan.words c [] {} rest
          let found ← Scan.complete c env scan
          if Scan.isIncomplete c found then throw .missingRequiredArgument
          pure (some (name, found))
  refusing none do
    let outer ← Scan.complete p.top env scan
    match inner with
    | none => throw (if outer.isEmpty then .displayHelpOnMissing else .missingSubcommand)
    | some (name, found) =>
      if Scan.isIncomplete p.top outer then throw .missingRequiredArgument
      pure (name, merged outer found)

end VolumeAgent.CommandLine
