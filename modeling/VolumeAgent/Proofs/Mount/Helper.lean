import VolumeAgent.Mount.Helper

/-!
# What the mount helper makes of its arguments

The helper takes `-t` and `-o` with the argument that follows, and any other
argument that begins with a hyphen for an option, wherever it stands.
`read_arguments_iff`: it reads its arguments as they are meant exactly if
neither source nor target begins with a hyphen. In the argument of `-o` the
last of the words `ro` and `rw` decides how the mount can be used;
`access_arguments` finds it in the options that are given.
-/

namespace VolumeAgent

theorem Text.split_join (sep : Char) (hne : ss ≠ []) :
    split sep (join sep ss) = ss.flatMap (split sep) := by
  induction ss with
  | nil => exact absurd rfl hne
  | cons s ss ih =>
    cases ss with
    | nil => simp [join, joined, split]
    | cons t ts =>
      have ih := ih (by simp)
      simp only [split, join, String.toList_ofList, List.map_cons] at ih
      simp only [split, join, String.toList_ofList, List.map_cons, joined, fields_append_sep,
        List.map_append, List.flatMap_cons, ih]

namespace Mount.Helper

-- ---------------------------------------------------------------------------
-- Options and operands
-- ---------------------------------------------------------------------------

inductive Item where
  | fsType (value : String)
  | options (value : String)
  | noMtab
  | operand (text : String)
  | other (text : String)
deriving DecidableEq, Repr

def Operand (arg : String) : Prop := arg.toList.head? ≠ some '-'

instance : DecidablePred Operand := fun arg =>
  inferInstanceAs (Decidable (arg.toList.head? ≠ some '-'))

def read : List String → List Item
  | [] => []
  | "-t" :: value :: rest => .fsType value :: read rest
  | "-o" :: value :: rest => .options value :: read rest
  | "--no-mtab" :: rest => .noMtab :: read rest
  | arg :: rest => (if Operand arg then .operand arg else .other arg) :: read rest

/-- Arguments are all read as operands only if each of them is one. -/
theorem read_eq_operands_iff : read args = args.map .operand ↔ ∀ arg ∈ args, Operand arg := by
  fun_induction read args with
  | case1 => simp
  | case2 value rest => simp [Operand]
  | case3 value rest => simp [Operand]
  | case4 rest => simp [Operand]
  | case5 arg rest _ _ _ ih =>
    by_cases h : Operand arg <;> simp [h, ih]

theorem read_arguments (source : String) (target : Path) (fsType : String)
    (options : List String) :
    read (arguments source target fsType options) =
      (if fsType.isEmpty then [] else [.fsType fsType]) ++
        (if options.isEmpty then [] else [.options (Text.join ',' options)]) ++ [.noMtab] ++
        read [source, target.text] := by
  unfold arguments
  cases fsType.isEmpty <;> cases options.isEmpty <;> simp [read]

theorem read_arguments_iff :
    read (arguments source target fsType options) =
        (if fsType.isEmpty then [] else [.fsType fsType]) ++
          (if options.isEmpty then [] else [.options (Text.join ',' options)]) ++ [.noMtab] ++
          [.operand source, .operand target.text] ↔
      Operand source ∧ Operand target.text := by
  have hread : read [source, target.text] = [.operand source, .operand target.text] ↔
      ∀ arg ∈ [source, target.text], Operand arg := read_eq_operands_iff
  rw [read_arguments, List.append_cancel_left_eq, hread]
  simp

theorem operand_append (hne : s ≠ "") (t : String) : Operand (s ++ t) ↔ Operand s := by
  obtain ⟨c, cs, hs⟩ := List.exists_cons_of_ne_nil (show s.toList ≠ [] by simpa using hne)
  simp [Operand, hs]

-- ---------------------------------------------------------------------------
-- Access
-- ---------------------------------------------------------------------------

inductive Access where
  | readOnly
  | readWrite
deriving DecidableEq, Repr

def Access.ofReadonly (readonly : Bool) : Access := if readonly then .readOnly else .readWrite

def Access.ofWord? : String → Option Access
  | "ro" => some .readOnly
  | "rw" => some .readWrite
  | _ => none

def lastAccess? (words : List String) : Option Access := (words.filterMap Access.ofWord?).getLast?

/-- The argument of `-o`, which stands before the operands if there is one. -/
def optionArgument? : List String → Option String
  | "-t" :: _ :: rest => optionArgument? rest
  | "-o" :: value :: _ => some value
  | _ => none

def access (arguments : List String) : Access :=
  match optionArgument? arguments with
  | some argument => (lastAccess? (Text.split ',' argument)).getD .readWrite
  | none => .readWrite

theorem optionArgument?_arguments (source : String) (target : Path) (fsType : String)
    (options : List String) :
    optionArgument? (arguments source target fsType options) =
      if options.isEmpty then none else some (Text.join ',' options) := by
  unfold arguments
  cases fsType.isEmpty <;> cases options.isEmpty <;> simp [optionArgument?]

theorem access_arguments (source : String) (target : Path) (fsType : String)
    (options : List String) :
    access (arguments source target fsType options) =
      (lastAccess? (options.flatMap (Text.split ','))).getD .readWrite := by
  rw [access, optionArgument?_arguments]
  cases options with
  | nil => rfl
  | cons option options => simp [Text.split_join]

theorem lastAccess?_ro_cons (words : List String) :
    lastAccess? ("ro" :: words) = some ((lastAccess? words).getD .readOnly) := by
  simp [lastAccess?, Access.ofWord?, List.getLast?_cons]

theorem lastAccess?_ne_none (h : "ro" ∈ words) : lastAccess? words ≠ none := by
  have hmem : Access.readOnly ∈ words.filterMap Access.ofWord? := List.mem_filterMap.mpr ⟨_, h, rfl⟩
  rw [lastAccess?, ne_eq, List.getLast?_eq_none_iff]
  exact List.ne_nil_of_mem hmem

end Mount.Helper

end VolumeAgent
