/-!
# Text cut at a separator

Fields between occurrences of one character, their join, and trimming by a
class of characters. Everything works on lists of characters; the versions
on strings only convert.
-/

namespace VolumeAgent.Text

/-- The fields between separators. There is always at least one. -/
def fields (sep : Char) : List Char → List (List Char)
  | [] => [[]]
  | c :: cs =>
    if c = sep then [] :: fields sep cs
    else
      match fields sep cs with
      | [] => [[c]]
      | f :: fs => (c :: f) :: fs

def joined (sep : Char) : List (List Char) → List Char
  | [] => []
  | [f] => f
  | f :: g :: fs => f ++ sep :: joined sep (g :: fs)

/-- Drops the longest suffix whose characters are all in the class. -/
def trimEnd (drop : Char → Bool) : List Char → List Char
  | [] => []
  | c :: cs =>
    match trimEnd drop cs with
    | [] => if drop c then [] else [c]
    | kept => c :: kept

def trim (drop : Char → Bool) (cs : List Char) : List Char :=
  trimEnd drop (cs.dropWhile drop)

/-- The text before and after the first occurrence of `mark`. -/
def cutAt (mark : List Char) : List Char → Option (List Char × List Char)
  | [] => if mark.isEmpty then some ([], []) else none
  | c :: cs =>
    if mark.isPrefixOf (c :: cs) then some ([], (c :: cs).drop mark.length)
    else (cutAt mark cs).map fun (before, after) => (c :: before, after)

def split (sep : Char) (s : String) : List String :=
  (fields sep s.toList).map String.ofList

def join (sep : Char) (ss : List String) : String :=
  String.ofList (joined sep (ss.map String.toList))

def trimChar (c : Char) (s : String) : String :=
  String.ofList (trim (· == c) s.toList)

theorem fields_ne_nil (sep : Char) (cs : List Char) : fields sep cs ≠ [] := by
  cases cs with
  | nil => simp [fields]
  | cons c cs =>
    unfold fields
    split
    · simp
    · split <;> simp

theorem joined_fields (sep : Char) (cs : List Char) : joined sep (fields sep cs) = cs := by
  induction cs with
  | nil => rfl
  | cons c cs ih =>
    unfold fields
    split
    · subst_vars
      cases h : fields c cs with
      | nil => exact absurd h (fields_ne_nil _ _)
      | cons f fs => simpa [joined, h] using ih
    · cases h : fields sep cs with
      | nil => exact absurd h (fields_ne_nil _ _)
      | cons f fs =>
        rw [h] at ih
        cases fs with
        | nil => simpa [joined] using ih
        | cons g gs => simpa [joined] using ih

theorem fields_append_sep (a b : List Char) :
    fields sep (a ++ sep :: b) = fields sep a ++ fields sep b := by
  induction a with
  | nil => simp [fields]
  | cons c cs ih =>
    simp only [List.cons_append, fields, ih]
    split
    · rfl
    · cases h : fields sep cs with
      | nil => exact absurd h (fields_ne_nil _ _)
      | cons f fs => rfl

theorem fields_of_not_mem {f : List Char} (h : sep ∉ f) : fields sep f = [f] := by
  induction f with
  | nil => rfl
  | cons c cs ih =>
    obtain ⟨hc, hcs⟩ : sep ≠ c ∧ sep ∉ cs := by simpa using h
    simp [fields, Ne.symm hc, ih hcs]

theorem fields_joined {fs : List (List Char)} (hne : fs ≠ []) (h : ∀ f ∈ fs, sep ∉ f) :
    fields sep (joined sep fs) = fs := by
  induction fs with
  | nil => exact absurd rfl hne
  | cons f fs ih =>
    obtain ⟨hf, hfs⟩ := List.forall_mem_cons.mp h
    cases fs with
    | nil => exact fields_of_not_mem hf
    | cons g gs =>
      rw [joined, fields_append_sep, fields_of_not_mem hf, ih (by simp) hfs]
      rfl

theorem exists_append_trimEnd (drop : Char → Bool) (cs : List Char) :
    ∃ rest, cs = trimEnd drop cs ++ rest ∧ ∀ c ∈ rest, drop c = true := by
  induction cs with
  | nil => exact ⟨[], rfl, by simp⟩
  | cons c cs ih =>
    obtain ⟨rest, hcs, hrest⟩ := ih
    unfold trimEnd
    cases hk : trimEnd drop cs with
    | nil =>
      rw [hk] at hcs
      by_cases hc : drop c = true
      · refine ⟨c :: cs, by simp [hc], ?_⟩
        simpa [hc, hcs] using hrest
      · exact ⟨rest, by simpa [hc] using hcs, hrest⟩
    | cons d kept =>
      rw [hk] at hcs
      exact ⟨rest, by simpa using hcs, hrest⟩

theorem trim_isInfix (drop : Char → Bool) (cs : List Char) : trim drop cs <:+: cs := by
  obtain ⟨rest, hrest, -⟩ := exists_append_trimEnd drop (cs.dropWhile drop)
  have hpre : trim drop cs <+: cs.dropWhile drop := ⟨rest, hrest.symm⟩
  exact hpre.isInfix.trans (List.dropWhile_suffix drop).isInfix

theorem sep_not_mem_of_mem_fields {f : List Char} (h : f ∈ fields sep cs) : sep ∉ f := by
  induction cs generalizing f with
  | nil => simp_all [fields]
  | cons c cs ih =>
    unfold fields at h
    split at h
    · rcases List.mem_cons.mp h with rfl | h
      · simp
      · exact ih h
    · cases hf : fields sep cs with
      | nil => exact absurd hf (fields_ne_nil _ _)
      | cons g gs =>
        simp only [hf, List.mem_cons] at h
        rcases h with rfl | h
        · have := ih (f := g) (by simp [hf])
          simp_all [Ne.symm]
        · exact ih (by simp [hf, h])

end VolumeAgent.Text
