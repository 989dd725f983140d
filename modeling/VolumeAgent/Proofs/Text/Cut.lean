import Mathlib.Data.List.TakeWhile
import VolumeAgent.Text.Fields

/-!
# Where a text is cut

`cutAt_eq_some_iff`: the first mark is the one where a text is cut, so the
parts and what stands in front of the mark say where that is. Of the fields
between separators, `head?_fields` gives the first and `find?_fields` the
first that is not empty.
-/

namespace VolumeAgent.Text

section
variable {mark text before after : List Char}

theorem not_infix_dropLast (hne : mark ≠ []) : ¬ mark <:+: mark.dropLast := by
  intro h
  have hlength := h.length_le
  have hpos := List.length_pos_iff.mpr hne
  rw [List.length_dropLast] at hlength
  omega

theorem append_dropLast_isPrefix (front mark after : List Char) :
    front ++ mark.dropLast <+: front ++ mark ++ after := by
  rw [List.append_assoc, List.prefix_append_right_inj]
  exact (List.dropLast_prefix mark).trans (List.prefix_append mark after)

theorem cutAt_of_isPrefix (h : mark <+: text) :
    cutAt mark text = some ([], text.drop mark.length) := by
  cases text with
  | nil => simp_all [cutAt]
  | cons c cs => rw [cutAt, if_pos (List.isPrefixOf_iff_prefix.mpr h)]

theorem cutAt_cons (h : ¬ mark <+: c :: cs) :
    cutAt mark (c :: cs) = (cutAt mark cs).map fun cut => (c :: cut.1, cut.2) := by
  rw [cutAt, if_neg (mt List.isPrefixOf_iff_prefix.mp h)]

theorem eq_append_of_cutAt (hne : mark ≠ []) (h : cutAt mark text = some (before, after)) :
    text = before ++ mark ++ after ∧ ¬ mark <:+: before ++ mark.dropLast := by
  induction text generalizing before with
  | nil => simp [cutAt, hne] at h
  | cons c cs ih =>
    by_cases hpre : mark <+: c :: cs
    · rw [cutAt_of_isPrefix hpre] at h
      obtain ⟨rfl, rfl⟩ := Prod.mk.inj (Option.some.inj h)
      obtain ⟨rest, hrest⟩ := hpre
      refine ⟨?_, not_infix_dropLast hne⟩
      rw [← hrest, List.drop_left]
      rfl
    · rw [cutAt_cons hpre, Option.map_eq_some_iff] at h
      obtain ⟨⟨front, back⟩, hcut, heq⟩ := h
      obtain ⟨rfl, rfl⟩ := Prod.mk.inj heq
      obtain ⟨hcs, hfirst⟩ := ih hcut
      refine ⟨by simp [hcs], ?_⟩
      rw [List.cons_append, List.infix_cons_iff]
      rintro (hstart | hlater)
      · rw [hcs] at hpre
        exact hpre (hstart.trans (append_dropLast_isPrefix (c :: front) mark back))
      · exact hfirst hlater

theorem cutAt_append (hfirst : ¬ mark <:+: before ++ mark.dropLast) (after : List Char) :
    cutAt mark (before ++ mark ++ after) = some (before, after) := by
  induction before with
  | nil =>
    rw [List.nil_append, cutAt_of_isPrefix (List.prefix_append mark after), List.drop_left]
  | cons c front ih =>
    rw [List.cons_append, List.infix_cons_iff, not_or] at hfirst
    have hpre : ¬ mark <+: c :: (front ++ mark ++ after) := by
      intro hstart
      -- A mark that starts here ends before the last character of the next.
      have hshort := append_dropLast_isPrefix (c :: front) mark after
      refine hfirst.1 (List.prefix_of_prefix_length_le hstart hshort ?_)
      simp only [List.length_cons, List.length_append, List.length_dropLast]
      omega
    rw [List.cons_append, List.cons_append, cutAt_cons hpre, ih hfirst.2]
    rfl

/-- A text is cut at its first mark: none ends before that one does. -/
theorem cutAt_eq_some_iff (hne : mark ≠ []) :
    cutAt mark text = some (before, after) ↔
      text = before ++ mark ++ after ∧ ¬ mark <:+: before ++ mark.dropLast := by
  constructor
  · exact eq_append_of_cutAt hne
  · rintro ⟨rfl, hfirst⟩
    exact cutAt_append hfirst after

end

-- ---------------------------------------------------------------------------
-- First fields
-- ---------------------------------------------------------------------------

theorem head?_fields (sep : Char) (cs : List Char) :
    (fields sep cs).head? = some (cs.takeWhile (· != sep)) := by
  induction cs with
  | nil => rfl
  | cons c cs ih =>
    unfold fields
    split
    · simp_all
    · rename_i hc
      obtain ⟨f, fs, hfs⟩ := List.exists_cons_of_ne_nil (fields_ne_nil sep cs)
      rw [hfs] at ih ⊢
      obtain rfl : f = cs.takeWhile (· != sep) := by simpa using ih
      simp [hc]

theorem head?_split (sep : Char) (s : String) :
    (split sep s).head? = some (String.ofList (s.toList.takeWhile (· != sep))) := by
  rw [split, List.head?_map, head?_fields, Option.map_some]

theorem find?_fields {sep : Char} {seps f rest : List Char} (hseps : ∀ c ∈ seps, c = sep)
    (hne : f ≠ []) (hf : sep ∉ f) (hrest : ∀ c ∈ rest.head?, c = sep) :
    (fields sep (seps ++ f ++ rest)).find? (!·.isEmpty) = some f := by
  induction seps with
  | nil =>
    cases rest with
    | nil => simp [fields_of_not_mem hf, hne]
    | cons c rest =>
      obtain rfl : c = sep := hrest c rfl
      simp [fields_append_sep, fields_of_not_mem hf, hne]
  | cons c seps ih =>
    obtain ⟨rfl, hseps⟩ := List.forall_mem_cons.mp hseps
    simpa [fields] using ih hseps

theorem find?_fields_eq_none {sep : Char} {cs : List Char} (h : ∀ c ∈ cs, c = sep) :
    (fields sep cs).find? (!·.isEmpty) = none := by
  induction cs with
  | nil => rfl
  | cons c cs ih =>
    obtain ⟨rfl, hcs⟩ := List.forall_mem_cons.mp h
    simpa [fields] using ih hcs

theorem exists_first_field {sep : Char} {cs : List Char} (h : ¬ ∀ c ∈ cs, c = sep) :
    ∃ seps f rest, cs = seps ++ f ++ rest ∧ (∀ c ∈ seps, c = sep) ∧ f ≠ [] ∧ sep ∉ f ∧
      ∀ c ∈ rest.head?, c = sep := by
  have hsome : cs.dropWhile (· == sep) ≠ [] := by
    rw [ne_eq, List.dropWhile_eq_nil_iff]
    simpa using h
  obtain ⟨d, ds, hds⟩ := List.exists_cons_of_ne_nil hsome
  have hd : d ≠ sep := by
    have hhead := List.head?_dropWhile_not (· == sep) cs
    simpa [hds] using hhead
  refine ⟨cs.takeWhile (· == sep), (d :: ds).takeWhile (· != sep),
    (d :: ds).dropWhile (· != sep), ?_, ?_, ?_, ?_, ?_⟩
  · rw [List.append_assoc, List.takeWhile_append_dropWhile, ← hds,
      List.takeWhile_append_dropWhile]
  · intro c hc
    simpa using List.mem_takeWhile_imp hc
  · simp [hd]
  · intro hc
    simpa using List.mem_takeWhile_imp hc
  · intro c hc
    have hhead := List.head?_dropWhile_not (· != sep) (d :: ds)
    rw [Option.mem_def.mp hc] at hhead
    simpa using hhead

-- ---------------------------------------------------------------------------
-- Ends
-- ---------------------------------------------------------------------------

theorem mem_trim {drop : Char → Bool} {cs : List Char} (hc : c ∈ cs)
    (hkeep : drop c = false) : c ∈ trim drop cs := by
  obtain ⟨rest, hrest, hdropped⟩ := exists_append_trimEnd drop (cs.dropWhile drop)
  have hnot : ¬ c ∈ rest := fun h => by simp [hdropped c h] at hkeep
  have hcs : cs = cs.takeWhile drop ++ (trim drop cs ++ rest) := by
    rw [trim, ← hrest, List.takeWhile_append_dropWhile]
  rw [hcs, List.mem_append, List.mem_append] at hc
  rcases hc with hc | hc | hc
  · simp [List.mem_takeWhile_imp hc] at hkeep
  · exact hc
  · exact absurd hc hnot

end VolumeAgent.Text
