import VolumeAgent.Proofs.Path.Folding
import VolumeAgent.Proofs.Volume.Descriptor
import VolumeAgent.Proofs.Volume.Interpolation

/-!
# Templates with ordinary values

A value is ordinary if it is one segment of a path that leads down, such as
the name of an object of the cluster. Interpolation then treats the segments
of a template one by one and makes none of them empty, `.` or `..`.
`cleanSubpath_interpolate`: the directory that a template resolves to is the
cleaned template with the values put into its segments.
-/

namespace VolumeAgent.Volume

open VolumeAgent.Path (Plain segments cleanSubpath isStill)

def Context.Ordinary (context : Context) : Prop :=
  ∀ p ∈ placeholders, ∀ value ∈ context.get? p.source, Plain value ∧ '/' ∉ value.toList

section
variable {context : Context}

-- ---------------------------------------------------------------------------
-- Slashes
-- ---------------------------------------------------------------------------

theorem slash_not_mem_token : ∀ p ∈ placeholders, '/' ∉ p.token.toList := by decide

theorem prefix_of_append_cons {token : List Char} (h : token <+: a ++ c :: b) (hc : c ∉ token) :
    token <+: a := by
  rcases List.prefix_or_prefix_of_prefix h (List.prefix_append a (c :: b)) with hpre | hpre
  · exact hpre
  · obtain ⟨tail, rfl⟩ := hpre
    cases tail with
    | nil => simp
    | cons d tail =>
      obtain ⟨rest, hrest⟩ := h
      obtain ⟨rfl, -⟩ : d = c ∧ _ := by simpa using hrest
      simp at hc

/-- No placeholder reaches over a slash, so what stands before it reads as if
the slash were the end. -/
theorem Reads.append_slash (ha : Reads has a pieces) (hb : Reads has b pieces') :
    Reads has (a ++ '/' :: b) (pieces ++ .char '/' :: pieces') := by
  have hends : ∀ p ∈ placeholders, ∀ front, p.token.toList <+: front ++ '/' :: b →
      p.token.toList <+: front :=
    fun p hp front hpre => prefix_of_append_cons hpre (slash_not_mem_token p hp)
  induction ha with
  | done =>
    refine .char b (fun p hp _ hpre => ?_) hb
    obtain ⟨name, hname⟩ := exists_token_eq p hp
    simpa [hname] using hends p hp [] hpre
  | value rest hp hset _ ih =>
    rw [List.append_assoc]
    exact .value _ hp hset ih
  | char cs hno _ ih => exact .char _ (fun p hp hset hpre => hno p hp hset (hends p hp _ hpre)) ih

theorem Context.expandFrom_append_slash (a b : List Char) :
    context.expandFrom 0 (a ++ '/' :: b) =
      context.expandFrom 0 a ++ '/' :: context.expandFrom 0 b := by
  obtain ⟨pieces, ha⟩ := exists_reads context.has a
  obtain ⟨pieces', hb⟩ := exists_reads context.has b
  rw [(ha.append_slash hb).expandFrom_eq fun _ _ => rfl, ha.expandFrom_eq fun _ _ => rfl,
    hb.expandFrom_eq fun _ _ => rfl, List.flatMap_append, List.flatMap_cons]
  rfl

theorem Context.expandFrom_joined (fs : List (List Char)) :
    context.expandFrom 0 (Text.joined '/' fs) =
      Text.joined '/' (fs.map (context.expandFrom 0)) := by
  induction fs with
  | nil => rfl
  | cons f fs ih =>
    cases fs with
    | nil => rfl
    | cons g gs => rw [Text.joined, expandFrom_append_slash, ih]; rfl

theorem Context.interpolate_join (ss : List String) :
    context.interpolate (Text.join '/' ss) = Text.join '/' (ss.map context.interpolate) := by
  simp [interpolate, Text.join, expandFrom_joined, Function.comp_def]

theorem Context.slash_not_mem_expandFrom (ho : context.Ordinary) (h : '/' ∉ text) :
    '/' ∉ context.expandFrom 0 text := by
  obtain ⟨pieces, hreads⟩ := exists_reads context.has text
  induction hreads with
  | done => simp [expandFrom]
  | value rest hp hset _ ih =>
    obtain ⟨value, hvalue⟩ := has_eq_true.mp hset
    rw [expandFrom_token hp hvalue, List.mem_append]
    rintro (hmem | hmem)
    · exact (ho _ hp value hvalue).2 hmem
    · exact ih (fun hrest => h (List.mem_append_right _ hrest)) hmem
  | char cs hno _ ih =>
    rw [expandFrom_char hno, List.mem_cons]
    rintro (rfl | hmem)
    · exact h List.mem_cons_self
    · exact ih (fun hcs => h (List.mem_cons_of_mem _ hcs)) hmem

theorem Context.segments_interpolate (ho : context.Ordinary) (template : String) :
    segments ⟨context.interpolate template⟩ =
      (segments ⟨template⟩).map context.interpolate := by
  have hslash : ∀ f ∈ (Text.fields '/' template.toList).map (context.expandFrom 0), '/' ∉ f := by
    intro f hf
    obtain ⟨g, hg, rfl⟩ := List.mem_map.mp hf
    exact slash_not_mem_expandFrom ho (Text.sep_not_mem_of_mem_fields hg)
  have hfields : context.expandFrom 0 (Text.joined '/' (Text.fields '/' template.toList)) = _ :=
    expandFrom_joined _
  rw [Text.joined_fields] at hfields
  rw [segments, segments, Text.split, Text.split, interpolate, String.toList_ofList, hfields,
    Text.fields_joined (by simp [Text.fields_ne_nil]) hslash]
  simp [interpolate, Function.comp_def]

-- ---------------------------------------------------------------------------
-- Dots
-- ---------------------------------------------------------------------------

theorem Context.expandFrom_of_not_mem (h : '$' ∉ text) : context.expandFrom 0 text = text := by
  obtain ⟨pieces, hreads⟩ := exists_reads context.has text
  induction hreads with
  | done => rfl
  | value rest hp _ _ _ =>
    obtain ⟨name, hname⟩ := exists_token_eq _ hp
    simp [hname] at h
  | char cs hno _ ih =>
    rw [expandFrom_char hno, ih fun hcs => h (List.mem_cons_of_mem _ hcs)]

theorem not_plain_of_dots (hdots : ∀ c ∈ value.toList, c = '.')
    (hlength : value.toList.length ≤ 2) : ¬ Plain value := by
  have hvalue : value = String.ofList (List.replicate value.toList.length '.') := by
    rw [← List.eq_replicate_of_mem hdots, String.ofList_toList]
  rw [hvalue]
  match value.toList.length, hlength with
  | 0, _ | 1, _ => exact fun hplain => absurd hplain.1 (by decide)
  | 2, _ => exact fun hplain => absurd hplain.2 (by decide)

theorem Context.eq_of_expandFrom_dots (ho : context.Ordinary)
    (hdots : ∀ c ∈ context.expandFrom 0 text, c = '.')
    (hlength : (context.expandFrom 0 text).length ≤ 2) : context.expandFrom 0 text = text := by
  obtain ⟨pieces, hreads⟩ := exists_reads context.has text
  induction hreads with
  | done => rfl
  | value rest hp hset _ _ =>
    obtain ⟨value, hvalue⟩ := has_eq_true.mp hset
    rw [expandFrom_token hp hvalue] at hdots hlength
    rw [List.length_append] at hlength
    exact absurd (ho _ hp value hvalue).1 (not_plain_of_dots
      (fun c hc => hdots c (List.mem_append_left _ hc)) (by omega))
  | char cs hno _ ih =>
    rw [expandFrom_char hno] at hdots hlength ⊢
    rw [ih (fun c hc => hdots c (List.mem_cons_of_mem _ hc)) (Nat.le_of_succ_le hlength)]

theorem Context.interpolate_eq_dots_iff (ho : context.Ordinary) (hdots : ∀ c ∈ w.toList, c = '.')
    (hlength : w.toList.length ≤ 2) : context.interpolate s = w ↔ s = w := by
  constructor
  · intro h
    have htext : context.expandFrom 0 s.toList = w.toList := by
      rw [← h, interpolate, String.toList_ofList]
    have heq := eq_of_expandFrom_dots ho (htext ▸ hdots) (htext ▸ hlength)
    exact String.toList_injective (heq.symm.trans htext)
  · rintro rfl
    have hnone : '$' ∉ s.toList := fun hmem => absurd (hdots _ hmem) (by decide)
    rw [interpolate, expandFrom_of_not_mem hnone, String.ofList_toList]

theorem Context.renames_interpolate (ho : context.Ordinary) : Path.Renames context.interpolate := by
  intro s
  have hnothing : context.interpolate s = "" ↔ s = "" :=
    interpolate_eq_dots_iff ho (by simp) (by simp)
  have hhere : context.interpolate s = "." ↔ s = "." :=
    interpolate_eq_dots_iff ho (by simp) (by simp)
  refine ⟨?_, interpolate_eq_dots_iff ho (by simp) (by simp)⟩
  rw [Bool.eq_iff_iff]
  simp only [isStill, Bool.or_eq_true, beq_iff_eq, hnothing, hhere]

-- ---------------------------------------------------------------------------
-- Cleaned templates
-- ---------------------------------------------------------------------------

/-- It is the same whether a template is cleaned before the values are put in
or after; what a volume is given is the cleaned template, segment by segment
with the values in their places. -/
theorem cleanSubpath_interpolate (template : String) (ho : context.Ordinary) :
    cleanSubpath (context.interpolate template) = context.interpolate (cleanSubpath template) ∧
      segments ⟨cleanSubpath (context.interpolate template)⟩ =
        (segments ⟨cleanSubpath template⟩).map context.interpolate ∧
      ∀ id pairs resolution, Context.ofList pairs = context →
        rawSubDir context = some template → resolve id pairs = .ok resolution →
        resolution.volume.subDir = some (context.interpolate (cleanSubpath template)) := by
  have hclean : cleanSubpath (context.interpolate template) =
      context.interpolate (cleanSubpath template) := by
    rw [cleanSubpath, Context.segments_interpolate ho,
      Path.cleanSegments_map (Context.renames_interpolate ho), ← Context.interpolate_join,
      ← cleanSubpath]
  refine ⟨hclean, ?_, ?_⟩
  · rw [hclean, Context.segments_interpolate ho]
  · rintro id pairs resolution rfl hraw hresolve
    rw [subDir_of_resolve hresolve, hraw, Option.map_some, cleanSubDir, hclean]

end

theorem cleanSubpath_interpolate_dotted :
    (claimNamed "$\x7bpv.metadata.name\x7d").Ordinary ∧
      cleanSubpath ((claimNamed "$\x7bpv.metadata.name\x7d").interpolate
        "./.$\x7bpvc.metadata.name\x7d.//$\x7bpv.metadata.name\x7d/../x") =
        ".$\x7bpv.metadata.name\x7d./x" := by
  have ho : (claimNamed "$\x7bpv.metadata.name\x7d").Ordinary := by
    intro p _ value hvalue
    rw [get?_claimNamed] at hvalue
    split at hvalue
    · obtain rfl := Option.some.inj hvalue
      rw [Plain]
      decide
    · cases hvalue
  obtain ⟨hclean, -⟩ := cleanSubpath_interpolate
    "./.$\x7bpvc.metadata.name\x7d.//$\x7bpv.metadata.name\x7d/../x" ho
  have hfolded : cleanSubpath "./.$\x7bpvc.metadata.name\x7d.//$\x7bpv.metadata.name\x7d/../x" =
      ".$\x7bpvc.metadata.name\x7d./x" := by decide +kernel
  rw [hclean, hfolded]
  exact ⟨ho, by decide +kernel⟩

end VolumeAgent.Volume
