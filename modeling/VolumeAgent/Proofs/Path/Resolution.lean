import VolumeAgent.Proofs.Path.Key

/-!
# Where paths lead

`Key.resolved` follows a key's names from the start, where `..` takes back the
name before it. A strict sub-path takes back only names of its own, so what
it is joined to stays: internal paths, and directories in them, resolve to
places strictly below the working directory, however that is written.
-/

namespace VolumeAgent.Path

def Plain (s : String) : Prop := isStill s = false ∧ s ≠ ".."

-- ---------------------------------------------------------------------------
-- Cleaning
-- ---------------------------------------------------------------------------

theorem foldSegment_still (h : isStill s = true) : foldSegment kept s = kept := by
  simp [foldSegment, h]

theorem foldSegment_plain (h : Plain s) : foldSegment kept s = s :: kept := by
  simp [foldSegment, h.1, h.2]

theorem foldSegment_up (h : Plain last) : foldSegment (last :: kept) ".." = kept := by
  simp [foldSegment, isStill, h.2]

theorem cleanSegments_filter (ss : List String) :
    cleanSegments (ss.filter (!isStill ·)) = cleanSegments ss := by
  have hskip : ∀ kept s, (if !isStill s then foldSegment kept s else kept) = foldSegment kept s := by
    intro kept s
    cases hs : isStill s with
    | false => rfl
    | true => simp [foldSegment_still hs]
  simp only [cleanSegments, List.foldl_filter, hskip]

theorem cleanSegments_append_names (base : List String) (p : Path) :
    cleanSegments (base ++ p.key.names) = cleanSegments (base ++ p.segments) := by
  rw [← cleanSegments_filter (base ++ p.key.names), ← cleanSegments_filter (base ++ p.segments)]
  simp [key]

theorem cleanSegments_names (p : Path) : cleanSegments p.key.names = cleanSegments p.segments :=
  cleanSegments_append_names [] p

theorem foldl_plain {ss : List String} (h : ∀ s ∈ ss, Plain s) (kept : List String) :
    ss.foldl foldSegment kept = ss.reverse ++ kept := by
  induction ss generalizing kept with
  | nil => rfl
  | cons s rest ih =>
    obtain ⟨hs, hrest⟩ := List.forall_mem_cons.mp h
    rw [List.foldl_cons, foldSegment_plain hs, ih hrest]
    simp

theorem cleanSegments_append_plain (base : List String) (h : ∀ s ∈ ss, Plain s) :
    cleanSegments (base ++ ss) = cleanSegments base ++ ss := by
  simp [cleanSegments, foldl_plain h]

theorem foldl_of_depthFrom (h : depthFrom top.length ss = some n) (hp : ∀ s ∈ top, Plain s) :
    ∃ top', top'.length = n ∧ (∀ s ∈ top', Plain s) ∧
      ∀ kept, ss.foldl foldSegment (top ++ kept) = top' ++ kept := by
  induction ss generalizing top with
  | nil => exact ⟨top, by simpa [depthFrom] using h, hp, fun _ => rfl⟩
  | cons s rest ih =>
    unfold depthFrom at h
    split at h
    · rename_i hs
      obtain ⟨top', hn, hp', hfold⟩ := ih h hp
      exact ⟨top', hn, hp', fun kept => by rw [List.foldl_cons, foldSegment_still hs, hfold]⟩
    · rename_i hs
      split at h
      · rename_i hup
        obtain rfl : s = ".." := by simpa using hup
        cases top with
        | nil => cases h
        | cons last top =>
          obtain ⟨hlast, htop⟩ := List.forall_mem_cons.mp hp
          obtain ⟨top', hn, hp', hfold⟩ := ih h htop
          refine ⟨top', hn, hp', fun kept => ?_⟩
          rw [List.cons_append, List.foldl_cons, foldSegment_up hlast, hfold]
      · rename_i hup
        have hplain : Plain s := ⟨by simpa using hs, by simpa using hup⟩
        obtain ⟨top', hn, hp', hfold⟩ := @ih (s :: top) h (List.forall_mem_cons.mpr ⟨hplain, hp⟩)
        refine ⟨top', hn, hp', fun kept => ?_⟩
        rw [List.foldl_cons, foldSegment_plain hplain, ← List.cons_append, hfold]

/-- Segments that never lead above their start are cleaned to names, wherever
they are followed from. -/
theorem cleanSegments_of_depthFrom (h : depthFrom 0 ss = some n) :
    (cleanSegments ss).length = n ∧ (∀ s ∈ cleanSegments ss, Plain s) ∧
      ∀ base, cleanSegments (base ++ ss) = cleanSegments base ++ cleanSegments ss := by
  have h : depthFrom ([] : List String).length ss = some n := h
  obtain ⟨top, htop, hplain, hfold⟩ := foldl_of_depthFrom h (by simp)
  have hclean : cleanSegments ss = top.reverse := by simpa [cleanSegments] using hfold []
  rw [hclean]
  refine ⟨by simpa using htop, by simpa using hplain, fun base => ?_⟩
  have hbase := hfold (base.foldl foldSegment [])
  simp only [List.nil_append] at hbase
  simp [cleanSegments, hbase]

theorem depthFrom_of_isStrictSubpath (h : isStrictSubpath s = true) :
    ∃ n, depthFrom 0 (segments ⟨s⟩) = some n ∧ 0 < n := by
  simp only [isStrictSubpath, Bool.and_eq_true] at h
  cases hd : depthFrom 0 (segments ⟨s⟩) with
  | none => simp [hd] at h
  | some n => exact ⟨n, rfl, by simpa [hd] using h.2⟩

theorem cleanSegments_strict (h : isStrictSubpath s = true) :
    cleanSegments (segments ⟨s⟩) ≠ [] ∧ (∀ x ∈ cleanSegments (segments ⟨s⟩), Plain x) ∧
      ∀ base, cleanSegments (base ++ segments ⟨s⟩) =
        cleanSegments base ++ cleanSegments (segments ⟨s⟩) := by
  obtain ⟨n, hn, hpos⟩ := depthFrom_of_isStrictSubpath h
  obtain ⟨hlength, hplain, happend⟩ := cleanSegments_of_depthFrom hn
  exact ⟨List.ne_nil_of_length_pos (hlength ▸ hpos), hplain, happend⟩

theorem slash_not_mem_cleanSegments {s x : String} (h : x ∈ cleanSegments (segments ⟨s⟩)) :
    '/' ∉ x.toList := by
  obtain ⟨f, hf, rfl⟩ := List.mem_map.mp (mem_cleanSegments h).1
  simpa using Text.sep_not_mem_of_mem_fields hf

theorem segments_cleanSubpath (h : cleanSegments (segments ⟨s⟩) ≠ []) :
    segments ⟨cleanSubpath s⟩ = cleanSegments (segments ⟨s⟩) := by
  have hslash : ∀ f ∈ (cleanSegments (segments ⟨s⟩)).map String.toList, '/' ∉ f := by
    intro f hf
    obtain ⟨y, hy, rfl⟩ := List.mem_map.mp hf
    exact slash_not_mem_cleanSegments hy
  rw [cleanSubpath, segments, Text.split, Text.join, String.toList_ofList,
    Text.fields_joined (by simpa using h) hslash]
  simp [Function.comp_def]

theorem names_cleanSubpath (s : String) :
    (key ⟨cleanSubpath s⟩).names = cleanSegments (segments ⟨s⟩) := by
  by_cases hc : cleanSegments (segments ⟨s⟩) = []
  · simp [cleanSubpath, hc, Text.join, Text.joined]
  · have hstill : ∀ y ∈ cleanSegments (segments ⟨s⟩), isStill y = false :=
      fun y hy => (mem_cleanSegments hy).2
    simpa [key, segments_cleanSubpath hc, List.filter_eq_self] using hstill

-- ---------------------------------------------------------------------------
-- Places
-- ---------------------------------------------------------------------------

/-- Where a key leads by its names alone. At the root, `..` stays there. -/
def Key.resolved (k : Key) : Key :=
  let names := cleanSegments k.names
  ⟨k.absolute, if k.absolute then names.dropWhile (· == "..") else names⟩

theorem Key.resolved_append {j k : Key} (habs : j.absolute = k.absolute)
    (hnames : cleanSegments j.names = cleanSegments k.names ++ rest) (hne : rest ≠ [])
    (hplain : ∀ x ∈ rest, Plain x) : j.resolved = ⟨k.absolute, k.resolved.names ++ rest⟩ := by
  obtain ⟨x, xs, rfl⟩ := List.exists_cons_of_ne_nil hne
  have hx : x ≠ ".." := (hplain x (by simp)).2
  have hdrop : ∀ names : List String, (names ++ x :: xs).dropWhile (· == "..") =
      names.dropWhile (· == "..") ++ x :: xs := by
    intro names
    rw [List.dropWhile_append]
    split
    · rename_i hnil
      simp only [List.isEmpty_iff] at hnil
      simp [hnil, hx]
    · rfl
  simp only [resolved, habs, hnames, hdrop]
  split <;> rfl

theorem Key.below_resolved {j k : Key} (habs : j.absolute = k.absolute)
    (hnames : cleanSegments j.names = cleanSegments k.names ++ rest) (hne : rest ≠ [])
    (hplain : ∀ x ∈ rest, Plain x) : j.resolved.below k.resolved = true := by
  rw [resolved_append habs hnames hne hplain, below_iff]
  simpa [resolved] using hne

theorem Key.below_trans {i j k : Key} (hij : i.below j = true) (hjk : j.below k = true) :
    i.below k = true := by
  obtain ⟨habs, hpre, -⟩ := below_iff.mp hij
  obtain ⟨habs', hpre', hne⟩ := below_iff.mp hjk
  refine below_iff.mpr ⟨habs.trans habs', hpre'.trans hpre, fun he => hne ?_⟩
  exact hpre'.eq_of_length_le (he ▸ hpre.length_le)

theorem absolute_join (p : Path) {tail : String} (h : tail.toList.head? ≠ some '/') :
    (p.join tail).key.absolute = p.key.absolute := by
  rw [key_absolute, key_absolute, isAbsolute_join p h]

theorem internal_below (h : internal work target = .ok p) :
    p.key.resolved.below work.key.resolved = true := by
  obtain ⟨hstrict, hjoin⟩ := internal_ok h
  rw [hjoin]
  obtain ⟨hne, hplain, hbase⟩ := cleanSegments_strict hstrict
  have hhead := head?_of_isStrictSubpath hstrict
  refine Key.below_resolved (absolute_join work hhead) ?_ hne hplain
  rw [names_join work hhead, cleanSegments_append_names, hbase]

theorem internalVolume_below (hi : internal work target = .ok p)
    (hd : internalVolume work target subDir = .ok d) :
    d.key.resolved.below p.key.resolved = true := by
  obtain ⟨q, hq, hsub, hjoin⟩ := internalVolume_ok hd
  obtain rfl : p = q := Except.ok.inj (hi.symm.trans hq)
  rw [hjoin]
  obtain ⟨hne, hplain, -⟩ := cleanSegments_strict hsub
  have hhead := head?_cleanSubpath subDir
  refine Key.below_resolved (absolute_join p hhead) ?_ hne hplain
  rw [names_join p hhead, names_cleanSubpath, cleanSegments_append_plain _ hplain]

end VolumeAgent.Path
