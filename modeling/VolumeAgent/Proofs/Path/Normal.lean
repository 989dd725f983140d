import VolumeAgent.Proofs.Path.Resolution

/-!
# What cleaning comes to

A cleaned path climbs first and then leads down: each `..` that is left
stands in front. So it is a strict sub-path unless it is empty or begins with
`..`, and it is not changed by cleaning it once more.
-/

namespace VolumeAgent.Path

def Normal (ss : List String) : Prop :=
  ∃ climbs names, ss = List.replicate climbs ".." ++ names ∧ ∀ s ∈ names, Plain s

theorem normal_foldSegment (h : Normal kept.reverse) (s : String) :
    Normal (foldSegment kept s).reverse := by
  obtain ⟨climbs, names, hkept, hplain⟩ := h
  unfold foldSegment
  split
  · exact ⟨climbs, names, hkept, hplain⟩
  · rename_i hstill
    split
    · rename_i hup
      obtain rfl : s = ".." := by simpa using hup
      rcases List.eq_nil_or_concat names with rfl | ⟨front, last, rfl⟩
      · -- Nothing leads down, so one more `..` stays.
        have hclimb : Normal (".." :: kept).reverse :=
          ⟨climbs + 1, [], by simpa [List.replicate_succ'] using hkept, by simp⟩
        cases kept with
        | nil => exact hclimb
        | cons last rest =>
          have hlast : last ∈ List.replicate climbs ".." := by
            have hmem : last ∈ (last :: rest).reverse := by simp
            simpa [hkept] using hmem
          obtain rfl := List.eq_of_mem_replicate hlast
          exact hclimb
      · have hkept : kept = last :: (List.replicate climbs ".." ++ front).reverse := by
          have hrev := congrArg List.reverse hkept
          simpa using hrev
        have hlast : last ≠ ".." := (hplain last (by simp)).2
        subst hkept
        simp only [beq_iff_eq, hlast, if_false, List.reverse_reverse]
        exact ⟨climbs, front, rfl, fun x hx => hplain x (by simp [hx])⟩
    · rename_i hup
      have hs : Plain s := ⟨by simpa using hstill, by simpa using hup⟩
      refine ⟨climbs, names ++ [s], by simp [hkept], ?_⟩
      intro x hx
      rcases List.mem_append.mp hx with hx | hx
      · exact hplain x hx
      · obtain rfl := List.mem_singleton.mp hx
        exact hs

theorem normal_cleanSegments (ss : List String) : Normal (cleanSegments ss) := by
  -- Generalized over the segments kept so far.
  suffices hfold : ∀ kept : List String, Normal kept.reverse →
      Normal (ss.foldl foldSegment kept).reverse from hfold [] ⟨0, [], rfl, by simp⟩
  induction ss with
  | nil => exact fun kept h => h
  | cons s rest ih => exact fun kept h => ih _ (normal_foldSegment h s)

theorem foldSegment_climbs (n : Nat) :
    foldSegment (List.replicate n "..") ".." = List.replicate (n + 1) ".." := by
  cases n with
  | zero => rfl
  | succ n => simp [List.replicate_succ, foldSegment, isStill]

theorem cleanSegments_climbs (n : Nat) :
    cleanSegments (List.replicate n "..") = List.replicate n ".." := by
  have hfold : (List.replicate n "..").foldl foldSegment [] = List.replicate n ".." := by
    induction n with
    | zero => rfl
    | succ n ih =>
      calc
        (List.replicate (n + 1) "..").foldl foldSegment []
        _ = (List.replicate n ".." ++ [".."]).foldl foldSegment [] := by rw [List.replicate_succ']
        _ = foldSegment (List.replicate n "..") ".." := by rw [List.foldl_append, ih]; rfl
        _ = List.replicate (n + 1) ".." := foldSegment_climbs n
  simp [cleanSegments, hfold]

theorem cleanSegments_of_normal (h : Normal ss) : cleanSegments ss = ss := by
  obtain ⟨climbs, names, rfl, hplain⟩ := h
  rw [cleanSegments_append_plain _ hplain, cleanSegments_climbs]

theorem cleanSubpath_eq_empty_iff : cleanSubpath s = "" ↔ cleanSegments (segments ⟨s⟩) = [] := by
  constructor
  · intro hempty
    rw [← names_cleanSubpath, hempty, names_empty]
  · intro hc
    simp [cleanSubpath, hc, Text.join, Text.joined]

theorem cleanSubpath_eq_iff {a b : String} :
    cleanSubpath a = cleanSubpath b ↔
      cleanSegments (segments ⟨a⟩) = cleanSegments (segments ⟨b⟩) := by
  constructor
  · intro h
    rw [← names_cleanSubpath, h, names_cleanSubpath]
  · intro h
    rw [cleanSubpath, h, ← cleanSubpath]

theorem cleanSubpath_cleanSubpath (s : String) :
    cleanSubpath (cleanSubpath s) = cleanSubpath s := by
  by_cases hc : cleanSegments (segments ⟨s⟩) = []
  · rw [cleanSubpath_eq_empty_iff.mpr hc]
    rfl
  · have hagain : cleanSegments (segments ⟨cleanSubpath s⟩) = cleanSegments (segments ⟨s⟩) := by
      rw [segments_cleanSubpath hc, cleanSegments_of_normal (normal_cleanSegments _)]
    rw [cleanSubpath, hagain, ← cleanSubpath]

-- ---------------------------------------------------------------------------
-- Strict sub-paths among cleaned ones
-- ---------------------------------------------------------------------------

theorem depthFrom_plain (h : ∀ s ∈ ss, Plain s) (depth : Nat) :
    depthFrom depth ss = some (depth + ss.length) := by
  induction ss generalizing depth with
  | nil => rfl
  | cons s rest ih =>
    obtain ⟨hs, hrest⟩ := List.forall_mem_cons.mp h
    have hlength : depth + 1 + rest.length = depth + (s :: rest).length := by
      rw [List.length_cons]
      omega
    simp [depthFrom, hs.1, hs.2, ih hrest, hlength]

/-- Of cleaned paths, the empty one and those that begin with `..` are not
inside. -/
theorem isStrictSubpath_cleanSubpath :
    isStrictSubpath (cleanSubpath s) = false ↔
      cleanSubpath s = "" ∨ (segments ⟨cleanSubpath s⟩).head? = some ".." := by
  by_cases hc : cleanSegments (segments ⟨s⟩) = []
  · rw [cleanSubpath_eq_empty_iff.mpr hc]
    decide
  · have hne : cleanSubpath s ≠ "" := fun hempty => hc (cleanSubpath_eq_empty_iff.mp hempty)
    have habs : isAbsolute ⟨cleanSubpath s⟩ = false := by
      simpa [isAbsolute] using head?_cleanSubpath s
    simp only [isStrictSubpath, habs, segments_cleanSubpath hc, hne, false_or, Bool.not_false,
      Bool.true_and]
    obtain ⟨climbs, names, hnormal, hplain⟩ := normal_cleanSegments (segments ⟨s⟩)
    rw [hnormal]
    cases climbs with
    | zero =>
      cases names with
      | nil => exact absurd hnormal hc
      | cons x rest =>
        have hx : x ≠ ".." := (hplain x (by simp)).2
        have hdepth := depthFrom_plain hplain 0
        simp [hdepth, hx]
    | succ n => simp [List.replicate_succ, depthFrom, isStill]

theorem exists_names_of_isStrictSubpath (h : isStrictSubpath (cleanSubpath s) = true) :
    ∃ names, names ≠ [] ∧ (∀ n ∈ names, Plain n ∧ '/' ∉ n.toList) ∧
      cleanSubpath s = Text.join '/' names := by
  obtain ⟨hne, hplain, -⟩ := cleanSegments_strict h
  refine ⟨_, hne, fun n hn => ⟨hplain n hn, slash_not_mem_cleanSegments hn⟩, ?_⟩
  rw [← cleanSubpath, cleanSubpath_cleanSubpath]

-- ---------------------------------------------------------------------------
-- How the directory of a volume is written
-- ---------------------------------------------------------------------------

theorem kept_of_getLast?_trimEnd (drop : Char → Bool)
    (h : (Text.trimEnd drop cs).getLast? = some c) : drop c = false := by
  induction cs with
  | nil => cases h
  | cons d cs ih =>
    unfold Text.trimEnd at h
    cases hk : Text.trimEnd drop cs with
    | nil =>
      cases hd : drop d with
      | true => simp [hk, hd] at h
      | false =>
        obtain rfl : d = c := by simpa [hk, hd] using h
        exact hd
    | cons e kept => exact ih (by simpa [hk] using h)

theorem getLast?_internal (h : internal work target = .ok p) :
    p.text.toList.getLast? ≠ some '/' := by
  obtain ⟨hstrict, rfl⟩ := internal_ok h
  have hhead := head?_of_isStrictSubpath hstrict
  have hlast : (Text.trimChar '/' target.text).toList.getLast? ≠ some '/' := by
    intro hc
    have hkept := kept_of_getLast?_trimEnd (· == '/')
      (by simpa [Text.trimChar, Text.trim] using hc)
    simp at hkept
  have hne : (Text.trimChar '/' target.text).toList ≠ [] := by
    intro hnil
    have hnames := names_ne_nil_of_isStrictSubpath hstrict
    rw [String.toList_eq_nil_iff.mp hnil, names_empty] at hnames
    exact hnames rfl
  have hjoin : ∀ front : List Char,
      (front ++ (Text.trimChar '/' target.text).toList).getLast? ≠ some '/' := by
    intro front
    rw [List.getLast?_append]
    rw [List.getLast?_eq_some_getLast hne] at hlast ⊢
    exact hlast
  unfold join
  simp only [beq_iff_eq, hhead, if_false]
  split
  · simpa only [String.toList_append] using hjoin _
  · simpa only [String.toList_append] using hjoin _

theorem internalVolume_clean (hi : internal work target = .ok p)
    (h : isStrictSubpath (cleanSubpath s) = true) :
    internalVolume work target (cleanSubpath s) = .ok ⟨p.text ++ "/" ++ cleanSubpath s⟩ := by
  have hne : p.isEmpty = false := ne_empty_of_names (internal_names_ne_nil hi)
  have hhead := head?_of_isStrictSubpath h
  rw [internalVolume_of_internal hi h, cleanSubpath_cleanSubpath, join]
  simp [hhead, hne, getLast?_internal hi]

end VolumeAgent.Path
