import VolumeAgent.Proofs.Path.Normal

/-!
# Walks from a base directory

`walk` follows segments from a directory, name by name, and looks at nothing
else. `isStrictSubpath_iff_walk`: a strict sub-path is a relative path whose
walk takes back no name of its base and ends strictly below it, and this is
so exactly if its cleaned form is neither empty nor begins with `..`; then
the cleaned form is what the walk adds to its base. The base plays no part.
-/

namespace VolumeAgent.Path

/-- The directory that one segment leads to: `..` takes back the last name,
and nothing leads up from where there is none. -/
def enter? (dir : List String) (s : String) : Option (List String) :=
  if isStill s then some dir
  else if s == ".." then if dir.isEmpty then none else some dir.dropLast
  else some (dir ++ [s])

def walk (dir : List String) (ss : List String) : Option (List String) := ss.foldlM enter? dir

/-- On a walk that starts at `dir`, what each `..` takes back is a name that
stands behind the base. -/
def KeepsBase (base dir ss : List String) : Prop :=
  ∀ before after, ss = before ++ ".." :: after →
    ∃ names, names ≠ [] ∧ walk dir before = some (base ++ names)

-- ---------------------------------------------------------------------------
-- One segment
-- ---------------------------------------------------------------------------

theorem enter?_still (dir : List String) (h : isStill s = true) : enter? dir s = some dir := by
  simp [enter?, h]

theorem enter?_plain (dir : List String) (h : Plain s) : enter? dir s = some (dir ++ [s]) := by
  simp [enter?, h.1, h.2]

theorem enter?_up (base top : List String) (last : String) :
    enter? (base ++ (last :: top).reverse) ".." = some (base ++ top.reverse) := by
  simp [enter?, isStill, ← List.append_assoc]

theorem plain_of_moves (hs : ¬ isStill s = true) (hup : ¬ (s == "..") = true) : Plain s :=
  ⟨by simpa using hs, by simpa using hup⟩

theorem walk_cons (h : enter? dir s = some dir') : walk dir (s :: ss) = walk dir' ss := by
  simp [walk, h]

theorem keepsBase_cons (h : enter? dir s = some dir') :
    KeepsBase base dir (s :: ss) ↔
      (s = ".." → ∃ names, names ≠ [] ∧ dir = base ++ names) ∧ KeepsBase base dir' ss := by
  constructor
  · intro hk
    refine ⟨?_, ?_⟩
    · rintro rfl
      simpa [walk] using hk [] ss rfl
    · rintro before after rfl
      simpa [walk_cons h] using hk (s :: before) after rfl
  · rintro ⟨hs, hk⟩ before after he
    cases before with
    | nil =>
      obtain ⟨rfl, rfl⟩ := List.cons.inj he
      simpa [walk] using hs rfl
    | cons first before =>
      obtain ⟨rfl, rfl⟩ := List.cons.inj he
      simpa [walk_cons h] using hk before after rfl

-- ---------------------------------------------------------------------------
-- Walks and depths
-- ---------------------------------------------------------------------------

section
variable {base top : List String}

/-- As long as the depth is known, a walk adds to its base what cleaning
keeps. -/
theorem walk_of_depthFrom (base : List String) (h : depthFrom top.length ss = some n)
    (hp : ∀ s ∈ top, Plain s) :
    KeepsBase base (base ++ top.reverse) ss ∧
      walk (base ++ top.reverse) ss = some (base ++ (ss.foldl foldSegment top).reverse) := by
  -- The names behind the base, latest first, are the segments kept.
  induction ss generalizing top with
  | nil => exact ⟨fun before after he => by simp at he, rfl⟩
  | cons s rest ih =>
    unfold depthFrom at h
    rw [List.foldl_cons]
    split at h
    · rename_i hs
      have hstep := enter?_still (base ++ top.reverse) hs
      have hup : s ≠ ".." := by
        rintro rfl
        simp [isStill] at hs
      rw [keepsBase_cons hstep, walk_cons hstep, foldSegment_still hs]
      exact ⟨⟨fun he => absurd he hup, (ih h hp).1⟩, (ih h hp).2⟩
    · rename_i hs
      split at h
      · rename_i hup
        obtain rfl : s = ".." := by simpa using hup
        cases top with
        | nil => cases h
        | cons last top =>
          obtain ⟨hlast, htop⟩ := List.forall_mem_cons.mp hp
          have hstep := enter?_up base top last
          rw [keepsBase_cons hstep, walk_cons hstep, foldSegment_up hlast]
          exact ⟨⟨fun _ => ⟨_, by simp, rfl⟩, (ih h htop).1⟩, (ih h htop).2⟩
      · rename_i hup
        have hplain := plain_of_moves hs hup
        have hstep := enter?_plain (base ++ top.reverse) hplain
        rw [List.append_assoc, ← List.reverse_cons] at hstep
        obtain ⟨hkeeps, hwalk⟩ := @ih (s :: top) h (List.forall_mem_cons.mpr ⟨hplain, hp⟩)
        rw [keepsBase_cons hstep, walk_cons hstep, foldSegment_plain hplain]
        exact ⟨⟨fun he => absurd he hplain.2, hkeeps⟩, hwalk⟩

theorem depthFrom_of_keepsBase (h : KeepsBase base (base ++ top.reverse) ss) :
    ∃ n, depthFrom top.length ss = some n := by
  induction ss generalizing top with
  | nil => exact ⟨_, rfl⟩
  | cons s rest ih =>
    unfold depthFrom
    split
    · rename_i hs
      exact ih ((keepsBase_cons (enter?_still _ hs)).mp h).2
    · rename_i hs
      split
      · rename_i hup
        obtain rfl : s = ".." := by simpa using hup
        cases top with
        | nil =>
          -- At the base itself there is no name to take back.
          obtain ⟨names, hne, hnames⟩ := h [] rest rfl
          exact absurd (by simpa [walk] using hnames) hne
        | cons last top => exact ih ((keepsBase_cons (enter?_up base top last)).mp h).2
      · rename_i hup
        have hstep := enter?_plain (base ++ top.reverse) (plain_of_moves hs hup)
        rw [List.append_assoc, ← List.reverse_cons] at hstep
        exact @ih (s :: top) ((keepsBase_cons hstep).mp h).2

-- ---------------------------------------------------------------------------
-- Climbs
-- ---------------------------------------------------------------------------

theorem foldSegment_climbed (h : kept.getLast? = some "..") (s : String) :
    (foldSegment kept s).getLast? = some ".." := by
  obtain ⟨last, rest, rfl⟩ : ∃ last rest, kept = last :: rest := by
    cases kept with
    | nil => cases h
    | cons last rest => exact ⟨last, rest, rfl⟩
  unfold foldSegment
  split
  · exact h
  · split
    · simp only
      split
      · rwa [List.getLast?_cons_cons]
      · rename_i hlast
        -- What is taken back is not at the bottom.
        cases rest with
        | nil => simp_all
        | cons next rest => rwa [List.getLast?_cons_cons] at h
    · rwa [List.getLast?_cons_cons]

theorem foldl_climbed (h : kept.getLast? = some "..") (ss : List String) :
    (ss.foldl foldSegment kept).getLast? = some ".." := by
  induction ss generalizing kept with
  | nil => exact h
  | cons s rest ih => exact ih (foldSegment_climbed h s)

theorem foldl_of_depthFrom_none (h : depthFrom top.length ss = none) (hp : ∀ s ∈ top, Plain s) :
    (ss.foldl foldSegment top).getLast? = some ".." := by
  induction ss generalizing top with
  | nil => cases h
  | cons s rest ih =>
    unfold depthFrom at h
    rw [List.foldl_cons]
    split at h
    · rename_i hs
      rw [foldSegment_still hs]
      exact ih h hp
    · rename_i hs
      split at h
      · rename_i hup
        obtain rfl : s = ".." := by simpa using hup
        cases top with
        | nil => exact foldl_climbed rfl rest
        | cons last top =>
          obtain ⟨hlast, htop⟩ := List.forall_mem_cons.mp hp
          rw [foldSegment_up hlast]
          exact ih h htop
      · rename_i hup
        have hplain := plain_of_moves hs hup
        rw [foldSegment_plain hplain]
        exact @ih (s :: top) h (List.forall_mem_cons.mpr ⟨hplain, hp⟩)

end

-- ---------------------------------------------------------------------------
-- Strict sub-paths
-- ---------------------------------------------------------------------------

theorem exists_depthFrom_iff (ss : List String) :
    (∃ n, depthFrom 0 ss = some n) ↔ (cleanSegments ss).head? ≠ some ".." := by
  constructor
  · rintro ⟨n, hn⟩
    intro hhead
    exact ((cleanSegments_of_depthFrom hn).2.1 ".." (List.mem_of_head? hhead)).2 rfl
  · intro hhead
    cases hd : depthFrom ([] : List String).length ss with
    | some n => exact ⟨n, rfl⟩
    | none =>
      have hclimbed := foldl_of_depthFrom_none hd (by simp)
      exact absurd (by simpa [cleanSegments] using hclimbed) hhead

theorem isStrictSubpath_iff (s : String) :
    isStrictSubpath s = true ↔
      s.toList.head? ≠ some '/' ∧ (∃ n, depthFrom 0 (segments ⟨s⟩) = some n) ∧
        cleanSegments (segments ⟨s⟩) ≠ [] := by
  constructor
  · intro h
    obtain ⟨n, hn, -⟩ := depthFrom_of_isStrictSubpath h
    exact ⟨head?_of_isStrictSubpath h, ⟨n, hn⟩, (cleanSegments_strict h).1⟩
  · rintro ⟨hhead, ⟨n, hn⟩, hne⟩
    have hpos := (cleanSegments_of_depthFrom hn).1 ▸ List.length_pos_iff.mpr hne
    simp [isStrictSubpath, isAbsolute, hhead, hn, hpos]

/-- What a strict sub-path is, from wherever it is followed, and how that is
read off its cleaned form. -/
theorem isStrictSubpath_iff_walk (s : String) (base : List String) :
    (isStrictSubpath s = true ↔
      s.toList.head? ≠ some '/' ∧ KeepsBase base base (segments ⟨s⟩) ∧
        ∃ names, names ≠ [] ∧ walk base (segments ⟨s⟩) = some (base ++ names)) ∧
    (isStrictSubpath s = true ↔
      s.toList.head? ≠ some '/' ∧ cleanSubpath s ≠ "" ∧
        (segments ⟨cleanSubpath s⟩).head? ≠ some "..") ∧
    (isStrictSubpath s = true →
      walk base (segments ⟨s⟩) = some (base ++ segments ⟨cleanSubpath s⟩)) := by
  have hwalk : ∀ n, depthFrom 0 (segments ⟨s⟩) = some n →
      KeepsBase base base (segments ⟨s⟩) ∧
        walk base (segments ⟨s⟩) = some (base ++ cleanSegments (segments ⟨s⟩)) := by
    intro n hn
    have hn : depthFrom ([] : List String).length (segments ⟨s⟩) = some n := hn
    simpa [cleanSegments] using walk_of_depthFrom base hn (by simp)
  have hstrict : isStrictSubpath s = true →
      KeepsBase base base (segments ⟨s⟩) ∧
        walk base (segments ⟨s⟩) = some (base ++ segments ⟨cleanSubpath s⟩) := by
    intro h
    obtain ⟨n, hn, -⟩ := depthFrom_of_isStrictSubpath h
    rw [segments_cleanSubpath (cleanSegments_strict h).1]
    exact hwalk n hn
  refine ⟨⟨?_, ?_⟩, ?_, fun h => (hstrict h).2⟩
  · intro h
    have hne := (cleanSegments_strict h).1
    refine ⟨head?_of_isStrictSubpath h, (hstrict h).1, _, ?_, (hstrict h).2⟩
    rwa [segments_cleanSubpath hne]
  · rintro ⟨hhead, hkeeps, names, hne, hnames⟩
    have hkeeps : KeepsBase base (base ++ ([] : List String).reverse) (segments ⟨s⟩) := by
      simpa using hkeeps
    obtain ⟨n, hn⟩ := depthFrom_of_keepsBase hkeeps
    obtain rfl : cleanSegments (segments ⟨s⟩) = names := by
      simpa [(hwalk n hn).2] using hnames
    exact (isStrictSubpath_iff s).mpr ⟨hhead, ⟨n, hn⟩, hne⟩
  · rw [isStrictSubpath_iff, exists_depthFrom_iff, ne_eq (cleanSubpath s),
      cleanSubpath_eq_empty_iff]
    by_cases hne : cleanSegments (segments ⟨s⟩) = []
    · simp [hne]
    · simp [hne, segments_cleanSubpath hne]

theorem isStrictSubpath_iff_walk_winding :
    isStrictSubpath "./a//../b/c/../" = true ∧
      walk ["srv", ".."] ["." , "a", "", "..", "b", "c", "..", ""] = some ["srv", "..", "b"] := by
  have hsegments : segments ⟨"./a//../b/c/../"⟩ = [".", "a", "", "..", "b", "c", "..", ""] := by
    decide +kernel
  have hclean : segments ⟨cleanSubpath "./a//../b/c/../"⟩ = ["b"] := by decide +kernel
  obtain ⟨-, hiff, hwalk⟩ := isStrictSubpath_iff_walk "./a//../b/c/../" ["srv", ".."]
  have hstrict := hiff.mpr ⟨by decide, by decide +kernel, by simp [hclean]⟩
  have hend := hwalk hstrict
  rw [hsegments, hclean] at hend
  exact ⟨hstrict, hend⟩

end VolumeAgent.Path
