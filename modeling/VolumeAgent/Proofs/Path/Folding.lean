import Mathlib.Logic.Relation
import VolumeAgent.Proofs.Path.Normal

/-!
# Folding a path

A path folds by one segment that does not move, or by a name and the `..`
behind it, wherever they stand. No fold changes what cleaning comes to
(`cleanSegments_of_folds`) and the cleaned path is reached by folds, so every
way of folding ends there; what the names are plays no part in it
(`cleanSegments_map`). `cleanSubpath_canonical`: cleaning leads to normal
form, it gives one path to exactly the paths that fold to a common one, and
it may be done before paths are joined or after.
-/

namespace VolumeAgent.Path

open Relation (ReflTransGen Join)

inductive Fold : List String → List String → Prop
  | still (before after : List String) :
      isStill s = true → Fold (before ++ s :: after) (before ++ after)
  | back (before after : List String) :
      Plain name → Fold (before ++ name :: ".." :: after) (before ++ after)

-- ---------------------------------------------------------------------------
-- Every fold keeps what cleaning comes to
-- ---------------------------------------------------------------------------

theorem Fold.foldl_eq (h : Fold ss ts) (kept : List String) :
    ss.foldl foldSegment kept = ts.foldl foldSegment kept := by
  cases h with
  | still before after hs =>
    rw [List.foldl_append, List.foldl_append, List.foldl_cons, foldSegment_still hs]
  | back before after hname =>
    rw [List.foldl_append, List.foldl_append, List.foldl_cons, List.foldl_cons,
      foldSegment_plain hname, foldSegment_up hname]

theorem foldl_of_folds (h : ReflTransGen Fold ss ts) (kept : List String) :
    ss.foldl foldSegment kept = ts.foldl foldSegment kept := by
  induction h with
  | refl => rfl
  | tail _ hfold ih => exact ih.trans (hfold.foldl_eq kept)

theorem cleanSegments_of_folds (h : ReflTransGen Fold ss ts) :
    cleanSegments ss = cleanSegments ts := by
  rw [cleanSegments, foldl_of_folds h, ← cleanSegments]

-- ---------------------------------------------------------------------------
-- Cleaning folds
-- ---------------------------------------------------------------------------

theorem folds_foldl (h : ∀ s ∈ kept, isStill s = false) (ss : List String) :
    ReflTransGen Fold (kept.reverse ++ ss) (ss.foldl foldSegment kept).reverse := by
  induction ss generalizing kept with
  | nil =>
    rw [List.append_nil]
    exact .refl
  | cons s rest ih =>
    rw [List.foldl_cons]
    have hpush : isStill s = false →
        ReflTransGen Fold (kept.reverse ++ s :: rest)
          (rest.foldl foldSegment (s :: kept)).reverse := by
      intro hs
      have hrest := @ih (s :: kept) (List.forall_mem_cons.mpr ⟨hs, h⟩)
      rwa [List.reverse_cons, List.append_assoc] at hrest
    unfold foldSegment
    split
    · rename_i hs
      exact .head (.still _ _ hs) (ih h)
    · rename_i hs
      split
      · rename_i hup
        obtain rfl : s = ".." := by simpa using hup
        cases kept with
        | nil => exact hpush (by simpa using hs)
        | cons last kept =>
          obtain ⟨hlast, hkept⟩ := List.forall_mem_cons.mp h
          simp only
          split
          · exact hpush (by simpa using hs)
          · rename_i hname
            -- The last segment kept is a name, which the `..` takes with it.
            rw [List.reverse_cons, List.append_assoc]
            exact .head (.back _ _ ⟨hlast, by simpa using hname⟩) (ih hkept)
      · exact hpush (by simpa using hs)

theorem folds_cleanSegments (ss : List String) : ReflTransGen Fold ss (cleanSegments ss) := by
  have hnone : ∀ s ∈ ([] : List String), isStill s = false := by simp
  simpa [cleanSegments] using folds_foldl hnone ss

/-- Two ways of folding can be brought together exactly if they start from
paths that are cleaned alike. -/
theorem join_folds_iff :
    Join (ReflTransGen Fold) ss ts ↔ cleanSegments ss = cleanSegments ts := by
  constructor
  · rintro ⟨common, hs, ht⟩
    exact (cleanSegments_of_folds hs).trans (cleanSegments_of_folds ht).symm
  · intro h
    exact ⟨cleanSegments ss, folds_cleanSegments ss, h ▸ folds_cleanSegments ts⟩

-- ---------------------------------------------------------------------------
-- Joined paths
-- ---------------------------------------------------------------------------

theorem foldl_cleanSegments (ss kept : List String) :
    (cleanSegments ss).foldl foldSegment kept = ss.foldl foldSegment kept :=
  (foldl_of_folds (folds_cleanSegments ss) kept).symm

/-- Of a path in two parts, each may be cleaned first: a `..` left in front
of the second part takes back the same name of the first. -/
theorem cleanSegments_append (ss ts : List String) :
    cleanSegments (ss ++ ts) = cleanSegments (cleanSegments ss ++ cleanSegments ts) := by
  calc
    cleanSegments (ss ++ ts)
    _ = (ts.foldl foldSegment (ss.foldl foldSegment [])).reverse := by
      rw [cleanSegments, List.foldl_append]
    _ = ((cleanSegments ts).foldl foldSegment
          ((cleanSegments ss).foldl foldSegment [])).reverse := by
      rw [foldl_cleanSegments, foldl_cleanSegments]
    _ = cleanSegments (cleanSegments ss ++ cleanSegments ts) := by
      rw [← List.foldl_append, ← cleanSegments]

theorem cleanSegments_joined (a b : String) :
    cleanSegments (segments ⟨cleanSubpath a ++ "/" ++ cleanSubpath b⟩) =
      cleanSegments (segments ⟨a ++ "/" ++ b⟩) := by
  calc
    cleanSegments (segments ⟨cleanSubpath a ++ "/" ++ cleanSubpath b⟩)
    _ = cleanSegments (cleanSegments (segments ⟨a⟩) ++ cleanSegments (segments ⟨b⟩)) := by
      rw [← cleanSegments_names, names_joined, names_cleanSubpath, names_cleanSubpath]
    _ = cleanSegments ((key ⟨a⟩).names ++ (key ⟨b⟩).names) := by
      rw [← cleanSegments_names ⟨a⟩, ← cleanSegments_names ⟨b⟩, ← cleanSegments_append]
    _ = cleanSegments (segments ⟨a ++ "/" ++ b⟩) := by
      rw [← names_joined, cleanSegments_names]

-- ---------------------------------------------------------------------------
-- Other names
-- ---------------------------------------------------------------------------

def Renames (f : String → String) : Prop :=
  ∀ s, isStill (f s) = isStill s ∧ (f s = ".." ↔ s = "..")

theorem foldSegment_map (h : Renames f) (kept : List String) (s : String) :
    foldSegment (kept.map f) (f s) = (foldSegment kept s).map f := by
  unfold foldSegment
  rw [(h s).1]
  split
  · rfl
  · simp only [beq_iff_eq, (h s).2]
    split
    · have hclimb : f ".." = ".." := (h "..").2.mpr rfl
      cases kept with
      | nil => simp [hclimb]
      | cons last rest =>
        simp only [List.map_cons, (h last).2]
        split
        · simp [hclimb]
        · rfl
    · rfl

theorem foldl_foldSegment_map (h : Renames f) (kept ss : List String) :
    (ss.map f).foldl foldSegment (kept.map f) = (ss.foldl foldSegment kept).map f := by
  induction ss generalizing kept with
  | nil => rfl
  | cons s rest ih => rw [List.map_cons, List.foldl_cons, List.foldl_cons, foldSegment_map h, ih]

theorem cleanSegments_map (h : Renames f) (ss : List String) :
    cleanSegments (ss.map f) = (cleanSegments ss).map f := by
  have hfold := foldl_foldSegment_map h [] ss
  rw [cleanSegments, cleanSegments, List.map_reverse, ← hfold, List.map_nil]

-- ---------------------------------------------------------------------------
-- The canonical form
-- ---------------------------------------------------------------------------

/-- What cleaning a path comes to, and when it comes to the same for two. -/
theorem cleanSubpath_canonical (p a b : String) :
    (cleanSubpath p = "" ∨ Normal (segments ⟨cleanSubpath p⟩)) ∧
      cleanSubpath (cleanSubpath p) = cleanSubpath p ∧
      cleanSubpath (a ++ "/" ++ b) = cleanSubpath (cleanSubpath a ++ "/" ++ cleanSubpath b) ∧
      (cleanSubpath a = cleanSubpath b ↔
        Join (ReflTransGen Fold) (segments ⟨a⟩) (segments ⟨b⟩)) := by
  refine ⟨?_, cleanSubpath_cleanSubpath p, ?_, cleanSubpath_eq_iff.trans join_folds_iff.symm⟩
  · by_cases hc : cleanSegments (segments ⟨p⟩) = []
    · exact .inl (cleanSubpath_eq_empty_iff.mpr hc)
    · right
      rw [segments_cleanSubpath hc]
      exact normal_cleanSegments _
  · exact cleanSubpath_eq_iff.mpr (cleanSegments_joined a b).symm

end VolumeAgent.Path
