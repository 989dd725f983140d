import VolumeAgent.Host.World
import VolumeAgent.Proofs.Path.Key

/-!
# What calls do to a host in memory

Each change is read through look-ups in the tree and in the mount table.
Faults play no part here: these are the laws of `perform` and of what it is
made of.
-/

namespace VolumeAgent.Host

open VolumeAgent.Path (Key)

namespace Table

theorem get?_foldl_set (ks : List Key) (t : Table α) (a : α) (j : Key) :
    (ks.foldl (fun t k => t.set k a) t).get? j = if j ∈ ks then some a else t.get? j := by
  induction ks generalizing t with
  | nil => simp
  | cons k ks ih =>
    simp only [List.foldl_cons, ih, get?_set, List.mem_cons]
    by_cases hks : j ∈ ks <;> by_cases hk : j = k <;> simp [hks, hk]

theorem has_eq_true {t : Table α} : t.has k = true ↔ t.get? k ≠ none := by
  simp [has, Option.isSome_iff_ne_none]

theorem has_eq_false {t : Table α} : t.has k = false ↔ t.get? k = none := by
  simp [has]

theorem get?_ne_none_of_mem {t : Table α} (h : (k, a) ∈ t) : t.get? k ≠ none := by
  rw [← Option.isSome_iff_ne_none, get?, List.lookup_isSome_iff]
  exact ⟨(k, a), h, by simp⟩

theorem mem_of_get? {t : Table α} (h : t.get? k = some a) : (k, a) ∈ t := by
  obtain ⟨front, back, rfl, -⟩ := List.lookup_eq_some_iff.mp h
  simp

end Table

def Call.Within (P : Key → Prop) (c : Call) : Prop := c.changesMounts = true → P c.path.key

namespace World

-- ---------------------------------------------------------------------------
-- Look-ups after a change
-- ---------------------------------------------------------------------------

@[simp] theorem mounts_withDirs (w : World) (k : Key) : (w.withDirs k).mounts = w.mounts := rfl

theorem nodes_withDirs (w : World) (k j : Key) :
    (w.withDirs k).nodes.get? j = if j ∈ k.chain then some .directory else w.nodes.get? j :=
  Table.get?_foldl_set _ _ _ _

@[simp] theorem nodes_withMount (w : World) (k : Key) (m : Mounted) :
    (w.withMount k m).nodes = w.nodes := rfl

theorem mounts_withMount (w : World) (k : Key) (m : Mounted) (j : Key) :
    (w.withMount k m).mounts.get? j = if j = k then some m else w.mounts.get? j :=
  Table.get?_set _ _ _ _

theorem mounts_withoutMount (w : World) (k j : Key) :
    (w.withoutMount k).mounts.get? j = if j = k then none else w.mounts.get? j :=
  Table.get?_erase _ _ _

theorem nodes_withoutMount (w : World) (k j : Key) :
    (w.withoutMount k).nodes.get? j =
      if w.overlay = true ∧ j.below k = true then none else w.nodes.get? j := by
  unfold withoutMount
  cases w.overlay <;> simp [Table.get?_dropWhere]

@[simp] theorem mounts_withoutNode (w : World) (k : Key) :
    (w.withoutNode k).mounts = w.mounts := rfl

theorem nodes_withoutNode (w : World) (k j : Key) :
    (w.withoutNode k).nodes.get? j = if j = k then none else w.nodes.get? j :=
  Table.get?_erase _ _ _

theorem node?_eq (w : World) {p : Path} (h : p.key.names ≠ []) :
    w.node? p = w.nodes.get? p.key := by
  simp [node?, Path.ne_empty_of_names h, Key.isTop, h]

theorem node?_eq_none {w : World} {p : Path} : w.node? p = none ↔
    p.isEmpty = true ∨ p.key.names ≠ [] ∧ w.nodes.get? p.key = none := by
  unfold node?
  cases p.isEmpty with
  | true => simp
  | false => by_cases hp : p.key.names = [] <;> simp [Key.isTop, hp]

theorem node?_withoutMount {w : World} {p : Path} (h : w.node? p = none) (k : Key) :
    (w.withoutMount k).node? p = none := by
  rw [node?_eq_none] at h ⊢
  exact h.imp_right fun ⟨hp, hn⟩ => ⟨hp, by simp [nodes_withoutMount, hn]⟩

theorem node?_eq_directory {w : World} {p : Path} : w.node? p = some .directory ↔
    p.isEmpty = false ∧ (p.key.names = [] ∨ w.nodes.get? p.key = some .directory) := by
  unfold node?
  cases p.isEmpty with
  | true => simp
  | false => by_cases hp : p.key.names = [] <;> simp [Key.isTop, hp]

-- ---------------------------------------------------------------------------
-- Single calls
-- ---------------------------------------------------------------------------

/-- No file stands at a place or on the way to it. -/
def Clear (w : World) (k : Key) : Prop := ∀ j ∈ k.chain, w.nodes.get? j ≠ some .file

/-- Whatever is mounted is mounted on something that is there. -/
def Grounded (w : World) : Prop :=
  ∀ k, w.mounts.get? k ≠ none → k.names ≠ [] → w.nodes.get? k ≠ none

instance (w : World) : Decidable w.Grounded :=
  decidable_of_iff (∀ e ∈ w.mounts, e.1.names ≠ [] → w.nodes.get? e.1 ≠ none) <| by
    constructor
    · intro h k hk
      obtain ⟨m, hm⟩ := Option.ne_none_iff_exists'.mp hk
      exact h (k, m) (Table.mem_of_get? hm)
    · rintro h ⟨k, m⟩ hmem
      exact h k (Table.get?_ne_none_of_mem hmem)

theorem Grounded.node? {w : World} (h : w.Grounded) {p : Path} (hp : p.isEmpty = false)
    (hm : w.mounts.get? p.key ≠ none) : w.node? p ≠ none := by
  by_cases hk : p.key.names = []
  · simp [World.node?, hp, Key.isTop, hk]
  · rw [w.node?_eq hk]
    exact h _ hm hk

theorem createdDirs_of_clear {w : World} {p : Path} (h : w.Clear p.key) :
    w.createdDirs p = (.ok (), w.withDirs p.key) := by
  have hfind : p.key.chain.find? (fun j => w.nodes.get? j == some .file) = none := by
    simpa [Clear] using h
  simp [createdDirs, hfind]

theorem createdDirs_of_not_clear {w : World} {p : Path} (h : ¬ w.Clear p.key) :
    ∃ e, w.createdDirs p = (.error e, w) := by
  obtain ⟨j, hj⟩ : ∃ j, p.key.chain.find? (fun j => w.nodes.get? j == some .file) = some j := by
    rw [← Option.isSome_iff_exists, List.find?_isSome]
    simpa [Clear] using h
  exact ⟨if j == p.key then .alreadyExists else .notDirectory, by simp only [createdDirs, hj]⟩

@[simp] theorem mounts_createdDirs (w : World) (p : Path) :
    (w.createdDirs p).2.mounts = w.mounts := by
  by_cases hc : w.Clear p.key
  · simp [createdDirs_of_clear hc]
  · obtain ⟨e, he⟩ := createdDirs_of_not_clear hc
    simp [he]

theorem node?_createdDirs {w : World} {p : Path} (hn : w.node? p ≠ none) (q : Path) :
    (w.createdDirs q).2.node? p ≠ none := by
  by_cases hc : w.Clear q.key
  · rw [createdDirs_of_clear hc]
    unfold node? at hn ⊢
    split
    · simp_all
    · split
      · simp
      · rw [nodes_withDirs]
        split <;> simp_all
  · obtain ⟨e, he⟩ := createdDirs_of_not_clear hc
    rw [he]
    exact hn

theorem unmounted_ok {w : World} (h : w.unmounted k = (.ok (), w')) :
    w.mounts.get? k ≠ none ∧ w' = w.withoutMount k := by
  unfold unmounted at h
  split at h
  · exact ⟨Table.has_eq_true.mp ‹_›, by simpa using h.symm⟩
  · simp at h

theorem unmounted_error {w : World} (h : w.unmounted k = (.error e, w')) :
    w.mounts.get? k = none ∧ w' = w := by
  unfold unmounted at h
  split at h
  · simp at h
  · rename_i hm
    exact ⟨Table.has_eq_false.mp (by simpa using hm), by simpa using (congrArg Prod.snd h).symm⟩

theorem children_eq_nil {w : World} {k : Key} : w.children k = [] ↔
    ∀ j, j.absolute = k.absolute → j.names.dropLast = k.names → j.names ≠ [] →
      w.nodes.get? j = none := by
  simp only [children, List.filterMap_eq_nil_iff]
  constructor
  · intro h j habs hnames hne
    cases hj : w.nodes.get? j with
    | none => rfl
    | some node =>
      have := h (j, node) (Table.mem_of_get? hj)
      simp [habs, hnames, hne] at this
  · rintro h ⟨j, node⟩ hmem
    by_cases hj : j.absolute = k.absolute ∧ j.names.dropLast = k.names ∧ j.names ≠ []
    · exact absurd (h j hj.1 hj.2.1 hj.2.2) (Table.get?_ne_none_of_mem hmem)
    · simp only [ite_eq_right_iff, Bool.and_eq_true, beq_iff_eq]
      rintro ⟨habs, hnames⟩
      simpa [habs, hnames] using hj

theorem removedDir_ok {w : World} {p : Path} (h : w.removedDir p = (.ok (), w')) :
    w.node? p = some .directory ∧ p.key.names ≠ [] ∧ w.mounts.get? p.key = none ∧
      w.children p.key = [] ∧ w' = w.withoutNode p.key := by
  unfold removedDir at h
  dsimp only at h
  split at h
  · simp at h
  · simp at h
  · split at h
    · simp at h
    · split at h
      · simp at h
      · rename_i hbusy hkids
        simp only [Bool.or_eq_true, not_or, Bool.not_eq_true, Key.isTop,
          List.isEmpty_eq_false_iff, Table.has_eq_false] at hbusy
        exact ⟨‹_›, hbusy.1, hbusy.2, by simpa using hkids, by simpa using h.symm⟩

theorem removedDir_error {w : World} {p : Path} (h : w.removedDir p = (.error e, w')) :
    w' = w := by
  unfold removedDir at h
  dsimp only at h
  split at h
  · simpa using (congrArg Prod.snd h).symm
  · simpa using (congrArg Prod.snd h).symm
  · split at h
    · simpa using (congrArg Prod.snd h).symm
    · split at h
      · simpa using (congrArg Prod.snd h).symm
      · simp at h

theorem node?_of_removedDir {w : World} {p : Path} (h : w.removedDir p = (.error e, w'))
    (he : e.isMissing = true) : w.node? p = none := by
  unfold removedDir at h
  dsimp only at h
  split at h
  · assumption
  · obtain rfl : IoError.notDirectory = e := by simpa using congrArg Prod.fst h
    cases he
  · split at h
    · obtain rfl : IoError.busy = e := by simpa using congrArg Prod.fst h
      cases he
    · split at h
      · obtain rfl : IoError.notEmpty = e := by simpa using congrArg Prod.fst h
        cases he
      · simp at h

@[simp] theorem mounts_removedDir (w : World) (p : Path) :
    (w.removedDir p).2.mounts = w.mounts := by
  cases h : w.removedDir p with
  | mk r w' =>
    cases r with
    | ok u =>
      obtain ⟨-, -, -, -, rfl⟩ := removedDir_ok h
      rfl
    | error e =>
      obtain rfl := removedDir_error h
      rfl

theorem removedDir_of_empty {w : World} {p : Path} (hd : w.nodes.get? p.key = some .directory)
    (hp : p.key.names ≠ []) (hm : w.mounts.get? p.key = none) (hc : w.children p.key = []) :
    w.removedDir p = (.ok (), w.withoutNode p.key) := by
  have hhas : w.mounts.has p.key = false := Table.has_eq_false.mpr hm
  simp [removedDir, w.node?_eq hp, hd, Key.isTop, hp, hhas, hc]

theorem perform_still {w : World} (h : c.hasEffect = false) : (perform c w).2 = w := by
  cases c <;> first | rfl | simp [Call.hasEffect] at h

inductive Effect (w : World) : Call → World → Prop where
  | nothing : Effect w c w
  | mounted : Effect w (.mount source p fsType options) (w.withMount p.key ⟨source, fsType, options⟩)
  | unmounted (hc : c.changesMounts = true) (hm : w.mounts.get? c.path.key ≠ none) :
    Effect w c (w.withoutMount c.path.key)
  | madeDirs (hc : w.Clear p.key) : Effect w (.createDirAll p mode) (w.withDirs p.key)
  | removedDir (hd : w.nodes.get? p.key = some .directory) (hm : w.mounts.get? p.key = none)
    (hk : w.children p.key = []) : Effect w (.removeDir p) (w.withoutNode p.key)

theorem perform_effect (c : Call) (w : World) : Effect w c (perform c w).2 := by
  cases c with
  | mount source p fsType options => exact .mounted
  | unmount p | forceUnmount p _ =>
    simp only [perform, unmounted]
    split
    · exact .unmounted rfl (Table.has_eq_true.mp ‹_›)
    · exact .nothing
  | createDirAll p mode =>
    simp only [perform]
    by_cases hc : w.Clear p.key
    · rw [createdDirs_of_clear hc]
      exact .madeDirs hc
    · obtain ⟨e, he⟩ := createdDirs_of_not_clear hc
      rw [he]
      exact .nothing
  | removeDir p =>
    simp only [perform]
    cases h : w.removedDir p with
    | mk r t =>
      cases r with
      | ok u =>
        obtain ⟨hd, hp, hm, hk, rfl⟩ := removedDir_ok h
        exact .removedDir (by rwa [w.node?_eq hp] at hd) hm hk
      | error e =>
        obtain rfl := removedDir_error h
        exact .nothing
  | _ => exact .nothing

theorem Effect.mounts_ne {w : World} (he : Effect w c t)
    (hk : c.changesMounts = true → k ≠ c.path.key) : t.mounts.get? k = w.mounts.get? k := by
  cases he with
  | nothing | madeDirs | removedDir => rfl
  | mounted => exact (mounts_withMount _ _ _ _).trans (if_neg (hk rfl))
  | unmounted hc => rw [mounts_withoutMount, if_neg (hk hc)]

end World

end VolumeAgent.Host
