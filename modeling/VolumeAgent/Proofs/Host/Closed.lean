import VolumeAgent.Proofs.Host.Faults

/-!
# Trees that calls keep in order

A tree is closed if everything in it lies in directories that are there
too. No call breaks that, and no call makes a file, so a path that is clear
of files stays clear. Files stay where they are, except below an unmounted
mount point.
-/

namespace VolumeAgent.Host.World

open VolumeAgent.Path (Key)

/-- What is on the way to something that exists is an existing directory. -/
def Closed (w : World) : Prop :=
  ∀ k, w.nodes.get? k ≠ none → ∀ j ∈ k.chain, j ≠ k → w.nodes.get? j = some .directory

variable {w : World}

theorem Closed.withDirs (h : w.Closed) (k : Key) : (w.withDirs k).Closed := by
  intro i hi j hj hne
  simp only [nodes_withDirs] at hi ⊢
  by_cases hk : i ∈ k.chain
  · rw [if_pos (Key.mem_chain_trans hj hk)]
  · rw [if_neg hk] at hi
    split
    · rfl
    · exact h i hi j hj hne

theorem Closed.withoutMount (h : w.Closed) (k : Key) : (w.withoutMount k).Closed := by
  intro i hi j hj hne
  simp only [nodes_withoutMount] at hi ⊢
  split at hi
  · exact absurd rfl hi
  · rename_i hbelow
    rw [if_neg]
    · exact h i hi j hj hne
    · -- With a directory, all that is below it goes.
      rintro ⟨ho, hjk⟩
      exact hbelow ⟨ho, Key.below_of_mem_chain hj hjk⟩

theorem Closed.withoutNode (h : w.Closed) (hk : w.children k = []) : (w.withoutNode k).Closed := by
  intro i hi j hj hne
  simp only [nodes_withoutNode] at hi ⊢
  split at hi
  · exact absurd rfl hi
  · rw [if_neg]
    · exact h i hi j hj hne
    · -- If `k` were on the way to something, a child of it would be, too.
      rintro rfl
      obtain ⟨m, hm, habs, hnames, hnil⟩ := Key.exists_child_mem_chain hj hne
      have hnone := children_eq_nil.mp hk m habs hnames hnil
      by_cases hmi : m = i
      · exact hi (hmi ▸ hnone)
      · simp [h i hi m hm hmi] at hnone

-- ---------------------------------------------------------------------------
-- Calls
-- ---------------------------------------------------------------------------

theorem Effect.closed (he : Effect w c t) (h : w.Closed) : t.Closed := by
  cases he with
  | nothing | mounted => exact h
  | unmounted => exact h.withoutMount _
  | madeDirs => exact h.withDirs _
  | removedDir _ _ hk => exact h.withoutNode hk

theorem Effect.overlay (he : Effect w c t) : t.overlay = w.overlay := by
  cases he <;> rfl

theorem Effect.file (he : Effect w c t) (h : t.nodes.get? j = some .file) :
    w.nodes.get? j = some .file := by
  cases he with
  | nothing | mounted => exact h
  | unmounted =>
    rw [nodes_withoutMount] at h
    split at h
    · cases h
    · exact h
  | madeDirs =>
    rw [nodes_withDirs] at h
    split at h
    · cases h
    · exact h
  | removedDir =>
    rw [nodes_withoutNode] at h
    split at h
    · cases h
    · exact h

theorem Effect.clear (he : Effect w c t) (h : w.Clear k) : t.Clear k :=
  fun j hj hfile => h j hj (he.file hfile)

/-- No call takes a file away, but an unmount above it can. -/
theorem Effect.keeps_file {P : Key → Prop} (he : Effect w c t) (hc : c.Within P)
    (hj : ∀ k, P k → ¬ j.below k = true) (h : w.nodes.get? j = some .file) :
    t.nodes.get? j = some .file := by
  cases he with
  | nothing | mounted => exact h
  | unmounted hm =>
    rw [nodes_withoutMount, if_neg]
    · exact h
    · exact fun hb => hj _ (hc hm) hb.2
  | madeDirs hclear =>
    rw [nodes_withDirs, if_neg]
    · exact h
    · exact fun hmem => hclear _ hmem h
  | removedDir hd =>
    rw [nodes_withoutNode, if_neg]
    · exact h
    · rintro rfl
      simp [hd] at h

theorem Effect.keeps_directory (he : Effect w c t)
    (hc : c.kind = .createDirAll ∨ p.key ≠ c.path.key ∧ ¬ p.key.below c.path.key = true)
    (hd : w.node? p = some .directory) : t.node? p = some .directory := by
  rw [node?_eq_directory] at hd ⊢
  refine ⟨hd.1, hd.2.imp_right fun hd => ?_⟩
  cases he with
  | nothing | mounted => exact hd
  | unmounted hm =>
    have hfar := hc.resolve_left (by cases c <;> simp_all [Call.changesMounts, Call.kind])
    rw [nodes_withoutMount, if_neg fun hb => hfar.2 hb.2, hd]
  | madeDirs =>
    rw [nodes_withDirs, hd]
    exact ite_self _
  | removedDir =>
    have hfar := hc.resolve_left (by simp [Call.kind])
    exact (nodes_withoutNode _ _ _).trans ((if_neg hfar.1).trans hd)

theorem Effect.keeps_nothing (he : Effect w c t)
    (hc : c.kind = .createDirAll → p.key ∉ c.path.key.chain) (hn : w.node? p = none) :
    t.node? p = none := by
  rw [node?_eq_none] at hn ⊢
  refine hn.imp_right fun ⟨hp, hn⟩ => ⟨hp, ?_⟩
  cases he with
  | nothing | mounted => exact hn
  | unmounted =>
    rw [nodes_withoutMount, hn]
    exact ite_self _
  | madeDirs => exact (nodes_withDirs _ _ _).trans ((if_neg (hc rfl)).trans hn)
  | removedDir =>
    rw [nodes_withoutNode, hn]
    exact ite_self _

-- ---------------------------------------------------------------------------
-- Clear paths
-- ---------------------------------------------------------------------------

theorem Closed.clear (h : w.Closed) (hd : w.node? p = some .directory) : w.Clear p.key := by
  intro j hj hfile
  have hp : p.key.names ≠ [] := by
    obtain ⟨-, hpre, hne⟩ := Key.mem_chain.mp hj
    rintro hnil
    exact hne (by simpa [hnil] using hpre)
  rw [w.node?_eq hp] at hd
  by_cases hk : j = p.key
  · simp [hk, hd] at hfile
  · simp [h p.key (by simp [hd]) j hj hk] at hfile

theorem Closed.clear_below (h : w.Closed) (hk : w.nodes.get? k = none) (hne : k.names ≠ [])
    (hc : w.Clear k) (habs : k.absolute = l.absolute) (hpre : k.names <+: l.names) :
    w.Clear l := by
  intro j hj hfile
  rcases Key.mem_chain_or_below habs hpre hj with hjk | hjk
  · exact hc j hjk hfile
  · obtain ⟨habs', hpre', hne'⟩ := Key.below_iff.mp hjk
    have hmem : k ∈ j.chain := Key.mem_chain.mpr ⟨habs'.symm, hpre', hne⟩
    have hd := h j (by simp [hfile]) k hmem fun he => hne' (he ▸ rfl)
    simp [hk] at hd

theorem clear_withoutMount (h : w.Clear k) (j : Key) : (w.withoutMount j).Clear k := by
  intro i hi hfile
  rw [nodes_withoutMount] at hfile
  split at hfile
  · cases hfile
  · exact h i hi hfile

theorem clear_withDirs (h : w.Clear k) (j : Key) : (w.withDirs j).Clear k := by
  intro i hi hfile
  rw [nodes_withDirs] at hfile
  split at hfile
  · cases hfile
  · exact h i hi hfile

theorem clear_of_withoutMount (h : (w.withoutMount k).Clear k) : w.Clear k := by
  intro j hj hfile
  refine h j hj ?_
  rw [nodes_withoutMount, if_neg]
  · exact hfile
  · exact fun hb => Key.not_below_of_mem_chain hj hb.2

theorem clear_beyond_withoutMount (ho : w.overlay = true) (hc : w.Clear k)
    (habs : k.absolute = l.absolute) (hpre : k.names <+: l.names) :
    (w.withoutMount k).Clear l := by
  intro j hj hfile
  rcases Key.mem_chain_or_below habs hpre hj with hjk | hjk
  · exact clear_withoutMount hc k j hjk hfile
  · simp [nodes_withoutMount, ho, hjk] at hfile

theorem children_withoutMount (ho : w.overlay = true) (k : Key) :
    (w.withoutMount k).children k = [] := by
  refine children_eq_nil.mpr fun j habs hnames hne => ?_
  simp [nodes_withoutMount, ho, Key.below_of_child habs hnames hne]

theorem Clear.node?_ne_file (h : w.Clear p.key) : w.node? p ≠ some .file := by
  by_cases hp : p.key.names = []
  · unfold node?
    split
    · simp
    · simp [Key.isTop, hp]
  · rw [w.node?_eq hp]
    exact h _ (Key.mem_chain_self hp)

end VolumeAgent.Host.World
