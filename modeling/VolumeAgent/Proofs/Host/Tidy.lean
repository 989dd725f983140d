import VolumeAgent.Proofs.Host.Closed

/-!
# Places that can be cleared

A place is tidy if it holds nothing, an empty directory, or a mount on one.
What is mounted there can then be unmounted, and what is left be removed.
Calls keep a place tidy that are made neither above nor below it, and mount
there only on a directory.
-/

namespace VolumeAgent.Host.World

open VolumeAgent.Path (Key)

structure Tidy (w : World) (k : Key) : Prop where
  bare : j.below k = true → w.nodes.get? j = none
  not_file : w.nodes.get? k ≠ some .file
  grounded : w.mounts.get? k ≠ none → w.nodes.get? k ≠ none

/-- Not mounted, and nothing or an empty directory. -/
def Vacant (w : World) (k : Key) : Prop :=
  w.mounts.get? k = none ∧
    (w.nodes.get? k = none ∨ w.nodes.get? k = some .directory ∧ w.children k = [])

instance (w : World) (k : Key) : Decidable (w.Vacant k) := by
  unfold Vacant
  infer_instance

variable {w t : World} {k : Key}

theorem Closed.tidy (h : w.Closed) (hk : k.names ≠ []) (hv : w.Vacant k) : w.Tidy k where
  bare {j} hj := by
    obtain ⟨habs, hpre, hne⟩ := Key.below_iff.mp hj
    have hmem : k ∈ j.chain := Key.mem_chain.mpr ⟨habs.symm, hpre, hk⟩
    have hkj : k ≠ j := fun he => hne (he ▸ rfl)
    refine Classical.byContradiction fun hn => ?_
    have hdir := h j hn k hmem hkj
    obtain ⟨-, hnone | ⟨-, hkids⟩⟩ := hv
    · simp [hnone] at hdir
    · -- The next place on the way to `j` would be a child of `k`.
      obtain ⟨m, hm, hmabs, hmnames, hmne⟩ := Key.exists_child_mem_chain hmem hkj
      have hmnone := children_eq_nil.mp hkids m hmabs hmnames hmne
      by_cases hmj : m = j
      · exact hn (hmj ▸ hmnone)
      · simp [h j hn m hm hmj] at hmnone
  not_file := by
    obtain ⟨-, hn | ⟨hn, -⟩⟩ := hv <;> simp [hn]
  grounded hm := absurd hv.1 hm

/-- A call that changes something does so neither above nor below `k`, and
is no mount at `k` unless something is there. -/
def Careful (k : Key) (w : World) (c : Call) : Prop :=
  c.hasEffect = true → ¬ c.path.key.below k = true ∧ ¬ k.below c.path.key = true ∧
    (c.kind = .mount → c.path.key = k → w.nodes.get? k ≠ none)

theorem Tidy.effect (h : w.Tidy k) (hc : Careful k w c) (he : Effect w c t) : t.Tidy k := by
  cases he with
  | nothing => exact h
  | @mounted source p fsType options =>
    refine ⟨h.bare, h.not_file, fun hm => ?_⟩
    rw [mounts_withMount] at hm
    split at hm
    · rename_i hk
      exact (hc rfl).2.2 rfl hk.symm
    · exact h.grounded hm
  | @unmounted c hm hmounted =>
    have heffect : c.hasEffect = true := by
      cases c <;> simp_all [Call.changesMounts, Call.hasEffect]
    obtain ⟨-, habove, -⟩ := hc heffect
    refine ⟨fun {j} hj => ?_, ?_, fun hm => ?_⟩
    · simp [nodes_withoutMount, h.bare hj]
    · simp [nodes_withoutMount, habove, h.not_file]
    · rw [mounts_withoutMount] at hm
      rw [nodes_withoutMount, if_neg fun hb => habove hb.2]
      split at hm
      · exact absurd rfl hm
      · exact h.grounded hm
  | @madeDirs p mode hclear =>
    have hbelow : ¬ p.key.below k = true := (hc rfl).1
    refine ⟨fun {j} hj => ?_, ?_, fun hm => ?_⟩
    · rw [nodes_withDirs, if_neg fun hmem => hbelow (Key.below_of_mem_chain hmem hj)]
      exact h.bare hj
    · rw [nodes_withDirs]
      split
      · simp
      · exact h.not_file
    · rw [nodes_withDirs]
      split
      · simp
      · exact h.grounded hm
  | @removedDir p hd hm hkids =>
    refine ⟨fun {j} hj => ?_, ?_, fun hmk => ?_⟩
    · simp [nodes_withoutNode, h.bare hj]
    · rw [nodes_withoutNode]
      split
      · simp
      · exact h.not_file
    · -- What is mounted is not removed.
      have hk : k ≠ p.key := fun hk => hmk (hk ▸ hm)
      rw [nodes_withoutNode, if_neg hk]
      exact h.grounded hmk

def careful (k : Key) : Contract World :=
  ⟨Careful k, (faulty fun _ => False).answers⟩

theorem keeps_careful (k : Key) :
    Routine.Keeps (careful k) answer calm fun w => ∀ f ∈ w.faults, f.isError = true where
  answers h := (keeps_faulty fun _ => False).answers fun f hf => ⟨h f hf, fun _ hs => hs.elim⟩
  invariant {_ c} h := forall_mem_faults_answer (fun _ _ _ hf => hf) h c

theorem Tidy.answers (h : w.Tidy k) (hc : (careful k).allows w c)
    (ha : (careful k).answers w c a t) : t.Tidy k := by
  rcases ha with ha | ⟨-, -, rfl⟩
  · have he := perform_effect c w
    rw [ha] at he
    exact h.effect hc he
  · exact h

theorem Tidy.leave {m : Attempt α} (h : w.calm.Tidy k) (hm : m.Obeys (careful k))
    (hf : ∀ f ∈ w.faults, f.isError = true) (limit : Option Nat) :
    (m.leave answer limit w).calm.Tidy k :=
  hm.leave (keeps_careful k) (fun _ _ _ _ hc (ht : Tidy _ k) ha => ht.answers hc ha) hf h limit

theorem Tidy.runOn {m : Attempt α} (h : w.Tidy k) (hm : m.Obeys (careful k))
    (hf : w.faults = []) : (m.runOn w).2.Tidy k := by
  have hcalm := calm_eq_self hf
  have hleave := Tidy.leave (hcalm ▸ h) hm (by simp [hf]) none
  rw [Attempt.leave, Routine.leave_none] at hleave
  exact ⟨hleave.bare, hleave.not_file, hleave.grounded⟩

end VolumeAgent.Host.World
