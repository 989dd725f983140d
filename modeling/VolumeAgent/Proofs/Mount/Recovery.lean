import VolumeAgent.Proofs.Host.Closed
import VolumeAgent.Proofs.Mount.Release

/-!
# Provisioning can be taken up again

A provisioning without faults that has once succeeded shows that there is
room for the internal path and for the directory beyond it. No call takes
that room away, and where it is a provisioning without faults succeeds: an
internal mount that was left is healthy, and unmounting it takes along all
that was made in it.
-/

namespace VolumeAgent.Mount

open Host (Call World)
open VolumeAgent.Path (Key)

/-- No file is in the way of the internal path, and none of the directory
unless it is inside a mount. -/
structure Room (internal directory : Key) (w : World) : Prop where
  clear : w.Clear internal
  beyond : w.mounts.get? internal = none → w.Clear directory

section
variable {w : World} {internal directory : Key}

theorem Room.effect (habs : internal.absolute = directory.absolute)
    (hpre : internal.names <+: directory.names) (ho : w.overlay = true)
    (h : Room internal directory w) (he : World.Effect w c t) : Room internal directory t := by
  refine ⟨he.clear h.clear, fun ht => ?_⟩
  by_cases hm : w.mounts.get? internal = none
  · exact he.clear (h.beyond hm)
  · -- The mount is gone, so this was its unmount.
    cases he with
    | nothing => exact absurd ht hm
    | mounted =>
      rw [World.mounts_withMount] at ht
      split at ht
      · cases ht
      · exact absurd ht hm
    | @unmounted c hc _ =>
      rw [World.mounts_withoutMount] at ht
      split at ht
      · rename_i hk
        exact hk ▸ World.clear_beyond_withoutMount ho h.clear habs hpre
      · exact absurd ht hm
    | madeDirs => exact absurd ht hm
    | removedDir => exact absurd ht hm

theorem stable_room (habs : internal.absolute = directory.absolute)
    (hpre : internal.names <+: directory.names) :
    World.Stable (fun _ => True) fun w => w.overlay = true ∧ Room internal directory w :=
  .of_effect fun _ he h => ⟨he.overlay.trans h.1, h.2.effect habs hpre h.1 he⟩

end

-- ---------------------------------------------------------------------------
-- Where there is room, nothing fails
-- ---------------------------------------------------------------------------

section
variable {w : World}

theorem ensureMountPoint_succeeds (hc : w.Clear p.key) :
    Triple World.faultless (ensureMountPoint p) w
      (fun mounted t =>
        if mounted then t = w ∧ Healthy w p
        else (w.mounts.get? p.key = none ∨ w.node? p = none) ∧ t = w.withDirs p.key)
      (fun _ _ => False) := by
  refine (ensureMountPoint_spec fun _ _ => trivial).mono ?_ ?_
  · intro mounted t h
    cases mounted with
    | true => exact h
    | false =>
      obtain ⟨u, hu, -, rfl⟩ := h
      obtain ⟨hn, rfl⟩ := repaired_of_not_file hc.node?_ne_file hu
      exact ⟨hn, rfl⟩
  · rintro _ t ⟨ht, hn⟩
    obtain ⟨-, rfl⟩ := repaired_of_not_file hc.node?_ne_file ht
    exact hn trivial hc

theorem mountOrRemoveTarget_succeeds (hc : w.Clear p.key) :
    Triple World.faultless (mountOrRemoveTarget o source p fsType options) w
      (fun _ t => t = (w.withDirs p.key).withMount p.key (entryOf o source fsType options))
      (fun _ _ => False) := by
  refine mountOrRemoveTarget_spec.mono ?_ ?_
  · rintro _ t ⟨-, rfl⟩
    rfl
  · rintro _ t ⟨-, hn⟩
    exact hn (fun _ => trivial) hc

theorem cleanup_succeeds (ho : w.overlay = true) (hp : p.key.names ≠ []) (hh : Healthy w p) :
    Triple World.faultless (cleanup o p) w
      (fun _ t => t.mounts.get? p.key = none) (fun _ _ => False) := by
  obtain ⟨hm, hd⟩ := hh
  refine Triple.ask_spared trivial ?_
  simp only [World.perform, hd, Option.isSome_some]
  refine Triple.bind_sure (isMountedForCleanup_spec (World.carries_faulty trivial)) ?_
  rintro mounted t ⟨rfl, hmounted⟩
  obtain rfl : mounted = true := hmounted.mpr ⟨hm, by simp [hd]⟩
  refine Triple.bind ((forceUnmount_spec (World.carries_faulty trivial)).mono (fun _ _ h => h) ?_) ?_
  · rintro _ u ⟨hn, -⟩
    exact hm hn
  rintro _ u ⟨-, rfl⟩
  have hnone : (t.withoutMount p.key).mounts.get? p.key = none := by
    rw [World.mounts_withoutMount, if_pos rfl]
  have hdir : (t.withoutMount p.key).nodes.get? p.key = some .directory := by
    rw [World.nodes_withoutMount, if_neg fun hb => Key.not_below_self hb.2, ← t.node?_eq hp, hd]
  refine Triple.bind_sure (isMountedForCleanup_spec (World.carries_faulty trivial)) ?_
  rintro mounted u ⟨rfl, hmounted⟩
  obtain rfl : mounted = false := by simpa [hnone] using hmounted
  refine Triple.ask_spared trivial ?_
  have hremoved := World.removedDir_of_empty hdir hp hnone (World.children_withoutMount ho p.key)
  simpa [World.perform, hremoved] using hnone

theorem release_succeeds :
    Triple World.faultless (release o p) w (fun _ _ => True) (fun _ _ => False) := by
  have hcleanup : Triple World.faultless (cleanup o p) w (fun _ _ => True) (fun _ _ => True) :=
    triple_of_forall (fun _ _ => trivial) (fun _ _ => trivial)
  refine Triple.outcome hcleanup (fun _ _ h => h) ?_
  intro _ _ _
  simp

/-- An internal mount that was left is taken away with all that is in it, so
the directory can be made in the new one. -/
theorem mountInternal_succeeds (ho : w.overlay = true) (hcl : w.Closed)
    (hr : Room p.key directory w) (hp : p.key.names ≠ [])
    (habs : p.key.absolute = directory.absolute) (hpre : p.key.names <+: directory.names) :
    Triple World.faultless (mountInternal o volume p options) w
      (fun _ t => t.Clear directory) (fun _ _ => False) := by
  have hmount : ∀ t : World, t.Clear p.key → t.Clear directory →
      Triple World.faultless (mountOrRemoveTarget o volume.source p lustre options) t
        (fun _ t => t.Clear directory) (fun _ _ => False) := by
    intro t hc hd
    refine (mountOrRemoveTarget_succeeds hc).mono ?_ fun _ _ h => h
    rintro _ u rfl
    exact World.clear_withDirs hd _
  refine Triple.bind_sure (ensureMountPoint_succeeds hr.clear) ?_
  intro mounted t h
  cases mounted with
  | false =>
    obtain ⟨hn, rfl⟩ := h
    -- Nothing is mounted, or nothing is there that a mount could hide.
    have hd : w.Clear directory := by
      rcases hn with hn | hn
      · exact hr.beyond hn
      · exact hcl.clear_below (w.node?_eq hp ▸ hn) hp hr.clear habs hpre
    exact hmount _ (World.clear_withDirs hr.clear _) (World.clear_withDirs hd _)
  | true =>
    obtain ⟨rfl, hh⟩ := h
    simp only [if_true, triple_bind, triple_note]
    have hcleanup := (cleanup_succeeds (o := o) ho hp hh).keep (Attempt.uses_all _)
      (stable_room habs hpre).faulty ⟨ho, hr⟩
    refine triple_outcome.mpr (hcleanup.mono ?_ fun _ _ h => h.1.elim)
    rintro _ u ⟨hn, -, hu⟩
    exact hmount u hu.clear (hu.beyond hn)

theorem provision_succeeds (ho : w.overlay = true) (hcl : w.Closed)
    (hi : Path.internal o.workingDir target = .ok internal)
    (hd : Path.internalVolume o.workingDir target subDir = .ok directory)
    (hr : Room internal.key directory.key w) :
    Triple World.faultless (provision o volume target subDir options) w
      (fun _ _ => True) (fun _ _ => False) := by
  obtain ⟨habs, hpre⟩ := Path.key_internalVolume hi hd
  have hp := Path.internal_names_ne_nil hi
  unfold provision
  simp only [hi, hd, Attempt.ofExcept_ok_bind]
  refine Triple.bind_sure (mountInternal_succeeds ho hcl hr hp habs hpre) ?_
  intro _ t ht
  refine Triple.ask_spared trivial ?_
  simp only [World.perform, World.createdDirs_of_clear ht]
  exact Triple.bind_sure release_succeeds fun _ _ _ => trivial

-- ---------------------------------------------------------------------------
-- Where something has succeeded, there is room
-- ---------------------------------------------------------------------------

theorem clear_of_repaired (h : Repaired spared w p t) (hc : t.Clear p.key) : w.Clear p.key := by
  rcases h with ⟨-, rfl⟩ | ⟨-, rfl⟩
  · exact hc
  · exact World.clear_of_withoutMount hc

theorem mountInternal_opens (hcl : w.Closed) :
    Triple World.faultless (mountInternal o volume p options) w
      (fun _ t => w.Clear p.key ∧ (w.mounts.get? p.key = none →
        ∀ j, w.nodes.get? j = some .file → t.nodes.get? j = some .file))
      (fun _ _ => True) := by
  refine Triple.bind ((ensureMountPoint_spec fun _ _ => trivial).mono (fun _ _ h => h)
    fun _ _ _ => trivial) ?_
  intro mounted t h
  cases mounted with
  | true =>
    obtain ⟨rfl, hm, hd⟩ := h
    exact triple_of_forall (fun _ _ => ⟨hcl.clear hd, fun hn => absurd hn hm⟩) fun _ _ => trivial
  | false =>
    obtain ⟨u, hu, hc, rfl⟩ := h
    refine mountOrRemoveTarget_spec.mono ?_ fun _ _ _ => trivial
    rintro _ v ⟨-, rfl⟩
    refine ⟨clear_of_repaired hu hc, fun hn j hj => ?_⟩
    rcases hu with ⟨-, rfl⟩ | ⟨⟨hm, -⟩, -⟩
    · have hmem : j ∉ p.key.chain := fun hmem => hc j hmem hj
      simp [World.nodes_withDirs, hmem, hj]
    · exact absurd hn hm

theorem provision_opens (hcl : w.Closed)
    (hi : Path.internal o.workingDir target = .ok internal)
    (hd : Path.internalVolume o.workingDir target subDir = .ok directory) :
    Triple World.faultless (provision o volume target subDir options) w
      (fun _ _ => Room internal.key directory.key w) (fun _ _ => True) := by
  unfold provision
  simp only [hi, hd, Attempt.ofExcept_ok_bind]
  refine Triple.bind (mountInternal_opens hcl) ?_
  rintro _ t ⟨hc, hfiles⟩
  refine Triple.ask_spared trivial ?_
  by_cases ht : t.Clear directory.key
  · have hroom : Room internal.key directory.key w :=
      ⟨hc, fun hn j hj hfile => ht j hj (hfiles hn j hfile)⟩
    exact triple_of_forall (fun _ _ => hroom) fun _ _ => trivial
  · obtain ⟨e, he⟩ := World.createdDirs_of_not_clear ht
    simp only [World.perform, he]
    exact Triple.bind_sure release_succeeds fun _ _ _ => trivial

end

end VolumeAgent.Mount
