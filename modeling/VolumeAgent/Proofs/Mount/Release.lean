import VolumeAgent.Mount.Provision
import VolumeAgent.Proofs.Mount.OnHost

/-!
# Internal mounts are released

`provision_releases`: whichever calls fail, a provisioning leaves nothing
mounted at the internal path, unless one of the few calls fails that a
release cannot do without. The argument follows one fact through all ways
out: what is mounted at the path can be seen there, so a cleanup finds it.
-/

namespace VolumeAgent.Mount

open Host (Call World)

/-- What is mounted at a path is there to be seen. -/
def Visible (w : World) (p : Path) : Prop := w.mounts.get? p.key = none ∨ w.node? p ≠ none

section
variable {spared : Call → Prop} {w : World}

theorem isMountedForCleanup_spec {K : Contract World} (hc : World.Carries K (.isMountPoint p)) :
    Triple K (isMountedForCleanup p) w
      (fun mounted t => t = w ∧
        (mounted = true ↔ w.mounts.get? p.key ≠ none ∧ w.node? p ≠ none))
      (fun _ _ => False) := by
  refine Triple.ask_carried hc ?_
  cases hn : w.node? p with
  | none => simp [World.perform, hn, Host.IoError.isMissing, Host.IoError.noEntry]
  | some node => simp [World.perform, hn, ← Host.Table.has_eq_true]

theorem cleanup_unmounts (hs : ∀ c, Vital p c → spared c) (hw : Visible w p) :
    Triple (World.faulty spared) (cleanup o p) w
      (fun _ t => t.mounts.get? p.key = none) (fun _ t => t.mounts.get? p.key = none) := by
  have hremove : ∀ t : World, t.mounts.get? p.key = none →
      Triple (World.faulty spared) (removeDir p) t
        (fun _ t => t.mounts.get? p.key = none) (fun _ t => t.mounts.get? p.key = none) := by
    intro t ht
    exact removeDir_mounts.mono (fun _ u hu => hu ▸ ht) (fun _ u hu => hu ▸ ht)
  refine Triple.ask_spared (hs _ rfl) ?_
  cases hn : w.node? p with
  | none => simpa [World.perform, hn] using hw.resolve_right (absurd hn)
  | some node =>
    -- What is there can be checked, so it is known whether it is mounted.
    simp only [World.perform, hn, Option.isSome_some]
    refine Triple.bind_sure (isMountedForCleanup_spec (World.carries_faulty (hs _ rfl))) ?_
    rintro mounted _ ⟨rfl, hm⟩
    cases mounted with
    | false => exact hremove _ (by simpa [hn] using hm)
    | true =>
      refine Triple.bind ((forceUnmount_spec (World.carries_faulty (hs _ rfl))).mono (fun _ _ h => h) ?_) ?_
      · rintro _ t ⟨h, rfl⟩
        exact h
      rintro _ t ⟨-, rfl⟩
      refine Triple.bind_sure (isMountedForCleanup_spec (World.carries_faulty (hs _ rfl))) ?_
      rintro mounted _ ⟨rfl, -⟩
      cases mounted with
      | false => exact hremove _ (by simp [World.mounts_withoutMount])
      | true => simp [World.mounts_withoutMount]

theorem release_unmounts (hs : ∀ c, Vital p c → spared c) (hw : Visible w p) :
    Triple (World.faulty spared) (release o p) w
      (fun _ t => t.mounts.get? p.key = none) (fun _ _ => False) := by
  refine Triple.outcome (cleanup_unmounts hs hw) (fun _ _ h => h) ?_
  intro _ t h
  simpa using h

theorem visible_withDirs_withMount {m : Host.Mounted} (hp : p.key.names ≠ []) :
    Visible ((w.withDirs p.key).withMount p.key m) p := by
  refine .inr ?_
  simp [World.node?_eq _ hp, World.nodes_withDirs, Path.Key.mem_chain_self hp]

theorem visible_createdDirs (hw : Visible w p) (q : Path) : Visible (w.createdDirs q).2 p :=
  hw.imp (by simp) fun hn => World.node?_createdDirs hn q

/-- A mount that was made can be seen. A failure leaves none, unless one was
there already and could not be seen. -/
theorem mountInternal_visible (hs : ∀ c, Vital p c → spared c) (hp : p.key.names ≠ []) :
    Triple (World.faulty spared) (mountInternal o volume p options) w
      (fun _ t => Visible t p) (fun _ t => Visible w p → t.mounts.get? p.key = none) := by
  have hmount : ∀ t : World, (Visible w p → t.mounts.get? p.key = none) →
      Triple (World.faulty spared) (mountOrRemoveTarget o volume.source p lustre options) t
        (fun _ t => Visible t p) (fun _ t => Visible w p → t.mounts.get? p.key = none) := by
    intro t ht
    refine mountOrRemoveTarget_spec.mono ?_ ?_
    · rintro _ u ⟨-, rfl⟩
      exact visible_withDirs_withMount hp
    · rintro _ u ⟨hu, -⟩ hw
      exact hu ▸ ht hw
  refine Triple.bind ((ensureMountPoint_spec hs).mono (fun _ _ h => h) ?_) ?_
  · rintro _ t ⟨h, -⟩ hw
    exact unmounted_of_repaired h hw
  intro mounted t h
  cases mounted with
  | false =>
    obtain ⟨u, hu, -, rfl⟩ := h
    refine hmount (u.withDirs p.key) fun hw => ?_
    rw [World.mounts_withDirs]
    exact unmounted_of_repaired hu hw
  | true =>
    obtain ⟨rfl, -, hd⟩ := h
    have hv : Visible t p := .inr (by simp [hd])
    simp only [if_true, triple_bind, triple_note]
    refine triple_outcome.mpr ((cleanup_unmounts hs hv).mono ?_ fun _ _ h _ => h)
    intro _ u hu
    exact hmount u fun _ => hu

theorem provision_unmounts (hs : ∀ c, Vital internal c → spared c)
    (hi : Path.internal o.workingDir target = .ok internal)
    (hsub : Path.isStrictSubpath subDir = true) :
    Triple (World.faulty spared) (provision o volume target subDir options) w
      (fun _ t => t.mounts.get? internal.key = none)
      (fun _ t => Visible w internal → t.mounts.get? internal.key = none) := by
  have hp := Path.internal_names_ne_nil hi
  unfold provision
  simp only [hi, Path.internalVolume_of_internal hi hsub, Attempt.ofExcept_ok_bind]
  refine Triple.bind (mountInternal_visible hs hp) ?_
  intro _ t ht
  -- The release runs whether or not the directory could be made.
  refine Triple.ask_faulty ?_ ?_
  · have hd := visible_createdDirs ht (internal.join (Path.cleanSubpath subDir))
    refine Triple.bind_sure (release_unmounts hs hd) ?_
    intro _ u hu
    split
    · exact hu
    · exact fun _ => hu
  · rintro _ _ ⟨e, rfl⟩
    refine Triple.bind_sure (release_unmounts hs ht) ?_
    intro _ u hu _
    exact hu

/-- Nothing stays mounted at the internal path of a target when its
sub-directory has been created or creating it has failed, also if something
was mounted there before. -/
theorem provision_releases (hi : Path.internal o.workingDir target = .ok internal)
    (hsub : Path.isStrictSubpath subDir = true) (hw : Visible w internal)
    (hf : ∀ f ∈ w.faults, f.Spares (Vital internal)) :
    ((provision o volume target subDir options).runOn w).2.mounts.get? internal.key = none := by
  have hw : Visible w.calm internal := by simpa [Visible] using hw
  have h : Triple (World.faulty (Vital internal)) (provision o volume target subDir options)
      w.calm _ _ := provision_unmounts (fun _ h => h) hi hsub
  simpa using (h.mono (fun _ _ h => h) fun _ _ h => h hw).after hf

end

/-- An internal mount that was left and cannot be listed, on a host that
makes no directory and does not tell about the target itself. -/
def leftMount : World where
  nodes := [(Path.key ⟨"/tmp/a"⟩, .directory)]
  mounts := [(Path.key ⟨"/tmp/a"⟩, World.preset)]
  faults :=
    [⟨.readDir, none, 0, none, .fails (.os 5)⟩,
      ⟨.createDirAll, none, 0, none, .fails (.os 28)⟩,
      ⟨.isMountPoint, some (Path.key ⟨"/a"⟩), 0, none, .fails (.os 13)⟩]

theorem provision_releases_leftMount :
    Path.internal ⟨"/tmp"⟩ ⟨"/a"⟩ = .ok ⟨"/tmp/a"⟩ ∧ Path.isStrictSubpath "d" = true ∧
      Visible leftMount ⟨"/tmp/a"⟩ ∧ (∀ f ∈ leftMount.faults, f.Spares (Vital ⟨"/tmp/a"⟩)) ∧
      ((provision {} ⟨"", "fs1", "10.0.0.1", "fs1", some "d"⟩ ⟨"/a"⟩ "d" []).runOn
        leftMount).2.mounts.get? (Path.key ⟨"/tmp/a"⟩) = none := by
  have hi : Path.internal ⟨"/tmp"⟩ ⟨"/a"⟩ = .ok ⟨"/tmp/a"⟩ := rfl
  have hsub : Path.isStrictSubpath "d" = true := by decide +kernel
  have hw : Visible leftMount ⟨"/tmp/a"⟩ := .inr (by decide +kernel)
  have hf : ∀ f ∈ leftMount.faults, f.Spares (Vital ⟨"/tmp/a"⟩) := by
    intro f hf
    simp only [leftMount, List.mem_cons, List.not_mem_nil, or_false] at hf
    rcases hf with rfl | rfl | rfl <;> refine ⟨rfl, ?_⟩ <;>
      rintro (_ | _ | _ | _ | _ | _ | _ | _ | _ | _) h <;>
      simp_all [Vital, Host.Fault.covers, Call.kind, Call.path]
    decide +kernel
  exact ⟨hi, hsub, hw, hf, provision_releases (o := {}) hi hsub hw hf⟩

end VolumeAgent.Mount
