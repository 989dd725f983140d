import VolumeAgent.Mount.Target
import VolumeAgent.Proofs.Host.Faults
import VolumeAgent.Proofs.Mount.Laws

/-!
# Mounting on a host in memory

What the smaller routines leave behind on a host whose calls may fail
without effect. Results are exact; of a failure each lemma says what it
leaves, and what it means if no call was made to fail.
-/

namespace VolumeAgent.Mount

open Host (Call World Mounted Node)

def Vital (p : Path) : Call → Prop
  | .pathExists q | .isMountPoint q | .unmount q | .forceUnmount q _ => q.key = p.key
  | _ => False

def Healthy (w : World) (p : Path) : Prop :=
  w.mounts.get? p.key ≠ none ∧ w.node? p = some .directory

instance (w : World) (p : Path) : Decidable (Healthy w p) := by
  unfold Healthy
  infer_instance

def Found (spared : Call → Prop) (w : World) (p : Path) : State → Prop
  | .healthy => Healthy w p
  | .corrupted =>
    w.mounts.get? p.key ≠ none ∧ w.node? p ≠ none ∧
      (spared (.readDir p) → w.node? p = some .file)
  | .notMounted => w.mounts.get? p.key = none ∨ w.node? p = none

/-- The host after a probe, where a corrupted mount is gone. -/
def Repaired (spared : Call → Prop) (w : World) (p : Path) (t : World) : Prop :=
  Found spared w p .notMounted ∧ t = w ∨
    Found spared w p .corrupted ∧ t = w.withoutMount p.key

section
variable {spared : Call → Prop} {w : World}

-- ---------------------------------------------------------------------------
-- Single calls
-- ---------------------------------------------------------------------------

theorem makeDir_spec :
    Triple (World.faulty spared) (makeDir p) w
      (fun _ t => w.Clear p.key ∧ t = w.withDirs p.key)
      (fun _ t => t = w ∧ (spared (.createDirAll p directoryMode) → ¬ w.Clear p.key)) := by
  refine Triple.ask_faulty ?_ ?_
  · by_cases hc : w.Clear p.key
    · simp [World.perform, World.createdDirs_of_clear hc, hc]
    · obtain ⟨e, he⟩ := World.createdDirs_of_not_clear hc
      simp [World.perform, he, hc]
  · rintro _ hs ⟨e, rfl⟩
    simp [hs]

theorem unmount_spec {K : Contract World} (hc : World.Carries K (.unmount p)) :
    Triple K (unmount p) w
      (fun _ t => w.mounts.get? p.key ≠ none ∧ t = w.withoutMount p.key)
      (fun _ t => w.mounts.get? p.key = none ∧ t = w) := by
  refine Triple.askLocked_carried hc ?_
  cases h : World.perform (.unmount p) w with
  | mk a t =>
    cases a with
    | ok u => exact World.unmounted_ok h
    | error e => exact World.unmounted_error h

theorem forceUnmount_spec {K : Contract World} (hc : World.Carries K (.forceUnmount p ms)) :
    Triple K (forceUnmount p ms) w
      (fun _ t => w.mounts.get? p.key ≠ none ∧ t = w.withoutMount p.key)
      (fun _ t => w.mounts.get? p.key = none ∧ t = w) := by
  refine Triple.askLocked_carried hc ?_
  cases h : World.perform (.forceUnmount p ms) w with
  | mk a t =>
    cases a with
    | ok u => exact World.unmounted_ok h
    | error e => exact World.unmounted_error h

theorem removeDir_mounts :
    Triple (World.faulty spared) (removeDir p) w
      (fun _ t => t.mounts = w.mounts) (fun _ t => t.mounts = w.mounts) := by
  have hw : (World.perform (.removeDir p) w).2.mounts = w.mounts := w.mounts_removedDir p
  refine Triple.ask_faulty ?_ ?_
  · rcases (World.perform (.removeDir p) w).1 with e | ⟨⟨⟩⟩
    · simp only
      split <;> exact hw
    · exact hw
  · rintro _ _ ⟨e, rfl⟩
    simp only
    split <;> rfl

-- ---------------------------------------------------------------------------
-- Probe and repair
-- ---------------------------------------------------------------------------

theorem probe_found (hs : ∀ c, Vital p c → spared c) :
    Triple (World.faulty spared) (probe p) w
      (fun state t => t = w ∧ Found spared w p state) (fun _ _ => False) := by
  refine Triple.ask_spared (hs _ rfl) ?_
  -- The only error that a spared check gives is that there is nothing.
  cases hn : w.node? p with
  | none => simp [World.perform, hn, Host.IoError.isMissing, Host.IoError.noEntry, Found]
  | some node =>
    cases hm : w.mounts.has p.key with
    | false => simp [World.perform, hn, hm, Found, Host.Table.has_eq_false.mp hm]
    | true =>
      have hm' := Host.Table.has_eq_true.mp hm
      simp only [World.perform, hn, hm, Option.isSome_some, if_true]
      refine Triple.ask_faulty ?_ ?_
      · cases node <;> simp [World.perform, hn, hm', Found, Healthy]
      · rintro _ hr ⟨e, rfl⟩
        simp [hr, hn, hm', Found]

theorem ensureMountPoint_spec (hs : ∀ c, Vital p c → spared c) :
    Triple (World.faulty spared) (ensureMountPoint p) w
      (fun mounted t =>
        if mounted then t = w ∧ Healthy w p
        else ∃ u, Repaired spared w p u ∧ u.Clear p.key ∧ t = u.withDirs p.key)
      (fun _ t => Repaired spared w p t ∧
        (spared (.createDirAll p directoryMode) → ¬ t.Clear p.key)) := by
  have hmake : ∀ u, Repaired spared w p u →
      Triple (World.faulty spared) (makeDir p >>= fun _ => pure false) u
        (fun mounted t =>
          if mounted then t = w ∧ Healthy w p
          else ∃ u, Repaired spared w p u ∧ u.Clear p.key ∧ t = u.withDirs p.key)
        (fun _ t => Repaired spared w p t ∧
          (spared (.createDirAll p directoryMode) → ¬ t.Clear p.key)) := by
    intro u hu
    refine triple_bind.mpr (makeDir_spec.mono ?_ ?_)
    · rintro _ t ⟨hc, rfl⟩
      simpa using ⟨u, hu, hc, rfl⟩
    · rintro _ t ⟨rfl, hc⟩
      exact ⟨hu, hc⟩
  refine Triple.bind_sure (probe_found hs) ?_
  rintro state t ⟨rfl, h⟩
  -- Not mounted and corrupted end alike, on the host as it is then.
  cases state with
  | healthy => simpa [Found] using h
  | corrupted =>
    simp only [triple_bind, triple_note]
    refine (unmount_spec (World.carries_faulty (hs _ rfl))).mono ?_ ?_
    · rintro _ u ⟨-, rfl⟩
      exact triple_bind.mp (hmake _ (.inr ⟨h, rfl⟩))
    · rintro _ u ⟨hm, -⟩
      exact absurd hm h.1
  | notMounted => exact hmake t (.inl ⟨h, rfl⟩)

theorem unmounted_of_repaired (h : Repaired spared w p t)
    (hw : w.mounts.get? p.key = none ∨ w.node? p ≠ none) : t.mounts.get? p.key = none := by
  rcases h with ⟨h, rfl⟩ | ⟨-, rfl⟩
  · rcases h with h | h
    · exact h
    · exact hw.resolve_right (absurd h)
  · simp [World.mounts_withoutMount]

theorem repaired_of_not_file (hn : w.node? p ≠ some .file)
    (h : Repaired (fun _ => True) w p t) :
    (w.mounts.get? p.key = none ∨ w.node? p = none) ∧ t = w := by
  rcases h with h | ⟨⟨-, -, hf⟩, -⟩
  · exact h
  · exact absurd (hf trivial) hn

-- ---------------------------------------------------------------------------
-- Mounting
-- ---------------------------------------------------------------------------

def entryOf (o : Options) (source fsType : String) (options : List String) : Mounted :=
  ⟨(o.redirected source fsType).1, (o.redirected source fsType).2, options⟩

theorem mount_spec :
    Triple (World.faulty spared) (mount o source p fsType options) w
      (fun _ t => w.Clear p.key ∧
        t = (w.withDirs p.key).withMount p.key (entryOf o source fsType options))
      (fun _ t => t.mounts = w.mounts ∧ ((∀ c, spared c) → ¬ w.Clear p.key)) := by
  refine triple_mount (R := fun t => w.Clear p.key ∧ t = w.withDirs p.key) ?_ ?_ ?_ ?_
  · refine makeDir_spec.mono (fun _ _ h => h) ?_
    rintro _ t ⟨rfl, hc⟩
    exact ⟨rfl, fun hs => hc (hs _)⟩
  · exact fun _ _ => trivial
  · rintro t u ⟨hc, rfl⟩ (h | ⟨-, ⟨e, he⟩, -⟩)
    · simp only [World.perform, Prod.mk.injEq, true_and] at h
      exact ⟨hc, h.symm⟩
    · cases he
  · rintro t u e ⟨hc, rfl⟩ (h | ⟨hn, -, rfl⟩)
    · simp [World.perform] at h
    · exact ⟨rfl, fun hs => absurd (hs _) hn⟩

theorem mountOrRemoveTarget_spec :
    Triple (World.faulty spared) (mountOrRemoveTarget o source p fsType options) w
      (fun _ t => w.Clear p.key ∧
        t = (w.withDirs p.key).withMount p.key (entryOf o source fsType options))
      (fun _ t => t.mounts = w.mounts ∧ ((∀ c, spared c) → ¬ w.Clear p.key)) := by
  refine Triple.outcome mount_spec (fun _ _ h => h) ?_
  rintro failure t ⟨hm, hc⟩
  refine Triple.ask_faulty ?_ ?_
  · have ht : (World.perform (.removeDir p) t).2.mounts = t.mounts := t.mounts_removedDir p
    cases (World.perform (.removeDir p) t).1 <;> exact ⟨ht.trans hm, hc⟩
  · rintro _ _ ⟨e, rfl⟩
    exact ⟨hm, hc⟩

end

end VolumeAgent.Mount
