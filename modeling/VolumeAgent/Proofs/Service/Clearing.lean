import VolumeAgent.Proofs.Service.Job

/-!
# Unpublishing clears a target

`unpublish_clears`: whatever publishes and unpublishes of a target have left
there, failed and cut off wherever they were, an unpublish without faults
takes away. The target only has to hold nothing at the start. All that a
history can leave is a tidy place: every call a job makes keeps it so.
-/

namespace VolumeAgent.Service

open Host (Call Fault World)
open VolumeAgent.Path (Key)

/-- A job some of whose calls fail, and that need not get to its end. -/
structure BrokenRun where
  job : Job
  faults : List Fault
  /-- How many calls are made before the agent dies, if it does. -/
  limit : Option Nat

namespace BrokenRun

def leave (o : Options) (w : World) (r : BrokenRun) : World :=
  (r.job.attempt o).leave World.answer r.limit { w with faults := r.faults }

structure On (target : Path) (r : BrokenRun) : Prop where
  target : r.job.target = target
  errors : ∀ f ∈ r.faults, f.isError = true

instance (target : Path) (r : BrokenRun) : Decidable (r.On target) :=
  decidable_of_iff (r.job.target = target ∧ ∀ f ∈ r.faults, f.isError = true)
    ⟨fun h => ⟨h.1, h.2⟩, fun h => ⟨h.target, h.errors⟩⟩

variable {o : Options} {w : World} {r : BrokenRun} {target : Path}

theorem tidy_leave (hr : r.On target) (hapart : target.key.Apart o.workingDir.key)
    (hw : w.calm.Tidy target.key) : (r.leave o w).calm.Tidy target.key := by
  obtain ⟨rfl, herrors⟩ := hr
  have hcareful := r.job.attempt_careful (.inl rfl) hapart hapart.names_ne_nil
  exact World.Tidy.leave (w := { w with faults := r.faults }) hw hcareful herrors r.limit

theorem mounts_leave (hr : r.On target) {k : Key} (hk : ¬ Site o target k) :
    (r.leave o w).mounts.get? k = w.mounts.get? k := by
  obtain ⟨rfl, -⟩ := hr
  exact r.job.attempt_within.leave ((Mount.stable_mounts hk _).answer fun _ _ h => h) rfl r.limit

end BrokenRun

def wreckage (o : Options) (w : World) (history : List BrokenRun) : World :=
  history.foldl (BrokenRun.leave o) w

section
variable {o : Options} {w : World} {target : Path} {history : List BrokenRun}

theorem tidy_wreckage (hapart : target.key.Apart o.workingDir.key)
    (hh : ∀ r ∈ history, r.On target) (hw : w.calm.Tidy target.key) :
    (wreckage o w history).calm.Tidy target.key := by
  induction history generalizing w with
  | nil => exact hw
  | cons r history ih =>
    obtain ⟨hr, hrest⟩ := List.forall_mem_cons.mp hh
    exact ih hrest (BrokenRun.tidy_leave hr hapart hw)

theorem mounts_wreckage (hh : ∀ r ∈ history, r.On target) {k : Key} (hk : ¬ Site o target k) :
    (wreckage o w history).mounts.get? k = w.mounts.get? k := by
  induction history generalizing w with
  | nil => rfl
  | cons r history ih =>
    obtain ⟨hr, hrest⟩ := List.forall_mem_cons.mp hh
    exact (ih hrest).trans (BrokenRun.mounts_leave hr hk)

/-- After any history of a target that was vacant, an unpublish without
faults succeeds and leaves nothing there. Mounts elsewhere are as they were,
and to unpublish once more changes nothing. -/
theorem unpublish_clears (request : UnpublishRequest) (hid : request.volumeId ≠ "")
    (hcl : w.Closed) (hv : w.Vacant request.target.key)
    (hapart : request.target.key.Apart o.workingDir.key)
    (hh : ∀ r ∈ history, r.On request.target) :
    ∃ after, (unpublish o request).runOn (wreckage o w history).calm = (.ok (), after) ∧
      after.node? request.target = none ∧ after.mounts.get? request.target.key = none ∧
      (∀ k, ¬ Site o request.target k → after.mounts.get? k = w.mounts.get? k) ∧
      (unpublish o request).runOn after = (.ok (), after) := by
  have hp := hapart.names_ne_nil
  obtain ⟨hbare, hfile, hground⟩ := hcl.tidy hp hv
  have htidy := tidy_wreckage hapart hh (w := w) ⟨hbare, hfile, hground⟩
  obtain ⟨after, hrun, ⟨hnode, hmount⟩, hagain⟩ := unpublish_of_tidy (o := o) hid hp htidy rfl
  refine ⟨after, hrun, hnode, hmount, fun k hk => ?_, hagain⟩
  have hkeep := Mount.mounts_runOn ((Job.unpublish request).attempt_within (o := o)) hk
    (wreckage o w history).calm
  simp only [Job.attempt, hrun] at hkeep
  exact hkeep.trans (mounts_wreckage hh hk)

end

/-- A publish dies with the internal mount in place, another makes the
target and can neither mount on it nor remove it, and the mount of a third
cannot be unpublished. -/
def troubledHistory : List BrokenRun :=
  [⟨.publish .ofSubDir, [], some 4⟩,
    ⟨.publish .ofSubDir,
      [⟨.mount, some (Path.key ⟨"/a"⟩), 0, none, .refuses (.syscall "mount" .invalid)⟩,
        ⟨.removeDir, some (Path.key ⟨"/a"⟩), 0, none, .fails (.os 16)⟩], none⟩,
    ⟨.publish { PublishRequest.ofSubDir with volumeId := "fs2" }, [], none⟩,
    ⟨.unpublish ⟨"fs1", ⟨"/a"⟩⟩, [⟨.pathExists, none, 0, none, .fails (.os 12)⟩], none⟩]

theorem unpublish_clears_troubledHistory :
    "fs1" ≠ "" ∧ ({} : World).Closed ∧ ({} : World).Vacant (Path.key ⟨"/a"⟩) ∧
      (Path.key ⟨"/a"⟩).Apart (Path.key ⟨"/tmp"⟩) ∧ (∀ r ∈ troubledHistory, r.On ⟨"/a"⟩) ∧
      ∃ after, (unpublish {} ⟨"fs1", ⟨"/a"⟩⟩).runOn (wreckage {} {} troubledHistory).calm =
          (.ok (), after) ∧
        after.node? ⟨"/a"⟩ = none ∧ after.mounts.get? (Path.key ⟨"/a"⟩) = none ∧
        (∀ k, ¬ Site {} ⟨"/a"⟩ k → after.mounts.get? k = ({} : World).mounts.get? k) ∧
        (unpublish {} ⟨"fs1", ⟨"/a"⟩⟩).runOn after = (.ok (), after) := by
  have hid : "fs1" ≠ "" := by decide
  have hcl : ({} : World).Closed := fun k hk => absurd rfl hk
  have hv : ({} : World).Vacant (Path.key ⟨"/a"⟩) := ⟨rfl, .inl rfl⟩
  have hapart : (Path.key ⟨"/a"⟩).Apart (Path.key ⟨"/tmp"⟩) := by decide +kernel
  have hh : ∀ r ∈ troubledHistory, r.On ⟨"/a"⟩ := by decide
  exact ⟨hid, hcl, hv, hapart, hh,
    unpublish_clears (o := {}) ⟨"fs1", ⟨"/a"⟩⟩ hid hcl hv hapart hh⟩

/-- The history leaves the target mounted. -/
example : (wreckage {} {} troubledHistory).mounts.has (Path.key ⟨"/a"⟩) = true := by
  decide +kernel

end VolumeAgent.Service
