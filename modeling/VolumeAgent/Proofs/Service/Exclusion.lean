import VolumeAgent.Proofs.Routine.Exclusion
import VolumeAgent.Proofs.Service.Job

/-!
# The mount lock is kept to

`jobs_exclusive`: whatever jobs share one agent, in whatever order they take
steps and whatever the host answers, mounts are changed one at a time and
under the lock, no other call is made under it, and the jobs never wait for
each other in a circle. Each lemma before it says that one routine, however
it ends, has given the lock back.
-/

namespace VolumeAgent

open Host (Call)

namespace Mount

theorem makeDir_disciplined : (makeDir p).Disciplined := by
  refine .bind (.ask rfl) ?_
  rintro (e | ⟨⟨⟩⟩)
  · exact .bind .note fun _ => .throw
  · exact .pure

theorem removeDir_disciplined : (removeDir p).Disciplined := by
  refine .bind (.ask rfl) ?_
  rintro (e | ⟨⟨⟩⟩)
  · simp only
    split
    · exact .pure
    · exact .throw
  · exact .pure

theorem unmount_disciplined : (unmount p).Disciplined := by
  refine .bind (.askLocked rfl) ?_
  rintro (e | ⟨⟨⟩⟩)
  · exact .throw
  · exact .pure

theorem forceUnmount_disciplined : (forceUnmount p ms).Disciplined := by
  refine .bind (.askLocked rfl) ?_
  rintro (e | ⟨⟨⟩⟩)
  · exact .throw
  · exact .pure

theorem probe_disciplined : (probe p).Disciplined := by
  refine .bind (.ask rfl) ?_
  rintro (e | ⟨_ | _⟩)
  · simp only
    split
    · exact .pure
    · split
      · exact .bind .note fun _ => .pure
      · exact .throw
  · exact .pure
  · refine .bind (.ask rfl) ?_
    rintro (e | names)
    · exact .bind .note fun _ => .pure
    · exact .pure

theorem ensureMountPoint_disciplined : (ensureMountPoint p).Disciplined := by
  have hmake : (makeDir p >>= fun _ => pure false).Disciplined :=
    .bind makeDir_disciplined fun _ => .pure
  refine .bind probe_disciplined ?_
  rintro (_ | _ | _)
  · exact hmake
  · exact .pure
  · exact .bind .note fun _ => .bind unmount_disciplined fun _ => hmake

theorem mount_disciplined : (mount o source p fsType options).Disciplined := by
  refine .bind makeDir_disciplined fun _ => ?_
  simp only
  split
  · refine .bind .note fun _ => .bind (.askLocked rfl) ?_
    rintro (e | ⟨⟨⟩⟩)
    · exact .throw
    · exact .pure
  · refine .bind (.askLocked rfl) ?_
    rintro (e | ⟨⟨⟩⟩)
    · exact .throw
    · exact .pure

theorem mountOrRemoveTarget_disciplined :
    (mountOrRemoveTarget o source p fsType options).Disciplined := by
  refine .bind (.outcome mount_disciplined) ?_
  rintro (failure | ⟨⟨⟩⟩)
  · refine .bind (.ask rfl) ?_
    rintro (e | ⟨⟨⟩⟩) <;> exact .throw
  · exact .pure

theorem isMountedForCleanup_disciplined : (isMountedForCleanup p).Disciplined := by
  refine .bind (.ask rfl) ?_
  rintro (e | mounted)
  · simp only
    split
    · exact .pure
    · split
      · exact .pure
      · exact .throw
  · exact .pure

theorem cleanup_disciplined : (cleanup o p).Disciplined := by
  refine .bind (.ask rfl) ?_
  rintro (e | ⟨_ | _⟩)
  · simp only
    split
    · exact .bind .note fun _ => .bind forceUnmount_disciplined fun _ => removeDir_disciplined
    · exact .throw
  · exact .pure
  · refine .bind isMountedForCleanup_disciplined ?_
    rintro (_ | _)
    · exact removeDir_disciplined
    · refine .bind forceUnmount_disciplined fun _ => .bind isMountedForCleanup_disciplined ?_
      rintro (_ | _)
      · exact removeDir_disciplined
      · exact .throw

theorem entryIsHealthy_disciplined : (entryIsHealthy p).Disciplined := by
  unfold entryIsHealthy
  cases p.parent? with
  | none => exact .pure
  | some parent =>
    refine .bind (.ask rfl) ?_
    rintro (e | entries)
    · exact .bind .note fun _ => .pure
    · simp only
      split
      · refine .bind (.ask rfl) ?_
        rintro (e | ⟨⟨⟩⟩)
        · exact .bind .note fun _ => .pure
        · exact .pure
      · exact .pure

theorem takeDown_disciplined : (takeDown o p).Disciplined := by
  refine .bind entryIsHealthy_disciplined ?_
  rintro (_ | _)
  · refine .bind (.outcome forceUnmount_disciplined) ?_
    rintro (e | ⟨⟨⟩⟩)
    · exact .bind .note fun _ => cleanup_disciplined
    · exact cleanup_disciplined
  · exact cleanup_disciplined

theorem release_disciplined : (release o p).Disciplined := by
  refine .bind (.outcome cleanup_disciplined) ?_
  rintro (e | ⟨⟨⟩⟩)
  · exact .note
  · exact .pure

theorem mountInternal_disciplined : (mountInternal o volume p options).Disciplined := by
  refine .bind ensureMountPoint_disciplined ?_
  rintro (_ | _)
  · exact mountOrRemoveTarget_disciplined
  · refine .bind .note fun _ => .bind (.outcome cleanup_disciplined) ?_
    rintro (e | ⟨⟨⟩⟩)
    · exact .throw
    · exact mountOrRemoveTarget_disciplined

theorem provision_disciplined : (provision o volume target subDir options).Disciplined := by
  refine .bind (.ofExcept _) fun internal => .bind (.ofExcept _) fun directory => ?_
  refine .bind mountInternal_disciplined fun _ => .bind (.ask rfl) fun made => ?_
  refine .bind release_disciplined fun _ => ?_
  rcases made with e | ⟨⟨⟩⟩
  · exact .throw
  · exact .pure

end Mount

namespace Service

theorem prepare_disciplined : (prepare o request volume).Disciplined := by
  rcases prepare_cases o request volume with ⟨f, h⟩ | ⟨-, h⟩ | ⟨subDir, -, -, h⟩ <;> rw [h]
  · exact .throw
  · exact .pure
  · exact Mount.provision_disciplined

theorem attach_disciplined : (attach o request volume).Disciplined := by
  refine .bind Mount.ensureMountPoint_disciplined ?_
  rintro (_ | _)
  · exact .bind Mount.mountOrRemoveTarget_disciplined fun _ => .note
  · exact .note

theorem publish_disciplined : (publish o request).Disciplined := by
  rcases publish_cases o request with ⟨f, h⟩ | ⟨resolution, -, h⟩ <;> rw [h]
  · exact .throw
  · unfold deliver
    have hdeliver : ∀ volume, (prepare o request volume >>= fun _ =>
        attach o request volume).Disciplined := fun volume =>
      .bind prepare_disciplined fun _ => attach_disciplined
    split
    · exact .bind .note fun _ => hdeliver _
    · exact hdeliver _

theorem unpublish_disciplined : (unpublish o request).Disciplined := by
  rcases unpublish_cases o request with ⟨f, h⟩ | ⟨-, h⟩ <;> rw [h]
  · exact .throw
  · refine .bind (.outcome Mount.takeDown_disciplined) ?_
    rintro (failure | ⟨⟨⟩⟩)
    · exact .throw
    · exact .note

def crew (o : Options) (jobs : ι → Job) : Crew ι (Except Failure Unit) :=
  { routines := fun i => ((jobs i).attempt o).run }

theorem crew_disciplined [DecidableEq ι] (o : Options) (jobs : ι → Job) :
    (crew o jobs).Disciplined := by
  intro i
  change ((jobs i).attempt o).Disciplined
  cases jobs i with
  | publish request => exact publish_disciplined
  | unpublish request => exact unpublish_disciplined

/-- Wherever jobs get to together: who is in a call that changes mounts has
the lock, and is the only one in such a call; who is in any other call, waits
for the lock or is done does not have it; who gives it back does. As long as
a job is not done, some job can take a step. -/
theorem jobs_exclusive [DecidableEq ι] {o : Options} {jobs : ι → Job}
    (h : (crew o jobs).Reaches s) :
    (∀ i c next, s.routines i = .call c next → c.changesMounts = true →
        s.holder = some i ∧
          ∀ j d next', s.routines j = .call d next' → d.changesMounts = true → j = i) ∧
      (∀ i c next, s.routines i = .call c next → c.changesMounts = false → s.holder ≠ some i) ∧
      (∀ i next, s.routines i = .lock next → s.holder ≠ some i) ∧
      (∀ i next, s.routines i = .unlock next → s.holder = some i) ∧
      (∀ i r, s.routines i = .done r → s.holder ≠ some i) ∧
      ∀ i, (∀ r, s.routines i ≠ .done r) → ∃ j t, Crew.Step s j t := by
  have hs := (crew_disciplined o jobs).reaches h
  have hholds : ∀ i c next, s.routines i = .call c next → c.changesMounts = true →
      s.holder = some i := by
    intro i c next hr hc
    simpa [hc] using hs.holder_call hr
  refine ⟨fun i c next hr hc => ⟨hholds i c next hr hc, fun j d next' hr' hd => ?_⟩,
    fun i c next hr hc => ?_, fun i next => hs.holder_lock, fun i next => hs.holder_unlock,
    fun i r => hs.holder_done, fun i => hs.progress⟩
  · have hij : some j = some i := (hholds j d next' hr' hd).symm.trans (hholds i c next hr hc)
    exact Option.some.inj hij
  · simpa [hc] using hs.holder_call hr

def contenders : Fin 2 → Job
  | 0 => .publish { PublishRequest.ofSubDir with context := some [("mgs-ip-address", "10.0.0.1")] }
  | 1 => .unpublish ⟨"fs2", ⟨"/b"⟩⟩

theorem jobs_exclusive_contenders :
    ∃ s, (crew {} contenders).Reaches s ∧
      (∃ next, s.routines 0 = .call (.mount "10.0.0.1@tcp:/fs1" ⟨"/a"⟩ "lustre" []) next) ∧
      (∃ next, s.routines 1 = .lock next) ∧ s.holder = some 0 ∧
      (∀ i c next, s.routines i = .call c next → c.changesMounts = true →
          s.holder = some i ∧
            ∀ j d next', s.routines j = .call d next' → d.changesMounts = true → j = i) ∧
        (∀ i c next, s.routines i = .call c next → c.changesMounts = false → s.holder ≠ some i) ∧
        (∀ i next, s.routines i = .lock next → s.holder ≠ some i) ∧
        (∀ i next, s.routines i = .unlock next → s.holder = some i) ∧
        (∀ i r, s.routines i = .done r → s.holder ≠ some i) ∧
        ∀ i, (∀ r, s.routines i ≠ .done r) → ∃ j t, Crew.Step s j t := by
  have start : (crew {} contenders).Reaches (crew {} contenders) := .refl
  have checked := start.step 0 (.answered rfl (Except.ok false))
  have made := checked.step 0 (.answered rfl (Except.ok ()))
  have madeAgain := made.step 0 (.answered rfl (Except.ok ()))
  have locked := madeAgain.step 0 (.locked rfl rfl)
  have unlisted := locked.step 1 (.answered rfl (Except.error (.os 5)))
  have waiting := unlisted.step 1 (.reported rfl)
  exact ⟨_, waiting, ⟨_, rfl⟩, ⟨_, rfl⟩, rfl, jobs_exclusive waiting⟩

end Service

end VolumeAgent
