import VolumeAgent.Proofs.Mount.Laws
import VolumeAgent.Proofs.Path.Key
import VolumeAgent.Proofs.Routine.Reply

/-!
# What comes out of mounting

A mount point that cannot be made ready, a mount that fails and a
sub-directory that cannot be created are internal failures, in whatever way
the host answers. A cleanup can fail for another reason; who calls it makes
that a failure of its own. Once its paths are derived, each of these routines
begins with a question about its mount point.
-/

namespace VolumeAgent

open Host (Call)

abbrev Attempt.FailsInternally (m : Attempt α) : Prop := m.FailsOnly fun f => f.status = .internal

namespace Mount

theorem makeDir_internally : (makeDir p).FailsInternally := by
  refine .bind .ask ?_
  rintro (e | ⟨⟨⟩⟩)
  · exact .bind .note fun _ => .throw rfl
  · exact .pure

theorem unmount_internally : (unmount p).FailsInternally := by
  refine .bind .askLocked ?_
  rintro (e | ⟨⟨⟩⟩)
  · exact .throw rfl
  · exact .pure

theorem probe_internally : (probe p).FailsInternally := by
  refine .bind .ask ?_
  rintro (e | ⟨_ | _⟩)
  · simp only
    split
    · exact .pure
    · split
      · exact .bind .note fun _ => .pure
      · exact .throw rfl
  · exact .pure
  · refine .bind .ask ?_
    rintro (e | names)
    · exact .bind .note fun _ => .pure
    · exact .pure

theorem ensureMountPoint_internally : (ensureMountPoint p).FailsInternally := by
  have hmake : (makeDir p >>= fun _ => pure false).FailsInternally :=
    .bind makeDir_internally fun _ => .pure
  refine .bind probe_internally ?_
  rintro (_ | _ | _)
  · exact hmake
  · exact .pure
  · exact .bind .note fun _ => .bind unmount_internally fun _ => hmake

theorem mount_internally : (mount o source p fsType options).FailsInternally := by
  intro past
  refine triple_mount (makeDir_internally past) ?_ ?_ ?_
  · exact fun _ _ => trivial
  · exact fun _ _ _ _ => trivial
  · exact fun _ _ _ _ _ => rfl

theorem mountOrRemoveTarget_internally :
    (mountOrRemoveTarget o source p fsType options).FailsInternally := by
  intro past
  -- The failure of the mount comes out once the target is removed.
  refine Triple.outcome (mount_internally past) (fun _ _ _ => trivial) ?_
  intro failure now hfailure
  refine Triple.ask trivial ?_
  rintro (e | ⟨⟨⟩⟩) now rfl
  · rfl
  · exact hfailure

theorem mountInternal_internally : (mountInternal o volume p options).FailsInternally := by
  refine .bind ensureMountPoint_internally ?_
  rintro (_ | _)
  · exact mountOrRemoveTarget_internally
  · refine .bind .note fun _ => .bind .outcome ?_
    rintro (e | ⟨⟨⟩⟩)
    · exact .throw rfl
    · exact mountOrRemoveTarget_internally

theorem release_fails_never : (release o p).FailsOnly fun _ => False := by
  refine .bind .outcome ?_
  rintro (e | ⟨⟨⟩⟩)
  · exact .note
  · exact .pure

theorem provision_internally (h : Path.isStrictSubpath subDir = true) :
    (provision o volume target subDir options).FailsInternally := by
  unfold provision
  cases hi : Path.internal o.workingDir target with
  | error e =>
    obtain rfl := Path.internal_error hi
    exact .throw rfl
  | ok internal =>
    simp only [Path.internalVolume_of_internal hi h, Attempt.ofExcept_ok_bind]
    refine .bind mountInternal_internally fun _ => .bind .ask fun made => ?_
    refine .bind (release_fails_never.mono nofun) fun _ => ?_
    rcases made with e | ⟨⟨⟩⟩
    · exact .throw rfl
    · exact .pure

theorem ensureMountPoint_starts : (ensureMountPoint p).Starts (.isMountPoint p) :=
  .bind (.bind .ask)

theorem provision_starts (hi : Path.internal o.workingDir target = .ok internal)
    (h : Path.isStrictSubpath subDir = true) :
    (provision o volume target subDir options).Starts (.isMountPoint internal) := by
  rw [provision, hi, Attempt.ofExcept_ok_bind, Path.internalVolume_of_internal hi h,
    Attempt.ofExcept_ok_bind]
  exact .bind (.bind ensureMountPoint_starts)

end Mount

end VolumeAgent
