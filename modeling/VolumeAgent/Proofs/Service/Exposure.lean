import VolumeAgent.Proofs.Mount.Places
import VolumeAgent.Proofs.Mount.Release

/-!
# What a successful publish exposes

`publish_exposes`: on a host without faults, a publish that succeeds leaves
the request's own entry at the target, unless it comes upon a healthy mount
point; that is left alone, whatever is mounted there.
-/

namespace VolumeAgent

open Host (Call World Mounted)

def PublishRequest.entry (o : Options) (request : PublishRequest) (volume : Volume) : Mounted :=
  Mount.entryOf o volume.publishSource request.mountFsType
    (mountOptions request.readonly request.mountFlags).1

namespace Service

theorem attach_exposes :
    Triple World.faultless (attach o request volume) w
      (fun _ t => t.mounts.get? request.target.key =
        if Mount.Healthy w request.target then w.mounts.get? request.target.key
        else some (request.entry o volume))
      (fun _ _ => True) := by
  refine Triple.bind ((Mount.ensureMountPoint_spec fun _ _ => trivial).mono (fun _ _ h => h)
    fun _ _ _ => trivial) ?_
  intro mounted t h
  cases mounted with
  | true =>
    obtain ⟨rfl, hh⟩ := h
    simp [hh]
  | false =>
    obtain ⟨u, hu, -, rfl⟩ := h
    have hh : ¬ Mount.Healthy w request.target := by
      rintro ⟨hm, hd⟩
      rcases hu with ⟨hn, -⟩ | ⟨⟨-, -, hf⟩, -⟩
      · rcases hn with hn | hn
        · exact hm hn
        · simp [hd] at hn
      · simp [hd] at hf
    refine Triple.bind (Mount.mountOrRemoveTarget_spec.mono (fun _ _ h => h)
      fun _ _ _ => trivial) ?_
    rintro _ v ⟨-, rfl⟩
    simp [hh, World.mounts_withMount, PublishRequest.entry]

theorem mounts_prepare (hw : w.faults = [])
    (h : (prepare o request volume).runOn w = (.ok (), t))
    (hm : t.mounts.get? request.target.key ≠ none) :
    t.mounts.get? request.target.key = w.mounts.get? request.target.key := by
  rcases prepare_cases o request volume with ⟨f, hp⟩ | ⟨-, hp⟩ | ⟨subDir, -, hsub, hp⟩
  · rw [hp] at h
    cases h
  · rw [hp] at h
    obtain rfl : w = t := congrArg Prod.snd h
    rfl
  · cases hi : Path.internal o.workingDir request.target with
    | error e =>
      have hthrow : prepare o request volume = throw e := by
        rw [hp, Mount.provision, hi, Attempt.ofExcept_error_bind]
      rw [hthrow] at h
      cases h
    | ok internal =>
      -- Both can be one place; then the provisioning has unmounted it.
      by_cases hk : request.target.key = internal.key
      · have hspec : Triple World.faultless (prepare o request volume) w
            (fun _ t => t.mounts.get? internal.key = none) (fun _ _ => True) := by
          rw [hp]
          exact (Mount.provision_unmounts (fun _ _ => trivial) hi hsub).mono (fun _ _ h => h)
            fun _ _ _ => trivial
        have hrun := hspec.runOn_faultless hw
        rw [h] at hrun
        exact absurd (hk ▸ hrun.1) hm
      · have hu : (prepare o request volume).Uses (Call.Within (· = internal.key)) :=
          prepare_within fun _ p hp => by rw [hi] at hp; cases hp; rfl
        have hkeep := Mount.mounts_runOn hu hk w
        rwa [h] at hkeep

def mountedElsewhere : World where
  nodes := [(Path.key ⟨"/a"⟩, .directory)]
  mounts := [(Path.key ⟨"/a"⟩, World.preset)]

end Service

end VolumeAgent
