import VolumeAgent.Proofs.Host.Faults
import VolumeAgent.Proofs.Mount.Laws
import VolumeAgent.Proofs.Service.Publish

/-!
# Where routines make their calls

All calls of a routine are on the path it is given, whatever the host
answers, and a mount comes only after its directory was made. So a contract
that permits a path is obeyed by the routines on it. As one case, mounts
change only at the target and at the internal path, and at all other places
a host in memory keeps its mounts.
-/

namespace VolumeAgent

open Host (Call World)
open VolumeAgent.Path (Key)

namespace Mount

/-- Calls on `p` are allowed, and a mount once its directory has been made. -/
structure Permits (K : Contract σ) (p : Path) : Prop where
  call : c.path = p → c.kind ≠ .mount → K.allows s c
  mount : K.answers s (.createDirAll p directoryMode) (.ok ()) t →
    K.allows t (.mount source p fsType options)

structure Tends (K : Contract σ) (p : Path) : Prop where
  call : c.path = p → c.kind ≠ .mount → K.allows s c

def AllowsMount (K : Contract σ) (o : Options) (source : String) (p : Path) (fsType : String)
    (options : List String) : Prop :=
  ∀ s t, K.answers s (.createDirAll p directoryMode) (.ok ()) t →
    K.allows t (.mount (o.redirected source fsType).1 p (o.redirected source fsType).2 options)

section
variable {K : Contract σ}

theorem Permits.tends (h : Permits K p) : Tends K p := ⟨h.call⟩

theorem Permits.allowsMount (h : Permits K p) : AllowsMount K o source p fsType options :=
  fun _ _ => h.mount

theorem makeDir_tends (h : Tends K p) :
    Triple K (makeDir p) s
      (fun _ t => ∃ s, K.answers s (.createDirAll p directoryMode) (.ok ()) t)
      (fun _ _ => True) := by
  refine Triple.ask (h.call rfl nofun) ?_
  rintro (e | ⟨⟨⟩⟩) t ht
  · simp
  · exact ⟨s, ht⟩

theorem makeDir_obeys (h : Tends K p) : (makeDir p).Obeys K :=
  fun _ => (makeDir_tends h).mono (fun _ _ _ => trivial) fun _ _ h => h

theorem removeDir_obeys (h : Tends K p) : (removeDir p).Obeys K := by
  refine .bind (.ask fun _ => h.call rfl nofun) ?_
  rintro (e | ⟨⟨⟩⟩)
  · simp only
    split
    · exact .pure
    · exact .throw
  · exact .pure

theorem probe_obeys (h : Tends K p) : (probe p).Obeys K := by
  refine .bind (.ask fun _ => h.call rfl nofun) ?_
  rintro (e | ⟨_ | _⟩)
  · simp only
    split
    · exact .pure
    · split
      · exact .bind .note fun _ => .pure
      · exact .throw
  · exact .pure
  · refine .bind (.ask fun _ => h.call rfl nofun) ?_
    rintro (e | names)
    · exact .bind .note fun _ => .pure
    · exact .pure

theorem isMountedForCleanup_obeys (h : Tends K p) : (isMountedForCleanup p).Obeys K := by
  refine .bind (.ask fun _ => h.call rfl nofun) ?_
  rintro (e | mounted)
  · simp only
    split
    · exact .pure
    · split
      · exact .pure
      · exact .throw
  · exact .pure

theorem entryIsHealthy_obeys (h : Tends K p)
    (hr : ∀ parent s, p.parent? = some parent → K.allows s (.readDir parent)) :
    (entryIsHealthy p).Obeys K := by
  unfold entryIsHealthy
  cases hp : p.parent? with
  | none => exact .pure
  | some parent =>
    refine .bind (.ask fun s => hr parent s hp) ?_
    rintro (e | entries)
    · exact .bind .note fun _ => .pure
    · simp only
      split
      · refine .bind (.ask fun _ => h.call rfl nofun) ?_
        rintro (e | ⟨⟨⟩⟩)
        · exact .bind .note fun _ => .pure
        · exact .pure
      · exact .pure

theorem unmount_obeys (h : Tends K p) : (unmount p).Obeys K := by
  refine .bind (.askLocked fun _ => h.call rfl nofun) ?_
  rintro (e | ⟨⟨⟩⟩)
  · exact .throw
  · exact .pure

theorem forceUnmount_obeys (h : Tends K p) : (forceUnmount p ms).Obeys K := by
  refine .bind (.askLocked fun _ => h.call rfl nofun) ?_
  rintro (e | ⟨⟨⟩⟩)
  · exact .throw
  · exact .pure

theorem ensureMountPoint_obeys (h : Tends K p) : (ensureMountPoint p).Obeys K := by
  have hmake : (makeDir p >>= fun _ => pure false).Obeys K :=
    .bind (makeDir_obeys h) fun _ => .pure
  refine .bind (probe_obeys h) ?_
  rintro (_ | _ | _)
  · exact hmake
  · exact .pure
  · exact .bind .note fun _ => .bind (unmount_obeys h) fun _ => hmake

theorem mount_obeys (h : Tends K p) (hm : AllowsMount K o source p fsType options) :
    (mount o source p fsType options).Obeys K := by
  intro s
  refine triple_mount (makeDir_tends h) ?_ ?_ ?_
  · exact fun t ⟨s, hs⟩ => hm s t hs
  · exact fun _ _ _ _ => trivial
  · exact fun _ _ _ _ _ => trivial

theorem mountOrRemoveTarget_obeys (h : Tends K p)
    (hm : AllowsMount K o source p fsType options) :
    (mountOrRemoveTarget o source p fsType options).Obeys K := by
  refine .bind (.outcome (mount_obeys h hm)) ?_
  rintro (failure | ⟨⟨⟩⟩)
  · refine .bind (.ask fun _ => h.call rfl nofun) ?_
    rintro (e | ⟨⟨⟩⟩) <;> exact .throw
  · exact .pure

theorem cleanup_obeys (h : Tends K p) : (cleanup o p).Obeys K := by
  refine .bind (.ask fun _ => h.call rfl nofun) ?_
  rintro (e | ⟨_ | _⟩)
  · simp only
    split
    · exact .bind .note fun _ => .bind (forceUnmount_obeys h) fun _ => removeDir_obeys h
    · exact .throw
  · exact .pure
  · refine .bind (isMountedForCleanup_obeys h) ?_
    rintro (_ | _)
    · exact removeDir_obeys h
    · refine .bind (forceUnmount_obeys h) fun _ => .bind (isMountedForCleanup_obeys h) ?_
      rintro (_ | _)
      · exact removeDir_obeys h
      · exact .throw

theorem takeDown_obeys (h : Tends K p)
    (hr : ∀ parent s, p.parent? = some parent → K.allows s (.readDir parent)) :
    (takeDown o p).Obeys K := by
  refine .bind (entryIsHealthy_obeys h hr) ?_
  rintro (_ | _)
  · refine .bind (.outcome (forceUnmount_obeys h)) ?_
    rintro (e | ⟨⟨⟩⟩)
    · exact .bind .note fun _ => cleanup_obeys h
    · exact cleanup_obeys h
  · exact cleanup_obeys h

theorem release_obeys (h : Tends K p) : (release o p).Obeys K := by
  refine .bind (.outcome (cleanup_obeys h)) ?_
  rintro (e | ⟨⟨⟩⟩)
  · exact .note
  · exact .pure

theorem mountInternal_obeys (h : Tends K p) (hm : AllowsMount K o volume.source p lustre options) :
    (mountInternal o volume p options).Obeys K := by
  refine .bind (ensureMountPoint_obeys h) ?_
  rintro (_ | _)
  · exact mountOrRemoveTarget_obeys h hm
  · refine .bind .note fun _ => .bind (.outcome (cleanup_obeys h)) ?_
    rintro (e | ⟨⟨⟩⟩)
    · exact .throw
    · exact mountOrRemoveTarget_obeys h hm

structure PermitsInternal (K : Contract σ) (o : Options) (target : Path) (subDir : String) :
    Prop where
  path : Path.internal o.workingDir target = .ok internal → Permits K internal
  make : Path.internalVolume o.workingDir target subDir = .ok directory →
    K.allows s (.createDirAll directory directoryMode)

structure AllowsProvision (K : Contract σ) (o : Options) (volume : Volume) (target : Path)
    (subDir : String) (options : List String) : Prop where
  tends : Path.internal o.workingDir target = .ok internal → Tends K internal
  mount : Path.internal o.workingDir target = .ok internal →
    AllowsMount K o volume.source internal lustre options
  make : Path.internalVolume o.workingDir target subDir = .ok directory →
    K.allows s (.createDirAll directory directoryMode)

theorem PermitsInternal.allowsProvision (h : PermitsInternal K o target subDir) :
    AllowsProvision K o volume target subDir options where
  tends hi := (h.path hi).tends
  mount hi := (h.path hi).allowsMount
  make := h.make

theorem provision_obeys (h : AllowsProvision K o volume target subDir options) :
    (provision o volume target subDir options).Obeys K := by
  unfold provision
  cases hi : Path.internal o.workingDir target with
  | error e => exact .throw
  | ok internal =>
    rw [Attempt.ofExcept_ok_bind]
    cases hd : Path.internalVolume o.workingDir target subDir with
    | error e => exact .throw
    | ok directory =>
      rw [Attempt.ofExcept_ok_bind]
      refine .bind (mountInternal_obeys (h.tends hi) (h.mount hi)) fun _ => ?_
      refine .bind (.ask fun _ => h.make hd) ?_
      rintro (e | ⟨⟨⟩⟩)
      · exact .bind (release_obeys (h.tends hi)) fun _ => .throw
      · exact .bind (release_obeys (h.tends hi)) fun _ => .pure

/-- The calls that create a sub-directory: any on the internal path, and one
that makes the directory in it. -/
inductive Provisions (o : Options) (target : Path) (subDir : String) : Call → Prop where
  | internal (hi : Path.internal o.workingDir target = .ok c.path) : Provisions o target subDir c
  | directory (hd : Path.internalVolume o.workingDir target subDir = .ok directory) :
    Provisions o target subDir (.createDirAll directory mode)

theorem permitsInternal_of_provisions
    (h : ∀ s c, Provisions o target subDir c → K.allows s c) :
    PermitsInternal K o target subDir where
  path hi := ⟨fun hc _ => h _ _ (.internal (hc ▸ hi)), fun _ => h _ _ (.internal hi)⟩
  make hd := h _ _ (.directory hd)

theorem provision_calls :
    (provision o volume target subDir options).Uses (Provisions o target subDir) :=
  provision_obeys (permitsInternal_of_provisions fun _ _ h => h).allowsProvision ()

end

end Mount

namespace Service

section
variable {K : Contract σ}

theorem prepare_obeys
    (h : ∀ subDir, request.provisions? volume = some subDir →
      Mount.AllowsProvision K o volume request.target subDir
        (mountOptions request.readonly request.mountFlags).1) :
    (prepare o request volume).Obeys K := by
  rcases prepare_cases o request volume with ⟨f, hp⟩ | ⟨-, hp⟩ | ⟨subDir, hsub, -, hp⟩ <;> rw [hp]
  · exact .throw
  · exact .pure
  · exact Mount.provision_obeys (h subDir hsub)

theorem attach_obeys (h : Mount.Tends K request.target)
    (hm : Mount.AllowsMount K o volume.publishSource request.target request.mountFsType
      (mountOptions request.readonly request.mountFlags).1) :
    (attach o request volume).Obeys K := by
  refine .bind (Mount.ensureMountPoint_obeys h) ?_
  rintro (_ | _)
  · exact .bind (Mount.mountOrRemoveTarget_obeys h hm) fun _ => .note
  · exact .note

theorem publish_obeys (h : Mount.Permits K request.target)
    (hi : ∀ volume subDir, request.volume? = some volume →
      request.provisions? volume = some subDir →
      Mount.PermitsInternal K o request.target subDir) :
    (publish o request).Obeys K := by
  rcases publish_cases o request with ⟨f, hp⟩ | ⟨resolution, hr, hp⟩ <;> rw [hp]
  · exact .throw
  · have hv := PublishRequest.volume?_eq hr
    intro s
    refine triple_deliver.mpr ((prepare_obeys (fun subDir hs => ?_) s).mono
      (fun _ t _ => attach_obeys h.tends h.allowsMount t) fun _ _ h => h)
    exact (hi _ subDir hv hs).allowsProvision

theorem unpublish_obeys {request : UnpublishRequest} (h : Mount.Permits K request.target)
    (hr : ∀ parent s, request.target.parent? = some parent → K.allows s (.readDir parent)) :
    (unpublish o request).Obeys K := by
  rcases unpublish_cases o request with ⟨f, hp⟩ | ⟨-, hp⟩ <;> rw [hp]
  · exact .throw
  · refine .bind (.outcome (Mount.takeDown_obeys h.tends hr)) ?_
    rintro (failure | ⟨⟨⟩⟩)
    · exact .throw
    · exact .note

end

end Service

-- ---------------------------------------------------------------------------
-- Where mounts change
-- ---------------------------------------------------------------------------

namespace Mount

variable {P : Key → Prop}

theorem within_of_still (h : c.changesMounts = false) : Call.Within P c := by
  simp [Call.Within, h]

/-- What creates a sub-directory changes mounts at the internal path only,
and the target is neither there nor below it. -/
theorem Provisions.aside {internal : Path} (h : Provisions o target subDir c)
    (hi : Path.internal o.workingDir target = .ok internal) (hne : internal.key ≠ target.key) :
    c.Within (· = internal.key) ∧
      (c.kind = .createDirAll ∨
        target.key ≠ c.path.key ∧ ¬ target.key.below c.path.key = true) := by
  cases h with
  | internal hi' =>
    obtain rfl := Except.ok.inj (hi.symm.trans hi')
    exact ⟨fun _ => rfl, .inr ⟨hne.symm, Path.not_below_internal hi⟩⟩
  | directory => exact ⟨within_of_still rfl, .inl rfl⟩

theorem permits_within (hp : P p.key) : Permits (.only (Call.Within P)) p where
  call hc _ _ := hc ▸ hp
  mount _ _ := hp

theorem permitsInternal_within
    (hp : ∀ internal, Path.internal o.workingDir target = .ok internal → P internal.key) :
    PermitsInternal (.only (Call.Within P)) o target subDir where
  path hi := permits_within (hp _ hi)
  make _ := within_of_still rfl

theorem provision_within
    (hp : ∀ internal, Path.internal o.workingDir target = .ok internal → P internal.key) :
    (provision o volume target subDir options).Uses (Call.Within P) :=
  provision_obeys (permitsInternal_within hp).allowsProvision ()

end Mount

namespace Service

variable {P : Key → Prop}

theorem prepare_within
    (hp : request.provisions? volume ≠ none →
      ∀ internal, Path.internal o.workingDir request.target = .ok internal → P internal.key) :
    (prepare o request volume).Uses (Call.Within P) :=
  prepare_obeys (fun _ hs => (Mount.permitsInternal_within (hp (by simp [hs]))).allowsProvision) ()

theorem attach_within (hp : P request.target.key) :
    (attach o request volume).Uses (Call.Within P) :=
  attach_obeys (Mount.permits_within hp).tends (Mount.permits_within hp).allowsMount ()

theorem publish_within (hp : P request.target.key)
    (hi : ∀ volume, request.volume? = some volume → request.provisions? volume ≠ none →
      ∀ internal, Path.internal o.workingDir request.target = .ok internal → P internal.key) :
    (publish o request).Uses (Call.Within P) :=
  publish_obeys (Mount.permits_within hp)
    (fun volume _ hv hs => Mount.permitsInternal_within (hi volume hv (by simp [hs]))) ()

theorem unpublish_within {request : UnpublishRequest} (hp : P request.target.key) :
    (unpublish o request).Uses (Call.Within P) :=
  unpublish_obeys (Mount.permits_within hp) (fun _ _ _ => Mount.within_of_still rfl) ()

end Service

-- ---------------------------------------------------------------------------
-- Hosts
-- ---------------------------------------------------------------------------

namespace Mount

variable {P : Key → Prop}

theorem stable_mounts (hk : ¬ P k) (a : Option Host.Mounted) :
    World.Stable (Call.Within P) fun w => w.mounts.get? k = a := by
  refine .of_effect ?_
  intro c w t hc he hw
  have hne : c.changesMounts = true → k ≠ c.path.key := fun h heq => hk (heq ▸ hc h)
  exact (he.mounts_ne hne).trans hw

theorem mounts_runOn {m : Attempt α} (h : m.Uses (Call.Within P)) (hk : ¬ P k) (w : World) :
    (m.runOn w).2.mounts.get? k = w.mounts.get? k := by
  have hleave := h.leave ((stable_mounts hk _).answer fun t fs ht => ht) (s := w) rfl none
  simpa [Attempt.leave, Routine.leave_none, Attempt.runOn] using hleave

end Mount

end VolumeAgent
