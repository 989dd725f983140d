import VolumeAgent.Proofs.Host.Faults
import VolumeAgent.Proofs.Routine.Reply
import VolumeAgent.Service

/-!
# Publishing and unpublishing, taken apart

A publish either fails before it makes a call, or resolves a volume and
exposes it at the target: the sub-directory first, then the mount. An
unpublish fails before it makes a call, or takes the target down.
-/

namespace VolumeAgent

def PublishRequest.resolution? (request : PublishRequest) : Option Volume.Resolution :=
  request.context.bind fun context => (Volume.resolve request.volumeId context).toOption

def PublishRequest.volume? (request : PublishRequest) : Option Volume :=
  request.resolution?.map (·.volume)

theorem PublishRequest.volume?_eq {request : PublishRequest}
    (h : request.resolution? = some resolution) : request.volume? = some resolution.volume := by
  simp [PublishRequest.volume?, h]

/-- The sub-directory that is created before the volume is mounted: none of
a volume published whole, nor on a read-only mount. -/
def PublishRequest.provisions? (request : PublishRequest) (volume : Volume) : Option String :=
  if (mountOptions request.readonly request.mountFlags).2 then none else volume.subDir

def PublishRequest.mountFsType (request : PublishRequest) : String :=
  if request.fsType.isEmpty then lustre else request.fsType

def PublishRequest.ofSubDir : PublishRequest where
  volumeId := "fs1"
  target := ⟨"/a"⟩
  context := some [("mgs-ip-address", "10.0.0.1"), ("sub-dir", "d")]

namespace Service

def prepare (o : Options) (request : PublishRequest) (volume : Volume) : Attempt Unit :=
  prepareSubDir o volume request.target (mountOptions request.readonly request.mountFlags).1
    (mountOptions request.readonly request.mountFlags).2

def attach (o : Options) (request : PublishRequest) (volume : Volume) : Attempt Unit := do
  if ← Mount.ensureMountPoint request.target then
    Attempt.note .alreadyMounted
  else
    Mount.mountOrRemoveTarget o volume.publishSource request.target request.mountFsType
      (mountOptions request.readonly request.mountFlags).1
    Attempt.note .published

def deliver (o : Options) (request : PublishRequest) (resolution : Volume.Resolution) :
    Attempt Unit := do
  if resolution.mismatch then Attempt.note .contextMismatch
  prepare o request resolution.volume
  attach o request resolution.volume

theorem triple_deliver {K : Contract σ} {s : σ} {Q : Unit → σ → Prop}
    {E : Failure → σ → Prop} :
    Triple K (deliver o request resolution) s Q E ↔
      Triple K (prepare o request resolution.volume) s
        (fun _ t => Triple K (attach o request resolution.volume) t Q E) E := by
  unfold deliver
  cases resolution.mismatch <;> simp

theorem runOn_deliver (o : Options) (request : PublishRequest) (resolution : Volume.Resolution)
    (w : Host.World) :
    (deliver o request resolution).runOn w =
      (prepare o request resolution.volume >>= fun _ =>
        attach o request resolution.volume).runOn w := by
  unfold deliver
  cases resolution.mismatch <;> rfl

theorem provisions?_eq_some : PublishRequest.provisions? request volume = some subDir ↔
    (mountOptions request.readonly request.mountFlags).2 = false ∧
      volume.subDir = some subDir := by
  unfold PublishRequest.provisions?
  cases (mountOptions request.readonly request.mountFlags).2 <;> simp

theorem trace_deliver (respond : Responses) :
    (deliver o request resolution).trace respond =
      (prepare o request resolution.volume >>= fun _ =>
        attach o request resolution.volume).trace respond := by
  unfold deliver
  cases resolution.mismatch <;> rfl

theorem reply_deliver (respond : Responses) :
    (deliver o request resolution).reply respond =
      (prepare o request resolution.volume >>= fun _ =>
        attach o request resolution.volume).reply respond := by
  unfold deliver
  cases resolution.mismatch <;> rfl

theorem resolve_error (h : Volume.resolve volumeId context = .error f) :
    f.status = .invalidArgument := by
  unfold Volume.resolve at h
  simp only [bind, Except.bind, pure, Except.pure, throw, throwThe, MonadExceptOf.throw] at h
  repeat' split at h
  all_goals cases h
  all_goals rfl

theorem publish_incomplete
    (h : request.volumeId = "" ∨ request.target.isEmpty = true ∨ request.context = none) :
    ∃ f, f.status = .invalidArgument ∧ publish o request = throw f := by
  by_cases hid : request.volumeId = ""
  · exact ⟨.volumeIdMissing, rfl, by simp [publish, hid]⟩
  cases ht : request.target.isEmpty with
  | true => exact ⟨.targetNotProvided, rfl, by simp [publish, hid, ht]⟩
  | false =>
    have hc : request.context = none := by simpa [hid, ht] using h
    exact ⟨.contextMissing, rfl, by simp [publish, hid, ht, hc]⟩

theorem publish_complete (hid : request.volumeId ≠ "") (ht : request.target.isEmpty = false)
    (hc : request.context = some context) :
    publish o request =
      match Volume.resolve request.volumeId context with
      | .error f => throw f
      | .ok resolution => deliver o request resolution := by
  unfold publish
  cases hr : Volume.resolve request.volumeId context with
  | error f => simp [hid, ht, hc, resolve, hr]
  | ok resolution =>
    cases hm : resolution.mismatch <;>
      simp [hid, ht, hc, resolve, hr, hm, deliver, prepare, attach, PublishRequest.mountFsType]

theorem publish_refused_or (o : Options) (request : PublishRequest) :
    (∃ f, f.status = .invalidArgument ∧ publish o request = throw f) ∨
      ∃ resolution, request.resolution? = some resolution ∧
        publish o request = deliver o request resolution := by
  by_cases h : request.volumeId = "" ∨ request.target.isEmpty = true ∨ request.context = none
  · exact .inl (publish_incomplete h)
  · simp only [not_or, Bool.not_eq_true] at h
    obtain ⟨hid, ht, hc⟩ := h
    obtain ⟨context, hc⟩ := Option.ne_none_iff_exists'.mp hc
    have hpublish : publish o request = _ := publish_complete hid ht hc
    cases hr : Volume.resolve request.volumeId context with
    | error f => exact .inl ⟨f, resolve_error hr, by rw [hpublish, hr]⟩
    | ok resolution =>
      refine .inr ⟨resolution, ?_, by rw [hpublish, hr]⟩
      simp [PublishRequest.resolution?, hc, hr, Except.toOption]

theorem publish_cases (o : Options) (request : PublishRequest) :
    (∃ f, publish o request = throw f) ∨
      ∃ resolution, request.resolution? = some resolution ∧
        publish o request = deliver o request resolution :=
  (publish_refused_or o request).imp_left fun ⟨f, _, hp⟩ => ⟨f, hp⟩

/-- A sub-directory that is not inside is refused, on a read-only mount too. -/
theorem prepare_of_not_strict (hd : volume.subDir = some subDir)
    (hs : Path.isStrictSubpath subDir = false) :
    prepare o request volume = throw .contextSubDirNotStrict := by
  simp [prepare, prepareSubDir, hd, hs]

theorem prepare_of_strict (o : Options) (request : PublishRequest)
    (h : ∀ subDir, volume.subDir = some subDir → Path.isStrictSubpath subDir = true) :
    (request.provisions? volume = none ∧ prepare o request volume = pure ()) ∨
      ∃ subDir, request.provisions? volume = some subDir ∧
        Path.isStrictSubpath subDir = true ∧
        prepare o request volume = Mount.provision o volume request.target subDir
          (mountOptions request.readonly request.mountFlags).1 := by
  unfold prepare prepareSubDir PublishRequest.provisions?
  cases hd : volume.subDir with
  | none => exact .inl ⟨by simp, rfl⟩
  | some subDir =>
    have hs := h subDir hd
    cases hr : (mountOptions request.readonly request.mountFlags).2 with
    | true => exact .inl ⟨by simp, by simp [hs]⟩
    | false => exact .inr ⟨subDir, by simp, hs, by simp [hs]⟩

theorem prepare_cases (o : Options) (request : PublishRequest) (volume : Volume) :
    (∃ f, prepare o request volume = throw f) ∨
      (request.provisions? volume = none ∧ prepare o request volume = pure ()) ∨
      ∃ subDir, request.provisions? volume = some subDir ∧
        Path.isStrictSubpath subDir = true ∧
        prepare o request volume = Mount.provision o volume request.target subDir
          (mountOptions request.readonly request.mountFlags).1 := by
  by_cases h : ∀ subDir, volume.subDir = some subDir → Path.isStrictSubpath subDir = true
  · exact .inr (prepare_of_strict o request h)
  · simp only [Classical.not_forall, Bool.not_eq_true] at h
    obtain ⟨subDir, hd, hs⟩ := h
    exact .inl ⟨_, prepare_of_not_strict hd hs⟩

def withdraw (o : Options) (target : Path) : Attempt Unit := do
  match ← (Mount.takeDown o target).outcome with
  | .ok () => Attempt.note .unpublished
  | .error failure => throw (.targetNotUnpublished target failure)

theorem unpublish_eq {request : UnpublishRequest} (hid : request.volumeId ≠ "")
    (ht : request.target.isEmpty = false) :
    unpublish o request = withdraw o request.target := by
  simp [unpublish, hid, ht]
  rfl

theorem unpublish_cases (o : Options) (request : UnpublishRequest) :
    (∃ f, unpublish o request = throw f) ∨
      request.target.isEmpty = false ∧ unpublish o request = withdraw o request.target := by
  by_cases hid : request.volumeId = ""
  · exact .inl ⟨_, by simp [unpublish, hid]; rfl⟩
  · cases ht : request.target.isEmpty with
    | true => exact .inl ⟨_, by simp [unpublish, hid, ht]; rfl⟩
    | false => exact .inr ⟨rfl, unpublish_eq hid ht⟩

end Service

end VolumeAgent
