import VolumeAgent.Proofs.Mount.Causes
import VolumeAgent.Proofs.Mount.Evidence
import VolumeAgent.Proofs.Path.Normal
import VolumeAgent.Proofs.Service.Publish
import VolumeAgent.Proofs.Volume.Descriptor

/-!
# Requests are checked before anything happens

`requests_validated`: a request is refused as an invalid argument exactly if
it is malformed, and then no call is made; what fails later fails as
internal, in whatever way the host answers. The second check of a
sub-directory, where its path is derived, refuses nothing.
-/

namespace VolumeAgent

open Volume (Context)

/-- What a publish is refused for: an identifier, a target or a context is
missing, or the context gives no server or no directory inside the volume. -/
inductive PublishRequest.Malformed (request : PublishRequest) : Prop where
  | volumeId (h : request.volumeId = "")
  | target (h : request.target.text = "")
  | context (h : request.context = none)
  | slashes (hc : request.context = some pairs) (hg : Context.Gives pairs Volume.subDirKey value)
      (h : Text.trimChar '/' value = "")
  | server (hc : request.context = some pairs)
      (h : ∀ server, Context.Gives pairs Volume.serverKey server → server = "")
  | subDir (hc : request.context = some pairs) (hg : Context.Gives pairs Volume.subDirKey value)
      (h : Volume.cleanSubDir (.ofList pairs) (Text.trimChar '/' value) = "" ∨
        (Path.segments ⟨Volume.cleanSubDir (.ofList pairs) (Text.trimChar '/' value)⟩).head? =
          some "..")

def PublishRequest.Provisions (request : PublishRequest) : Prop :=
  (∃ pairs value, request.context = some pairs ∧
    Context.Gives pairs Volume.subDirKey value) ∧
  request.readonly = false ∧ "ro" ∉ request.mountFlags

namespace Service

section
variable {o : Options} {request : PublishRequest} {pairs : List (String × String)}

theorem malformed_iff (hid : request.volumeId ≠ "") (ht : request.target.isEmpty = false)
    (hc : request.context = some pairs) (hu : Context.Unambiguous pairs) :
    request.Malformed ↔
      Volume.rawSubDir (.ofList pairs) = some "" ∨
        (∀ server, (Context.ofList pairs).get? Volume.serverKey = some server → server = "") ∨
        ∃ raw, Volume.rawSubDir (.ofList pairs) = some raw ∧
          Path.isStrictSubpath (Volume.cleanSubDir (.ofList pairs) raw) = false := by
  simp only [Volume.rawSubDir_ofList hu, Context.get?_ofList hu]
  constructor
  · rintro (h | h | h | ⟨hc', hg, h⟩ | ⟨hc', h⟩ | ⟨hc', hg, h⟩)
    · exact absurd h hid
    · simp [Path.isEmpty, h] at ht
    · simp [hc] at h
    all_goals obtain rfl := Option.some.inj (hc.symm.trans hc')
    · exact .inl ⟨_, hg, h⟩
    · exact .inr (.inl h)
    · exact .inr (.inr ⟨_, ⟨_, hg, rfl⟩, Path.isStrictSubpath_cleanSubpath.mpr h⟩)
  · rintro (⟨value, hg, h⟩ | h | ⟨raw, ⟨value, hg, rfl⟩, h⟩)
    · exact .slashes hc hg h
    · exact .server hc h
    · exact .subDir hc hg (Path.isStrictSubpath_cleanSubpath.mp h)

def Refused (o : Options) (request : PublishRequest) : Prop :=
  ∃ f, f.status = .invalidArgument ∧
    ∀ respond, (publish o request).reply respond = .error f ∧ (publish o request).trace respond = []

theorem refused_of_throw (hf : f.status = .invalidArgument) (h : publish o request = throw f) :
    Refused o request :=
  ⟨f, hf, fun _ => by rw [h]; exact ⟨rfl, rfl⟩⟩

theorem refused_or_served (hu : ∀ pairs, request.context = some pairs → Context.Unambiguous pairs) :
    (request.Malformed ∧ Refused o request) ∨
      ¬ request.Malformed ∧ ∃ pairs resolution, request.context = some pairs ∧
        publish o request = deliver o request resolution ∧
        resolution.volume.subDir =
          (Volume.rawSubDir (.ofList pairs)).map (Volume.cleanSubDir (.ofList pairs)) ∧
        ∀ subDir, resolution.volume.subDir = some subDir →
          Path.isStrictSubpath subDir = true := by
  by_cases hincomplete :
      request.volumeId = "" ∨ request.target.isEmpty = true ∨ request.context = none
  · obtain ⟨f, hf, hp⟩ := publish_incomplete (o := o) hincomplete
    refine .inl ⟨?_, refused_of_throw hf hp⟩
    rcases hincomplete with h | h | h
    · exact .volumeId h
    · exact .target (by simpa [Path.isEmpty] using h)
    · exact .context h
  simp only [not_or, Bool.not_eq_true] at hincomplete
  obtain ⟨hid, ht, hc⟩ := hincomplete
  obtain ⟨pairs, hc⟩ := Option.ne_none_iff_exists'.mp hc
  have hmalformed := malformed_iff hid ht hc (hu pairs hc)
  have hpublish : publish o request = _ := publish_complete hid ht hc
  rcases Volume.resolve_cases request.volumeId pairs with
    ⟨hraw, hr⟩ | ⟨hraw, ⟨hserver, hr⟩ | ⟨server, resolution, hserver, hne, hr, -, hsub⟩⟩
  all_goals rw [hr] at hpublish
  · exact .inl ⟨hmalformed.mpr (.inl hraw), refused_of_throw rfl hpublish⟩
  · exact .inl ⟨hmalformed.mpr (.inr (.inl hserver)), refused_of_throw rfl hpublish⟩
  by_cases hstrict : ∀ subDir, resolution.volume.subDir = some subDir →
      Path.isStrictSubpath subDir = true
  · refine .inr ⟨?_, pairs, resolution, hc, hpublish, hsub, hstrict⟩
    rintro h
    rcases hmalformed.mp h with h | h | ⟨raw, h, hs⟩
    · exact hraw h
    · exact hne (h server hserver)
    · simp [hstrict _ (by rw [hsub, h]; rfl)] at hs
  · simp only [Classical.not_forall, Bool.not_eq_true] at hstrict
    obtain ⟨subDir, hd, hs⟩ := hstrict
    obtain ⟨raw, hr, rfl⟩ := Option.map_eq_some_iff.mp (hsub.symm.trans hd)
    refine .inl ⟨hmalformed.mpr (.inr (.inr ⟨raw, hr, hs⟩)), .contextSubDirNotStrict, rfl, ?_⟩
    -- This is found in the preparation, before it makes a call.
    intro respond
    rw [hpublish, reply_deliver, trace_deliver, prepare_of_not_strict hd hs]
    exact ⟨rfl, rfl⟩

-- ---------------------------------------------------------------------------
-- Once a request is served
-- ---------------------------------------------------------------------------

theorem attach_internally : (attach o request volume).FailsInternally := by
  refine .bind Mount.ensureMountPoint_internally ?_
  rintro (_ | _)
  · exact .bind Mount.mountOrRemoveTarget_internally fun _ => .note
  · exact .note

theorem attach_starts : (attach o request volume).Starts (.isMountPoint request.target) :=
  .bind Mount.ensureMountPoint_starts

variable {volume : Volume}

theorem serve_internally
    (h : ∀ subDir, volume.subDir = some subDir → Path.isStrictSubpath subDir = true) :
    (prepare o request volume >>= fun _ => attach o request volume).FailsInternally := by
  rcases prepare_of_strict o request h with
    ⟨-, hp⟩ | ⟨subDir, -, hs, hp⟩ <;> rw [hp]
  · exact .bind .pure fun _ => attach_internally
  · exact .bind (Mount.provision_internally hs) fun _ => attach_internally

/-- A request that is served is silent only if its target has no internal
path and needs one. -/
theorem serve_silent
    (h : ∀ subDir, volume.subDir = some subDir → Path.isStrictSubpath subDir = true)
    (respond : Responses) :
    (prepare o request volume >>= fun _ => attach o request volume).trace respond = [] ↔
      request.provisions? volume ≠ none ∧
        Path.isStrictSubpath (Text.trimChar '/' request.target.text) = false := by
  rcases prepare_of_strict o request h with
    ⟨hnone, hp⟩ | ⟨subDir, hsome, hs, hp⟩ <;> rw [hp]
  · have hloud : (attach o request volume).trace respond ≠ [] := attach_starts.trace_ne_nil
    simp [hnone, hloud]
  · cases ht : Path.isStrictSubpath (Text.trimChar '/' request.target.text) with
    | true =>
      have hi : Path.internal o.workingDir request.target = .ok _ := if_pos ht
      have hloud : (Mount.provision o volume request.target subDir
          (mountOptions request.readonly request.mountFlags).1 >>= fun _ =>
            attach o request volume).trace respond ≠ [] :=
        (Mount.provision_starts hi hs).bind.trace_ne_nil
      simp [hloud]
    | false =>
      have hi : Path.internal o.workingDir request.target = .error _ :=
        if_neg (by simp [ht])
      rw [Mount.provision, hi, Attempt.ofExcept_error_bind]
      simp [hsome]

theorem provisions_iff (hc : request.context = some pairs) (hu : Context.Unambiguous pairs)
    (hd : volume.subDir =
      (Volume.rawSubDir (.ofList pairs)).map (Volume.cleanSubDir (.ofList pairs))) :
    request.provisions? volume ≠ none ↔ request.Provisions := by
  have hsub : volume.subDir ≠ none ↔ ∃ pairs value, request.context = some pairs ∧
      Context.Gives pairs Volume.subDirKey value := by
    simp [hd, hc, Volume.rawSubDir, Context.get?_ofList hu, Option.eq_none_iff_forall_ne_some]
  rw [PublishRequest.Provisions, ← hsub]
  cases hr : request.readonly <;> by_cases hro : "ro" ∈ request.mountFlags <;>
    simp [PublishRequest.provisions?, mountOptions, hr, hro]

-- ---------------------------------------------------------------------------
-- Unpublishing
-- ---------------------------------------------------------------------------

theorem unpublish_incomplete {request : UnpublishRequest}
    (h : request.volumeId = "" ∨ request.target.text = "") :
    ∃ f, f.status = .invalidArgument ∧ unpublish o request = throw f := by
  by_cases hid : request.volumeId = ""
  · exact ⟨.volumeIdMissing, rfl, by simp [unpublish, hid]⟩
  · have ht : request.target.isEmpty = true := by simpa [Path.isEmpty, hid] using h
    exact ⟨.targetMissing, rfl, by simp [unpublish, hid, ht]⟩

theorem reply_withdraw {respond : Responses} :
    (withdraw o target).reply respond = .error f ↔
      ∃ cause, (Mount.takeDown o target).reply respond = .error cause ∧
        f = .targetNotUnpublished target cause := by
  rw [withdraw, Attempt.reply_bind_ok (Attempt.reply_outcome _)]
  cases (Mount.takeDown o target).reply respond with
  | ok u => exact ⟨nofun, nofun⟩
  | error cause =>
    constructor
    · exact fun h => ⟨cause, rfl, (Except.error.inj h).symm⟩
    · rintro ⟨_, ⟨⟩, rfl⟩
      rfl

end

-- ---------------------------------------------------------------------------
-- Both requests
-- ---------------------------------------------------------------------------

/-- In whatever way the host answers, a publish is refused as an invalid
argument exactly if it is malformed, and what fails else is internal. It
says nothing exactly if it is refused, or if it is to create a sub-directory
and its target has no internal path. An unpublish is refused exactly for
want of an identifier or a target, and then says nothing; what keeps a
target from being taken down, be it still mounted, is an internal failure. -/
theorem requests_validated (respond : Responses) (o : Options) :
    (∀ request : PublishRequest,
      (∀ pairs, request.context = some pairs → Context.Unambiguous pairs) →
      ((∃ f, (publish o request).reply respond = .error f ∧ f.status = .invalidArgument) ↔
        request.Malformed) ∧
      (∀ f, (publish o request).reply respond = .error f → f.status ≠ .invalidArgument →
        f.status = .internal) ∧
      ((publish o request).trace respond = [] ↔ request.Malformed ∨
        request.Provisions ∧
          Path.isStrictSubpath (Text.trimChar '/' request.target.text) = false)) ∧
    ∀ request : UnpublishRequest,
      ((∃ f, (unpublish o request).reply respond = .error f ∧ f.status = .invalidArgument) ↔
        request.volumeId = "" ∨ request.target.text = "") ∧
      (request.volumeId = "" ∨ request.target.text = "" →
        (unpublish o request).trace respond = []) ∧
      (∀ f, (unpublish o request).reply respond = .error f → f.status ≠ .invalidArgument →
        f.status = .internal) ∧
      (request.volumeId ≠ "" ∧ request.target.text ≠ "" →
        ∀ f, (unpublish o request).reply respond = .error f ↔
          ∃ cause, (Mount.takeDown o request.target).reply respond = .error cause ∧
            f = .targetNotUnpublished request.target cause) := by
  refine ⟨fun request hu => ?_, fun request => ?_⟩
  · rcases refused_or_served (o := o) hu with
      ⟨hm, f, hf, hp⟩ | ⟨hm, pairs, resolution, hc, hp, hd, hs⟩
    · obtain ⟨hreply, htrace⟩ := hp respond
      refine ⟨⟨fun _ => hm, fun _ => ⟨f, hreply, hf⟩⟩, fun g hg hn => ?_, ?_⟩
      · obtain rfl := Except.error.inj (hreply.symm.trans hg)
        exact absurd hf hn
      · simp [htrace, hm]
    · have hinternal : ∀ f, (publish o request).reply respond = .error f →
          f.status = .internal := by
        rw [hp, reply_deliver]
        exact fun f => (serve_internally hs).reply
      refine ⟨⟨fun hbad => ?_, fun h => absurd h hm⟩, fun f hr _ => hinternal f hr, ?_⟩
      · obtain ⟨f, hr, hf⟩ := hbad
        simp [hinternal f hr] at hf
      · rw [hp, trace_deliver, serve_silent hs, provisions_iff hc (hu pairs hc) hd]
        simp [hm]
  · by_cases h : request.volumeId = "" ∨ request.target.text = ""
    · obtain ⟨f, hf, hp⟩ := unpublish_incomplete (o := o) h
      rw [hp]
      refine ⟨⟨fun _ => h, fun _ => ⟨f, rfl, hf⟩⟩, fun _ => rfl, fun g hg hn => ?_, ?_⟩
      · obtain rfl := Except.error.inj hg
        exact absurd hf hn
      · exact fun hcomplete => absurd h (not_or.mpr hcomplete)
    · have hcomplete := not_or.mp h
      have hinternal : ∀ f, (withdraw o request.target).reply respond = .error f →
          f.status = .internal := by
        intro f hr
        obtain ⟨cause, -, rfl⟩ := reply_withdraw.mp hr
        rfl
      rw [unpublish_eq hcomplete.1 (by simpa [Path.isEmpty] using hcomplete.2)]
      refine ⟨⟨fun hbad => ?_, fun h' => absurd h' h⟩, fun h' => absurd h' h,
        fun f hr _ => hinternal f hr, fun _ f => reply_withdraw⟩
      obtain ⟨f, hr, hf⟩ := hbad
      simp [hinternal f hr] at hf

/-- A sub-directory that leads out of the volume only once the name of a pod
is put in. -/
def escaping : PublishRequest where
  volumeId := "fs1"
  target := ⟨"/a"⟩
  context := some
    [("mgs-ip-address", "10.0.0.1"), ("Sub-Dir", "/p/$\x7bpod.metadata.name\x7d/"),
      ("csi.storage.k8s.io/pod.name", "../..")]

theorem requests_validated_escaping :
    (∀ pairs, escaping.context = some pairs → Context.Unambiguous pairs) ∧
      escaping.Malformed ∧ (publish {} escaping).trace staleHost = [] ∧
      (unpublish {} ⟨"fs1", ⟨"/a"⟩⟩).reply staleHost =
        .error (.targetNotUnpublished ⟨"/a"⟩ (.stillMounted ⟨"/a"⟩)) := by
  have hu : ∀ pairs, escaping.context = some pairs → Context.Unambiguous pairs := by
    rintro _ ⟨⟩
    decide +kernel
  obtain ⟨hrefused, -, hsilent⟩ := (requests_validated staleHost {}).1 escaping hu
  have hreply : (publish {} escaping).reply staleHost = .error .contextSubDirNotStrict := rfl
  have hm : escaping.Malformed := hrefused.mp ⟨_, hreply, rfl⟩
  obtain ⟨-, -, -, hcause⟩ := (requests_validated staleHost {}).2 ⟨"fs1", ⟨"/a"⟩⟩
  exact ⟨hu, hm, hsilent.mpr (.inl hm), (hcause (by decide) _).mpr ⟨_, rfl, rfl⟩⟩

end Service

end VolumeAgent
