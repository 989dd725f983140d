import VolumeAgent.Proofs.Mount.Order
import VolumeAgent.Proofs.Path.Normal
import VolumeAgent.Proofs.Volume.Descriptor

/-!
# Which tree is published

A publish mounts the root of a volume at the internal path and the tree that
it publishes at the target. `publish_contained`: without a redirect what is
published is the root, or a directory in it that is reached by names only,
whatever the context gives. `publish_same_tree`: the directory that is
created is the one that is published, unless a redirect replaces one of the
two sources and not the other.
-/

namespace VolumeAgent

open Host (Call)
open Volume (Context)

namespace Volume

variable {v : Volume} {subDir : String}

/-- The sources that a context may ask for: the root of the volume if it
gives no sub-directory, else the root with names behind it, which are what
the sub-directory comes to. -/
inductive Published (pairs : List (String × String)) (root : String) : String → Prop where
  | whole (h : ∀ value, ¬ Context.Gives pairs subDirKey value) : Published pairs root root
  | directory (hg : Context.Gives pairs subDirKey value) (hne : names ≠ [])
      (hplain : ∀ n ∈ names, Path.Plain n ∧ '/' ∉ n.toList)
      (hclean : cleanSubDir (.ofList pairs) (Text.trimChar '/' value) = Text.join '/' names) :
    Published pairs root (root ++ "/" ++ Text.join '/' names)

theorem directorySource_ne (root names : String) : root ++ "/" ++ names ≠ root := by
  intro heq
  have hlength := congrArg String.length heq
  have hslash : "/".length = 1 := rfl
  simp only [String.length_append] at hlength
  omega

theorem publishSource_ne_source (h : v.subDir = some subDir) : v.publishSource ≠ v.source := by
  rw [publishSource, h]
  exact directorySource_ne _ _

theorem Published.ne_root {published root : String} (h : Published pairs root published)
    (hg : Context.Gives pairs subDirKey value) : published ≠ root := by
  cases h with
  | whole hnone => exact absurd hg (hnone value)
  | directory => exact directorySource_ne _ _

/-- What a redirect leaves of the two sources of a volume still belongs
together exactly if it replaces neither by another. -/
theorem redirected_publishSource_iff (o : Options) (h : v.subDir = some subDir) :
    (o.redirected v.publishSource fsType).1 =
        (o.redirected v.source rootFsType).1 ++ "/" ++ subDir ↔
      ∀ r, o.redirect = some r → r.source = v.source ∨ r.source = v.publishSource →
        r.target = r.source := by
  have hsource : v.publishSource = v.source ++ "/" ++ subDir := by simp [publishSource, h]
  have hne := publishSource_ne_source h
  unfold Options.redirected
  cases o.redirect with
  | none => simp [hsource]
  | some r =>
    simp only [Option.some.injEq, forall_eq', beq_iff_eq]
    by_cases hroot : r.source = v.source
    · -- The root is replaced, and the directory is not.
      have hother : r.source ≠ v.publishSource := fun he => hne (he.symm.trans hroot)
      rw [if_neg hother, if_pos hroot, hsource]
      simp only [hroot, true_or, forall_const, String.append_left_inj]
      exact eq_comm
    · rw [if_neg hroot]
      by_cases hother : r.source = v.publishSource
      · rw [if_pos hother, ← hsource]
        simp [hother]
      · rw [if_neg hother, ← hsource]
        simp [hroot, hother]

end Volume

namespace Service

section
variable {o : Options} {request : PublishRequest} {volume : Volume} {respond : Responses}

theorem attach_serves :
    (attach o request volume).Obeys (.onTrace fun _ =>
      Mount.Serves o volume.publishSource request.target request.mountFsType
        (mountOptions request.readonly request.mountFlags).1) :=
  attach_obeys ⟨fun hc hk => .inl ⟨hc, hk⟩⟩ fun _ _ _ => .inr rfl

theorem prepare_serves :
    (prepare o request volume).Obeys (.onTrace fun _ c => c.kind = .mount →
      ∃ internal, Path.internal o.workingDir request.target = .ok internal ∧
        c = (Mount.mounted o volume.source internal lustre
          (mountOptions request.readonly request.mountFlags).1).call) :=
  prepare_obeys fun _ _ =>
    { tends := fun _ => ⟨fun _ hk h => absurd h hk⟩
      mount := fun hi _ _ _ _ => ⟨_, hi, rfl⟩
      make := fun _ => nofun }

theorem trace_deliver_eq (o : Options) (request : PublishRequest) (resolution : Volume.Resolution)
    (respond : Responses) :
    ∃ rest, (deliver o request resolution).trace respond =
        (prepare o request resolution.volume).trace respond ++ rest ∧
      (∀ x ∈ rest, Mount.Serves o resolution.volume.publishSource request.target
        request.mountFsType (mountOptions request.readonly request.mountFlags).1 x.call) ∧
      (rest ≠ [] → (prepare o request resolution.volume).reply respond = .ok ()) := by
  rw [trace_deliver]
  cases hr : (prepare o request resolution.volume).reply respond with
  | error f => exact ⟨[], by simp [Attempt.trace_bind_error hr], by simp, by simp⟩
  | ok u =>
    exact ⟨_, Attempt.trace_bind_ok hr, fun x hx => attach_serves.mem_trace _ hx, fun _ => rfl⟩

theorem publish_of_trace (h : (publish o request).trace respond ≠ []) :
    ∃ resolution, request.resolution? = some resolution ∧
      publish o request = deliver o request resolution := by
  rcases publish_cases o request with ⟨f, hp⟩ | hp
  · exact absurd (by rw [hp]; rfl) h
  · exact hp

theorem resolution?_eq_some (h : request.resolution? = some resolution) :
    ∃ pairs, request.context = some pairs ∧
      Volume.resolve request.volumeId pairs = .ok resolution := by
  obtain ⟨pairs, hc, hr⟩ := Option.bind_eq_some_iff.mp h
  cases hresolve : Volume.resolve request.volumeId pairs with
  | error f => simp [hresolve, Except.toOption] at hr
  | ok other =>
    obtain rfl : other = resolution := by simpa [hresolve, Except.toOption] using hr
    exact ⟨pairs, hc, hresolve⟩

theorem exists_cleanSubpath (h : request.resolution? = some resolution)
    (hs : resolution.volume.subDir = some subDir) : ∃ s, subDir = Path.cleanSubpath s := by
  obtain ⟨pairs, -, hr⟩ := resolution?_eq_some h
  obtain ⟨raw, -, rfl⟩ := Option.map_eq_some_iff.mp ((Volume.subDir_of_resolve hr).symm.trans hs)
  exact ⟨_, rfl⟩

theorem prepare_said (hr : request.resolution? = some resolution)
    (hs : request.provisions? resolution.volume = some subDir)
    (hok : (prepare o request resolution.volume).reply respond = .ok ()) :
    ∃ internal first last, Path.internal o.workingDir request.target = .ok internal ∧
      (∀ x ∈ first ++ last, Mount.Quiet internal x.call) ∧
      (prepare o request resolution.volume).trace respond = first ++
        Mount.mounted o resolution.volume.source internal lustre
          (mountOptions request.readonly request.mountFlags).1 ::
        ⟨.createDirAll ⟨internal.text ++ "/" ++ subDir⟩ directoryMode, .ok ()⟩ :: last := by
  rcases prepare_cases o request resolution.volume with ⟨f, hp⟩ | ⟨hn, -⟩ | ⟨s, hs', hstrict, hp⟩
  · rw [hp] at hok
    cases hok
  · simp [hn] at hs
  · obtain rfl := Option.some.inj (hs.symm.trans hs')
    cases hi : Path.internal o.workingDir request.target with
    | error e =>
      rw [hp, Mount.provision, hi, Attempt.ofExcept_error_bind] at hok
      cases hok
    | ok internal =>
      obtain ⟨s, rfl⟩ := exists_cleanSubpath hr (provisions?_eq_some.mp hs).2
      have hd := Path.internalVolume_clean hi hstrict
      have hsaid : Triple .free (prepare o request resolution.volume) [] _ _ :=
        hp ▸ Mount.provision_said hi hd
      have hsaid := hsaid.replied respond
      rw [hok] at hsaid
      obtain ⟨first, last, hquiet, htrace⟩ := hsaid
      exact ⟨internal, first, last, rfl, hquiet, htrace⟩

end

-- ---------------------------------------------------------------------------
-- A host that does as it is told
-- ---------------------------------------------------------------------------

def obligingHost : Responses
  | _, .isMountPoint _ | _, .pathExists _ => .ok false
  | _, .mount .. | _, .unmount _ | _, .forceUnmount .. => .ok ()
  | _, .createDirAll .. | _, .stat _ | _, .removeDir _ => .ok ()
  | _, .readDir _ => .ok []
  | _, .capacity _ => .ok default

def approach : List Exchange :=
  [⟨.isMountPoint ⟨"/a"⟩, .ok false⟩, ⟨.createDirAll ⟨"/a"⟩ 0o775, .ok ()⟩,
    ⟨.createDirAll ⟨"/a"⟩ 0o775, .ok ()⟩]

-- ---------------------------------------------------------------------------
-- The directory and the tree
-- ---------------------------------------------------------------------------

section
variable {o : Options} {request : PublishRequest} {volume : Volume} {respond : Responses}

/-- The directory that is created is that of the sub-directory in the mounted
root. It is in the tree that is then published exactly if no redirect
replaces the root, or the tree, by another source: a redirect is for one
source and not for what is below it. -/
theorem publish_same_tree (hv : request.volume? = some volume)
    (hs : request.provisions? volume = some subDir)
    (h : (publish o request).trace respond =
      (prepare o request volume).trace respond ++ between ++
        ⟨.mount source request.target fsType options, answer⟩ :: after) :
    ∃ internal root rootFsType first last,
      Path.internal o.workingDir request.target = .ok internal ∧
      (prepare o request volume).trace respond = first ++
        ⟨.mount root internal rootFsType options, .ok ()⟩ ::
        ⟨.createDirAll ⟨internal.text ++ "/" ++ subDir⟩ directoryMode, .ok ()⟩ :: last ∧
      (∀ x ∈ first ++ last, x.call.path = internal ∧ x.call.kind ≠ .mount) ∧
      (source = root ++ "/" ++ subDir ↔
        ∀ r, o.redirect = some r → r.source = volume.source ∨ r.source = volume.publishSource →
          r.target = r.source) := by
  have hne : (publish o request).trace respond ≠ [] := by simp [h]
  obtain ⟨resolution, hr, hp⟩ := publish_of_trace hne
  obtain rfl := Option.some.inj ((PublishRequest.volume?_eq hr).symm.trans hv)
  obtain ⟨rest, htrace, hserves, hok⟩ := trace_deliver_eq o request resolution respond
  rw [hp, htrace, List.append_assoc, List.append_cancel_left_eq] at h
  subst h
  obtain ⟨internal, first, last, hi, hquiet, hprepare⟩ := prepare_said hr hs (hok (by simp))
  rcases hserves ⟨.mount source request.target fsType options, answer⟩ (by simp) with hq | hm
  · exact absurd rfl hq.2
  · injection hm with hsource _ _ hoptions
    subst hsource hoptions
    exact ⟨internal, _, _, first, last, hi, hprepare, hquiet,
      Volume.redirected_publishSource_iff o (provisions?_eq_some.mp hs).2⟩

theorem publish_same_tree_obligingHost :
    PublishRequest.ofSubDir.volume? = some ⟨"", "fs1", "10.0.0.1", "fs1", some "d"⟩ ∧
      PublishRequest.ofSubDir.provisions? ⟨"", "fs1", "10.0.0.1", "fs1", some "d"⟩ = some "d" ∧
      (publish {} .ofSubDir).trace obligingHost =
        (prepare {} .ofSubDir ⟨"", "fs1", "10.0.0.1", "fs1", some "d"⟩).trace obligingHost ++
          approach ++ [⟨.mount "10.0.0.1@tcp:/fs1/d" ⟨"/a"⟩ "lustre" [], .ok ()⟩] ∧
      ∃ internal root rootFsType first last,
        Path.internal ⟨"/tmp"⟩ ⟨"/a"⟩ = .ok internal ∧
        (prepare {} .ofSubDir ⟨"", "fs1", "10.0.0.1", "fs1", some "d"⟩).trace obligingHost =
          first ++ ⟨.mount root internal rootFsType [], .ok ()⟩ ::
            ⟨.createDirAll ⟨internal.text ++ "/" ++ "d"⟩ directoryMode, .ok ()⟩ :: last ∧
        (∀ x ∈ first ++ last, x.call.path = internal ∧ x.call.kind ≠ .mount) ∧
        "10.0.0.1@tcp:/fs1/d" = root ++ "/" ++ "d" := by
  have hv : PublishRequest.ofSubDir.volume? = some ⟨"", "fs1", "10.0.0.1", "fs1", some "d"⟩ := rfl
  have h : (publish {} .ofSubDir).trace obligingHost =
      (prepare {} .ofSubDir ⟨"", "fs1", "10.0.0.1", "fs1", some "d"⟩).trace obligingHost ++
        approach ++ [⟨.mount "10.0.0.1@tcp:/fs1/d" ⟨"/a"⟩ "lustre" [], .ok ()⟩] := rfl
  obtain ⟨internal, root, rootFsType, first, last, hi, htrace, hquiet, hsame⟩ :=
    publish_same_tree hv rfl h
  exact ⟨hv, rfl, h, internal, root, rootFsType, first, last, hi, htrace, hquiet,
    hsame.mpr nofun⟩

def redirectedRoot : Options where
  redirect := some ⟨"10.0.0.1@tcp:/fs1", "/dev/shm", "tmpfs"⟩

/-- Then the directory is created there, and published from the volume. -/
theorem publish_other_tree :
    ¬ ∀ (o : Options) (request : PublishRequest) (respond : Responses) (volume : Volume)
      (subDir source fsType root rootFsType : String) (internal : Path) (options : List String)
      (answer : Except Host.MountError Unit) (between after first last : List Exchange),
      request.volume? = some volume → request.provisions? volume = some subDir →
      (publish o request).trace respond = (prepare o request volume).trace respond ++ between ++
        ⟨.mount source request.target fsType options, answer⟩ :: after →
      (prepare o request volume).trace respond =
        first ++ ⟨.mount root internal rootFsType options, .ok ()⟩ :: last →
      source = root ++ "/" ++ subDir := by
  intro h
  have hsource := h redirectedRoot .ofSubDir obligingHost ⟨"", "fs1", "10.0.0.1", "fs1", some "d"⟩
    "d" "10.0.0.1@tcp:/fs1/d" "lustre" "/dev/shm" "tmpfs" ⟨"/tmp/a"⟩ [] (.ok ()) approach []
    [⟨.isMountPoint ⟨"/tmp/a"⟩, .ok false⟩, ⟨.createDirAll ⟨"/tmp/a"⟩ 0o775, .ok ()⟩,
      ⟨.createDirAll ⟨"/tmp/a"⟩ 0o775, .ok ()⟩]
    [⟨.createDirAll ⟨"/tmp/a/d"⟩ 0o775, .ok ()⟩, ⟨.pathExists ⟨"/tmp/a"⟩, .ok false⟩]
    rfl rfl rfl rfl
  revert hsource
  decide

theorem mem_or_mem_of_split {x : α} (h : first ++ rest = before ++ x :: after) :
    first <+: before ∧ x ∈ rest ∨ ¬ first <+: before ∧ x ∈ first := by
  rcases List.append_eq_append_iff.mp h with ⟨between, rfl, rfl⟩ | ⟨between, rfl, hrest⟩
  · exact .inl ⟨List.prefix_append _ _, by simp⟩
  · cases between with
    | nil =>
      obtain rfl : x :: after = rest := hrest
      exact .inl ⟨by simp, by simp⟩
    | cons y between =>
      obtain ⟨rfl, -⟩ := List.cons.inj hrest
      refine .inr ⟨fun hp => ?_, by simp⟩
      have hlength := hp.length_le
      simp only [List.length_append, List.length_cons] at hlength
      omega

theorem volume_published (hc : request.context = some pairs) (hu : Context.Unambiguous pairs)
    (hr : request.resolution? = some resolution)
    (hs : ∀ subDir, resolution.volume.subDir = some subDir → Path.isStrictSubpath subDir = true) :
    Volume.Published pairs resolution.volume.source resolution.volume.publishSource := by
  obtain ⟨pairs', hc', hresolve⟩ := resolution?_eq_some hr
  obtain rfl := Option.some.inj (hc.symm.trans hc')
  have hsub := Volume.subDir_of_resolve hresolve
  cases hraw : Volume.rawSubDir (.ofList pairs) with
  | none =>
    rw [hraw, Option.map_none] at hsub
    rw [Volume.publishSource, hsub]
    refine .whole fun value hg => ?_
    simpa [hraw] using (Volume.rawSubDir_ofList hu).mpr ⟨value, hg, rfl⟩
  | some raw =>
    rw [hraw, Option.map_some] at hsub
    obtain ⟨value, hg, rfl⟩ := (Volume.rawSubDir_ofList hu).mp hraw
    obtain ⟨names, hne, hplain, hclean⟩ := Path.exists_names_of_isStrictSubpath (hs _ hsub)
    rw [Volume.publishSource, hsub, Volume.cleanSubDir, hclean]
    exact .directory hg hne hplain hclean

/-- Whatever a context gives, what a publish mounts at the target once its
sub-directory has been seen to is the root of the volume, or a directory that
names lead to from there. All it mounts before is the root, at the internal
path; that is not the target, unless roots are mounted below the root. -/
theorem publish_contained (hredirect : o.redirect = none) (hc : request.context = some pairs)
    (hu : Context.Unambiguous pairs)
    (h : (publish o request).trace respond =
      before ++ ⟨.mount source p fsType options, answer⟩ :: after) :
    ∃ volume, request.volume? = some volume ∧
      ((prepare o request volume).trace respond <+: before ∧ p = request.target ∧
          Volume.Published pairs volume.source source ∨
        ¬ (prepare o request volume).trace respond <+: before ∧ source = volume.source ∧
          Path.internal o.workingDir request.target = .ok p ∧
          (p = request.target → o.workingDir.key.isTop = true)) := by
  have hne : (publish o request).trace respond ≠ [] := by simp [h]
  obtain ⟨resolution, hr, hp⟩ := publish_of_trace hne
  refine ⟨resolution.volume, PublishRequest.volume?_eq hr, ?_⟩
  obtain ⟨rest, htrace, hserves, hok⟩ := trace_deliver_eq o request resolution respond
  have hsame : ∀ source fsType, o.redirected source fsType = (source, fsType) := by
    simp [Options.redirected, hredirect]
  rw [hp, htrace] at h
  rcases mem_or_mem_of_split h with ⟨hbefore, hx⟩ | ⟨hbefore, hx⟩
  · refine .inl ⟨hbefore, ?_⟩
    rcases hserves _ hx with hq | hm
    · exact absurd rfl hq.2
    · injection hm with hsource htarget
      rw [hsource, hsame]
      refine ⟨htarget, volume_published hc hu hr fun subDir hd => ?_⟩
      -- Otherwise the preparation would have failed.
      cases hs : Path.isStrictSubpath subDir with
      | true => rfl
      | false =>
        rw [prepare_of_not_strict hd hs] at hok
        cases hok (List.ne_nil_of_mem hx)
  · refine .inr ⟨hbefore, ?_⟩
    obtain ⟨internal, hi, hm⟩ := prepare_serves.mem_trace respond hx rfl
    injection hm with hsource hinternal
    subst hinternal
    refine ⟨by rw [hsource, hsame], hi, fun ht => ?_⟩
    have hnames := Path.names_internal hi
    rw [ht] at hnames
    simpa [Path.Key.isTop] using hnames

/-- Where roots are mounted below the root, the internal path is the target,
which then gets the whole volume first. -/
theorem publish_root_at_target :
    ¬ ∀ (o : Options) (request : PublishRequest) (respond : Responses) (volume : Volume)
      (pairs : List (String × String)) (source fsType : String) (options : List String)
      (answer : Except Host.MountError Unit) (before after : List Exchange),
      o.redirect = none → request.context = some pairs → Context.Unambiguous pairs →
      request.volume? = some volume →
      (publish o request).trace respond =
        before ++ ⟨.mount source request.target fsType options, answer⟩ :: after →
      Volume.Published pairs volume.source source := by
  intro h
  obtain ⟨pairs, hc⟩ : ∃ pairs, PublishRequest.ofSubDir.context = some pairs := ⟨_, rfl⟩
  have hu : Context.Unambiguous pairs := by
    obtain rfl := Option.some.inj hc
    decide +kernel
  have hg : Context.Gives pairs Volume.subDirKey "d" := by
    obtain rfl := Option.some.inj hc
    exact ⟨"sub-dir", by simp, by decide +kernel⟩
  have hpublished := h { workingDir := ⟨"/"⟩ } .ofSubDir obligingHost
    ⟨"", "fs1", "10.0.0.1", "fs1", some "d"⟩ pairs "10.0.0.1@tcp:/fs1" "lustre" [] (.ok ())
    approach
    [⟨.createDirAll ⟨"/a/d"⟩ 0o775, .ok ()⟩, ⟨.pathExists ⟨"/a"⟩, .ok false⟩,
      ⟨.isMountPoint ⟨"/a"⟩, .ok false⟩, ⟨.createDirAll ⟨"/a"⟩ 0o775, .ok ()⟩,
      ⟨.createDirAll ⟨"/a"⟩ 0o775, .ok ()⟩,
      ⟨.mount "10.0.0.1@tcp:/fs1/d" ⟨"/a"⟩ "lustre" [], .ok ()⟩]
    rfl hc hu rfl rfl
  exact hpublished.ne_root hg rfl

/-- A sub-directory in which the name of a pod climbs and comes back, on a
read-only mount. -/
def winding : PublishRequest where
  volumeId := "fs1"
  target := ⟨"/a"⟩
  context := some
    [("mgs-ip-address", "10.0.0.1"), ("Sub-Dir", "/x/../$\x7bpod.metadata.name\x7d/."),
      ("csi.storage.k8s.io/pod.name", "a//../b/$\x7bpv.metadata.name\x7d")]
  mountFlags := ["ro"]

theorem publish_contained_winding :
    ∃ pairs volume, winding.context = some pairs ∧ Context.Unambiguous pairs ∧
      winding.volume? = some volume ∧ volume.source = "10.0.0.1@tcp:/fs1" ∧
      (publish {} winding).trace obligingHost = approach ++
        [⟨.mount "10.0.0.1@tcp:/fs1/b/$\x7bpv.metadata.name\x7d" ⟨"/a"⟩ "lustre" ["ro"], .ok ()⟩] ∧
      Volume.Published pairs volume.source "10.0.0.1@tcp:/fs1/b/$\x7bpv.metadata.name\x7d" := by
  obtain ⟨pairs, hc⟩ : ∃ pairs, winding.context = some pairs := ⟨_, rfl⟩
  have hu : Context.Unambiguous pairs := by
    obtain rfl := Option.some.inj hc
    decide +kernel
  have h : (publish {} winding).trace obligingHost = approach ++
      [⟨.mount "10.0.0.1@tcp:/fs1/b/$\x7bpv.metadata.name\x7d" ⟨"/a"⟩ "lustre" ["ro"], .ok ()⟩] := rfl
  obtain ⟨volume, hv, hmounted⟩ := publish_contained rfl hc hu h
  have hsource : volume.source = "10.0.0.1@tcp:/fs1" := by
    obtain rfl := Option.some.inj hv
    decide +kernel
  refine ⟨pairs, volume, hc, hu, hv, hsource, h, ?_⟩
  rcases hmounted with ⟨-, -, hpublished⟩ | ⟨hbefore, -⟩
  · exact hpublished
  · -- The preparation has nothing to say.
    obtain rfl := Option.some.inj hv
    exact absurd List.nil_prefix hbefore

end

end Service

end VolumeAgent
