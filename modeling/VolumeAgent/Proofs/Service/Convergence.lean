import VolumeAgent.Proofs.Mount.Places
import VolumeAgent.Proofs.Mount.Recovery

/-!
# Publishing converges

`publish_converges`: if a publish without faults would succeed now, it still
does after any history of publishes and unpublishes of its target, whatever
calls of them failed and wherever they were cut off. What carries it is
`Ready`: no file is in the way of the request. One success shows that, every
call preserves it, and it is all that the next success needs.
-/

namespace VolumeAgent

open Host (Call Fault World)
open VolumeAgent.Path (Key)

def PublishRequest.subDir? (request : PublishRequest) : Option String :=
  request.volume?.bind request.provisions?

theorem PublishRequest.subDir?_eq {request : PublishRequest} (h : request.volume? = some volume) :
    request.subDir? = request.provisions? volume := by
  simp [PublishRequest.subDir?, h]

namespace Service

-- ---------------------------------------------------------------------------
-- Histories
-- ---------------------------------------------------------------------------

inductive Demand where
  | publish
  | unpublish (volumeId : String)

def Demand.attempt (o : Options) (request : PublishRequest) : Demand → Attempt Unit
  | publish => Service.publish o request
  | unpublish volumeId => Service.unpublish o ⟨volumeId, request.target⟩

structure Trial where
  demand : Demand
  faults : List Fault
  /-- How many calls are made before the agent dies, if it does. -/
  limit : Option Nat

def Trial.leave (o : Options) (request : PublishRequest) (w : World) (t : Trial) : World :=
  (t.demand.attempt o request).leave World.answer t.limit { w with faults := t.faults }

def aftermath (o : Options) (request : PublishRequest) (w : World) (history : List Trial) :
    World :=
  history.foldl (Trial.leave o request) w

-- ---------------------------------------------------------------------------
-- What every call preserves
-- ---------------------------------------------------------------------------

/-- Nothing on the host keeps a request from succeeding. -/
structure Ready (o : Options) (request : PublishRequest) (w : World) : Prop where
  overlay : w.overlay = true
  closed : w.Closed
  clear : w.Clear request.target.key
  room : ∀ subDir internal directory, request.subDir? = some subDir →
    Path.internal o.workingDir request.target = .ok internal →
    Path.internalVolume o.workingDir request.target subDir = .ok directory →
    Mount.Room internal.key directory.key w

section
variable {o : Options} {request : PublishRequest} {w : World}

theorem Ready.effect (h : Ready o request w) (he : World.Effect w c t) : Ready o request t where
  overlay := he.overlay.trans h.overlay
  closed := he.closed h.closed
  clear := he.clear h.clear
  room subDir internal directory hs hi hd := by
    obtain ⟨habs, hpre⟩ := Path.key_internalVolume hi hd
    exact (h.room subDir internal directory hs hi hd).effect habs hpre h.overlay he

theorem stable_ready : World.Stable (fun _ => True) (Ready o request) :=
  .of_effect fun _ he h => h.effect he

theorem Ready.withFaults (h : Ready o request w) (faults : List Fault) :
    Ready o request { w with faults } where
  overlay := h.overlay
  closed := h.closed
  clear := h.clear
  room subDir internal directory hs hi hd :=
    ⟨(h.room subDir internal directory hs hi hd).clear,
      (h.room subDir internal directory hs hi hd).beyond⟩

/-- A fault answers for the host and changes nothing, whatever it says. -/
theorem Ready.leave (h : Ready o request w) (t : Trial) : Ready o request (t.leave o request w) :=
  (Attempt.uses_all _).leave (stable_ready.answer fun _ faults h => h.withFaults faults)
    (h.withFaults t.faults) t.limit

theorem Ready.aftermath (h : Ready o request w) (history : List Trial) :
    Ready o request (aftermath o request w history) := by
  induction history generalizing w with
  | nil => exact h
  | cons t history ih => exact ih (h.leave t)

-- ---------------------------------------------------------------------------
-- Where mounts change in a history
-- ---------------------------------------------------------------------------

def Place (o : Options) (request : PublishRequest) (k : Key) : Prop :=
  k = request.target.key ∨ request.subDir? ≠ none ∧
    ∃ internal, Path.internal o.workingDir request.target = .ok internal ∧ k = internal.key

theorem publish_places : (publish o request).Uses (Call.Within (Place o request)) :=
  publish_within (.inl rfl) fun volume hv hs internal hi =>
    .inr ⟨by simpa [PublishRequest.subDir?, hv] using hs, internal, hi, rfl⟩

theorem Demand.attempt_places (d : Demand) :
    (d.attempt o request).Uses (Call.Within (Place o request)) := by
  cases d with
  | publish => exact publish_places
  | unpublish volumeId => exact unpublish_within (.inl rfl)

theorem mounts_aftermath (hk : ¬ Place o request k) (history : List Trial) :
    (aftermath o request w history).mounts.get? k = w.mounts.get? k := by
  induction history generalizing w with
  | nil => rfl
  | cons t history ih =>
    refine ih.trans ?_
    exact (t.demand.attempt_places).leave
      ((Mount.stable_mounts hk _).answer fun _ _ h => h) rfl t.limit

-- ---------------------------------------------------------------------------
-- What one success shows
-- ---------------------------------------------------------------------------

/-- What comes before the mount at the target, when nothing about the
request itself is wrong. -/
inductive Plan (o : Options) (request : PublishRequest) (volume : Volume) : Prop where
  | whole (hp : prepare o request volume = pure ()) (hs : request.provisions? volume = none)
  | subDir (hs : request.provisions? volume = some subDir)
    (hi : Path.internal o.workingDir request.target = .ok internal)
    (hd : Path.internalVolume o.workingDir request.target subDir = .ok directory)
    (hstrict : Path.isStrictSubpath subDir = true)
    (hp : prepare o request volume = Mount.provision o volume request.target subDir
      (mountOptions request.readonly request.mountFlags).1)

theorem prepare_plan (o : Options) (request : PublishRequest) (volume : Volume) :
    (∃ f, prepare o request volume = throw f) ∨ Plan o request volume := by
  rcases prepare_cases o request volume with ⟨f, hp⟩ | ⟨hs, hp⟩ | ⟨subDir, hs, hstrict, hp⟩
  · exact .inl ⟨f, hp⟩
  · exact .inr (.whole hp hs)
  · cases hi : Path.internal o.workingDir request.target with
    | error f =>
      exact .inl ⟨f, by rw [hp, Mount.provision, hi, Attempt.ofExcept_error_bind]⟩
    | ok internal =>
      exact .inr (.subDir hs hi (Path.internalVolume_of_internal hi hstrict) hstrict hp)

theorem publish_plan (h : ((publish o request).runOn w).1 = .ok ()) :
    ∃ resolution, request.resolution? = some resolution ∧
      publish o request = deliver o request resolution ∧ Plan o request resolution.volume := by
  rcases publish_cases o request with ⟨f, hp⟩ | ⟨resolution, hr, hp⟩
  · rw [hp] at h
    cases h
  · refine ⟨resolution, hr, hp, ?_⟩
    refine (prepare_plan o request resolution.volume).resolve_left ?_
    rintro ⟨f, hf⟩
    rw [hp, runOn_deliver, hf] at h
    cases h

theorem attach_opens (hcl : w.Closed) :
    Triple World.faultless (attach o request volume) w
      (fun _ _ => w.Clear request.target.key) (fun _ _ => True) := by
  refine Triple.bind ((Mount.ensureMountPoint_spec fun _ _ => trivial).mono (fun _ _ h => h)
    fun _ _ _ => trivial) ?_
  intro mounted t h
  have hc : w.Clear request.target.key := by
    cases mounted with
    | true => exact hcl.clear h.2.2
    | false =>
      obtain ⟨u, hu, hc, -⟩ := h
      exact Mount.clear_of_repaired hu hc
  exact triple_of_forall (fun _ _ => hc) fun _ _ => trivial

/-- A preparation that succeeds had room, and leaves every file on the way
to a target apart from it. -/
theorem prepare_opens (hcl : w.Closed) (hplan : Plan o request volume)
    (hapart : request.target.key.Apart o.workingDir.key) :
    Triple World.faultless (prepare o request volume) w
      (fun _ t => (∀ subDir internal directory, request.provisions? volume = some subDir →
          Path.internal o.workingDir request.target = .ok internal →
          Path.internalVolume o.workingDir request.target subDir = .ok directory →
          Mount.Room internal.key directory.key w) ∧
        t.Closed ∧ ∀ j ∈ request.target.key.chain,
          w.nodes.get? j = some .file → t.nodes.get? j = some .file)
      (fun _ _ => True) := by
  cases hplan with
  | whole hp hs =>
    rw [hp]
    refine triple_pure.mpr ⟨?_, hcl, fun _ _ h => h⟩
    intro subDir internal directory hsome
    simp [hs] at hsome
  | @subDir subDir internal directory hs hi hd hstrict hp =>
    -- All that is unmounted is the internal mount, which is elsewhere.
    have hfar := hapart.append (Path.names_internal hi)
    have hstable : World.Stable (Call.Within (· = internal.key)) fun t =>
        t.Closed ∧ ∀ j ∈ request.target.key.chain,
          w.nodes.get? j = some .file → t.nodes.get? j = some .file := by
      refine .of_effect fun hc he h => ⟨he.closed h.1, fun j hj hfile => ?_⟩
      exact he.keeps_file hc (fun k hk => hk ▸ hfar.not_below hj) (h.2 j hj hfile)
    have hwithin : ∀ p, Path.internal o.workingDir request.target = .ok p → p.key = internal.key := by
      intro p hp
      obtain rfl : internal = p := by simpa [hi] using hp
      rfl
    rw [hp]
    refine ((Mount.provision_opens hcl hi hd).keep (Mount.provision_within hwithin)
      hstable.faulty ⟨hcl, fun _ _ h => h⟩).mono ?_ fun _ _ _ => trivial
    rintro _ t ⟨hroom, ht⟩
    refine ⟨?_, ht⟩
    intro subDir' internal' directory' hs' hi' hd'
    obtain rfl : subDir = subDir' := by simpa [hs] using hs'
    obtain rfl : internal = internal' := by simpa [hi] using hi'
    obtain rfl : directory = directory' := by simpa [hd] using hd'
    exact hroom

theorem deliver_opens (ho : w.overlay = true) (hcl : w.Closed)
    (hr : request.resolution? = some resolution) (hplan : Plan o request resolution.volume)
    (hapart : request.target.key.Apart o.workingDir.key) :
    Triple World.faultless (deliver o request resolution) w
      (fun _ _ => Ready o request w) (fun _ _ => True) := by
  refine triple_deliver.mpr ((prepare_opens hcl hplan hapart).mono ?_ fun _ _ h => h)
  rintro _ t ⟨hroom, hclosed, hfiles⟩
  refine (attach_opens hclosed).mono ?_ fun _ _ h => h
  intro _ _ hc
  have hsub := PublishRequest.subDir?_eq (PublishRequest.volume?_eq hr)
  exact ⟨ho, hcl, fun j hj hfile => hc j hj (hfiles j hj hfile), hsub ▸ hroom⟩

-- ---------------------------------------------------------------------------
-- Where everything is ready
-- ---------------------------------------------------------------------------

def Released (o : Options) (request : PublishRequest) (w : World) : Prop :=
  request.subDir? ≠ none → ∀ internal, Path.internal o.workingDir request.target = .ok internal →
    w.mounts.get? internal.key = none

theorem attach_succeeds (hc : w.Clear request.target.key) (hp : request.target.key.names ≠ []) :
    Triple World.faultless (attach o request volume) w
      (fun _ t => Mount.Healthy t request.target) (fun _ _ => False) := by
  refine Triple.bind_sure (Mount.ensureMountPoint_succeeds hc) ?_
  intro mounted t h
  cases mounted with
  | true =>
    obtain ⟨rfl, hh⟩ := h
    simpa using hh
  | false =>
    obtain ⟨-, rfl⟩ := h
    refine Triple.bind_sure (Mount.mountOrRemoveTarget_succeeds (World.clear_withDirs hc _)) ?_
    rintro _ u rfl
    refine triple_note.mpr ⟨by simp [World.mounts_withMount], ?_⟩
    simp [World.node?_eq _ hp, World.nodes_withDirs, Key.mem_chain_self hp]

theorem prepare_succeeds (h : Ready o request w) (hv : request.volume? = some volume)
    (hplan : Plan o request volume) :
    Triple World.faultless (prepare o request volume) w
      (fun _ t => Ready o request t ∧ Released o request t) (fun _ _ => False) := by
  have hsub := PublishRequest.subDir?_eq hv
  cases hplan with
  | whole hp hs =>
    rw [hp]
    exact triple_pure.mpr ⟨h, fun hn => absurd (hsub.trans hs) hn⟩
  | @subDir subDir internal _ hs hi hd hstrict hp =>
    have hroom := h.room _ _ _ (hsub.trans hs) hi hd
    have hdone : Triple World.faultless (prepare o request volume) w (fun _ _ => True)
        (fun _ _ => False) :=
      hp ▸ Mount.provision_succeeds h.overlay h.closed hi hd hroom
    have hnone : Triple World.faultless (prepare o request volume) w
        (fun _ t => t.mounts.get? internal.key = none)
        (fun _ t => Mount.Visible w internal → t.mounts.get? internal.key = none) :=
      hp ▸ Mount.provision_unmounts (fun _ _ => trivial) hi hstrict
    refine ((hdone.and hnone).keep (Attempt.uses_all _) stable_ready.faulty h).mono ?_
      fun _ _ hf => hf.1.1
    rintro _ t ⟨⟨-, hnone⟩, ht⟩
    refine ⟨ht, fun _ internal' hi' => ?_⟩
    obtain rfl := Except.ok.inj (hi.symm.trans hi')
    exact hnone

theorem deliver_succeeds (h : Ready o request w) (hr : request.resolution? = some resolution)
    (hplan : Plan o request resolution.volume)
    (hapart : request.target.key.Apart o.workingDir.key) :
    Triple World.faultless (deliver o request resolution) w
      (fun _ t => Mount.Healthy t request.target ∧ Released o request t) (fun _ _ => False) := by
  have hv := PublishRequest.volume?_eq hr
  refine triple_deliver.mpr ((prepare_succeeds h hv hplan).mono ?_ fun _ _ h => h)
  rintro _ t ⟨ht, hnone⟩
  have hstable : World.Stable (Call.Within (· = request.target.key)) (Released o request) := by
    intro c t hc ht hs internal hi
    have hne : ¬ internal.key = request.target.key := Path.internal_ne hi hapart
    exact Mount.stable_mounts (P := (· = request.target.key)) hne none c t hc (ht hs internal hi)
  exact ((attach_succeeds ht.clear hapart.names_ne_nil).keep
    (attach_within (P := (· = request.target.key)) rfl) hstable.faulty hnone).mono
    (fun _ _ h => h) fun _ _ h => h.1

-- ---------------------------------------------------------------------------
-- Convergence
-- ---------------------------------------------------------------------------

theorem ready_of_publish (ho : w.overlay = true) (hcl : w.Closed)
    (hapart : request.target.key.Apart o.workingDir.key)
    (hok : ((publish o request).runOn w.calm).1 = .ok ()) : Ready o request w := by
  obtain ⟨resolution, hr, hp, hplan⟩ := publish_plan hok
  rw [hp] at hok
  have hrun := (deliver_opens (w := w.calm) ho hcl hr hplan hapart).runOn_faultless rfl
  cases hres : (deliver o request resolution).runOn w.calm with
  | mk r t =>
    rw [hres] at hok hrun
    obtain rfl : r = .ok () := hok
    exact hrun.1.withFaults w.faults

/-- After any history of a target, a publish without faults succeeds if it
would have before. The target is then a healthy mount point, the internal
path is not mounted if the request creates a sub-directory, and every other
mount is as it was. -/
theorem publish_converges (ho : w.overlay = true) (hcl : w.Closed)
    (hapart : request.target.key.Apart o.workingDir.key)
    (hok : ((publish o request).runOn w.calm).1 = .ok ()) (history : List Trial) :
    ∃ after, (publish o request).runOn (aftermath o request w history).calm = (.ok (), after) ∧
      Mount.Healthy after request.target ∧
      (∀ internal, Path.internal o.workingDir request.target = .ok internal →
        after.mounts.get? internal.key =
          if request.subDir? = none then w.mounts.get? internal.key else none) ∧
      ∀ k, k ≠ request.target.key →
        (∀ internal, Path.internal o.workingDir request.target = .ok internal →
          k ≠ internal.key) →
        after.mounts.get? k = w.mounts.get? k := by
  have hready : Ready o request (aftermath o request w history).calm :=
    ((ready_of_publish ho hcl hapart hok).aftermath history).withFaults []
  obtain ⟨resolution, hr, hp, hplan⟩ := publish_plan hok
  -- Elsewhere neither the history nor the last publish changes a mount.
  have hkeep : ∀ k, ¬ Place o request k →
      ((publish o request).runOn (aftermath o request w history).calm).2.mounts.get? k =
        w.mounts.get? k := fun k hk =>
    (Mount.mounts_runOn publish_places hk _).trans (mounts_aftermath hk history)
  have hrun := (deliver_succeeds hready hr hplan hapart).runOn_faultless rfl
  rw [hp] at hkeep ⊢
  cases hres : (deliver o request resolution).runOn (aftermath o request w history).calm with
  | mk r after =>
    rw [hres] at hrun hkeep
    cases r with
    | error f => exact hrun.1.elim
    | ok u =>
      obtain ⟨⟨hhealthy, hnone⟩, -⟩ := hrun
      refine ⟨after, rfl, hhealthy, fun internal hi => ?_, fun k hk hki => hkeep k ?_⟩
      · have hne : internal.key ≠ request.target.key :=
          (hapart.append (Path.names_internal hi)).ne.symm
        split
        · rename_i hs
          refine hkeep _ ?_
          rintro (he | ⟨hs', -⟩)
          · exact hne he
          · exact hs' hs
        · rename_i hs
          exact hnone hs internal hi
      · rintro (he | ⟨-, internal, hi, he⟩)
        · exact hk he
        · exact hki internal hi he

end

def overlayHost : World := { overlay := true }

/-- A publish dies with the internal mount in place, the target cannot be
unpublished, a publish finds no space for its directories, and another dies
as it probes. -/
def brokenHistory : List Trial :=
  [⟨.publish, [], some 4⟩,
    ⟨.unpublish "fs1", [⟨.pathExists, none, 0, none, .fails (.os 5)⟩], none⟩,
    ⟨.publish, [⟨.createDirAll, none, 1, some 1, .fails (.os 28)⟩], none⟩,
    ⟨.publish, [⟨.readDir, none, 0, none, .fails (.os 116)⟩], some 2⟩]

theorem publish_converges_brokenHistory :
    overlayHost.overlay = true ∧ overlayHost.Closed ∧
      (Path.key ⟨"/a"⟩).Apart (Path.key ⟨"/tmp"⟩) ∧
      ((publish {} .ofSubDir).runOn overlayHost.calm).1 = .ok () ∧
      ∃ after, (publish {} .ofSubDir).runOn
          (aftermath {} .ofSubDir overlayHost brokenHistory).calm = (.ok (), after) ∧
        Mount.Healthy after ⟨"/a"⟩ ∧
        (∀ internal, Path.internal ⟨"/tmp"⟩ ⟨"/a"⟩ = .ok internal →
          after.mounts.get? internal.key =
            if PublishRequest.ofSubDir.subDir? = none then overlayHost.mounts.get? internal.key
            else none) ∧
        ∀ k, k ≠ Path.key ⟨"/a"⟩ →
          (∀ internal, Path.internal ⟨"/tmp"⟩ ⟨"/a"⟩ = .ok internal → k ≠ internal.key) →
          after.mounts.get? k = overlayHost.mounts.get? k := by
  have hcl : overlayHost.Closed := fun k hk => absurd rfl hk
  have hapart : (Path.key ⟨"/a"⟩).Apart (Path.key ⟨"/tmp"⟩) := by decide +kernel
  have hok : ((publish {} .ofSubDir).runOn overlayHost.calm).1 = .ok () := rfl
  exact ⟨rfl, hcl, hapart, hok, publish_converges (o := {}) rfl hcl hapart hok brokenHistory⟩

/-- The internal mount is still there after the second trial. -/
example : (aftermath {} .ofSubDir overlayHost (brokenHistory.take 2)).mounts.has
    (Path.key ⟨"/tmp/a"⟩) = true := by
  decide +kernel

end Service

end VolumeAgent
