import VolumeAgent.Proofs.Host.Exchanges
import VolumeAgent.Proofs.Service.Convergence

/-!
# Publishing again

`publish_repeats`: on a host without faults, a publish that has succeeded
succeeds again, leaves the mount at its target alone and the mount table as
it was. What carries it is `Settled`. A success leaves it behind, whatever
the host was like before; a second run needs no more to succeed, although it
creates the sub-directory again.
-/

namespace VolumeAgent

open Host (Call World)
open VolumeAgent.Path (Key)

namespace Mount

structure Cleared (internal directory : Key) (w : World) : Prop where
  unmounted : w.mounts.get? internal = none
  clear : w.Clear internal
  beyond : w.Clear directory

theorem Cleared.effect (h : Cleared internal directory w) (he : World.Effect w c t)
    (hc : c.changesMounts = true → internal ≠ c.path.key) : Cleared internal directory t :=
  ⟨(he.mounts_ne hc).trans h.unmounted, he.clear h.clear, he.clear h.beyond⟩

section
variable {w : World}

-- ---------------------------------------------------------------------------
-- What a success leaves behind
-- ---------------------------------------------------------------------------

theorem mountInternal_clears :
    Triple World.faultless (mountInternal o volume p options) w
      (fun _ t => t.Clear p.key) (fun _ _ => True) := by
  have hmount : ∀ t : World,
      Triple World.faultless (mountOrRemoveTarget o volume.source p lustre options) t
        (fun _ u => u.Clear p.key) (fun _ _ => True) := by
    intro t
    refine mountOrRemoveTarget_spec.mono ?_ fun _ _ _ => trivial
    rintro _ u ⟨hc, rfl⟩
    exact World.clear_withDirs hc _
  refine Triple.bind (R := fun _ _ => True) (triple_of_forall (by simp) (by simp)) ?_
  intro mounted t _
  cases mounted with
  | false => exact hmount t
  | true =>
    simp only [if_true, triple_bind, triple_note]
    exact triple_outcome.mpr (triple_of_forall (fun _ u => hmount u) fun _ _ => trivial)

theorem provision_clears (hi : Path.internal o.workingDir target = .ok internal)
    (hd : Path.internalVolume o.workingDir target subDir = .ok directory)
    (hsub : Path.isStrictSubpath subDir = true) :
    Triple World.faultless (provision o volume target subDir options) w
      (fun _ t => Cleared internal.key directory.key t) (fun _ _ => True) := by
  have hclear : Triple World.faultless (provision o volume target subDir options) w
      (fun _ t => t.Clear internal.key ∧ t.Clear directory.key) (fun _ _ => True) := by
    unfold provision
    simp only [hi, hd, Attempt.ofExcept_ok_bind]
    refine Triple.bind mountInternal_clears ?_
    intro _ t ht
    refine Triple.ask_spared trivial ?_
    by_cases hc : t.Clear directory.key
    · -- The way stays clear while the internal mount is released.
      have hstable : World.Stable (fun _ => True) fun u =>
          u.Clear internal.key ∧ u.Clear directory.key :=
        .of_effect fun _ he h => ⟨he.clear h.1, he.clear h.2⟩
      simp only [World.perform, World.createdDirs_of_clear hc]
      refine Triple.bind_sure ((release_succeeds.keep (Attempt.uses_all _) hstable.faulty
        ⟨World.clear_withDirs ht _, World.clear_withDirs hc _⟩).mono (fun _ _ h => h.2)
        fun _ _ h => h.1) ?_
      intro _ u hu
      exact hu
    · obtain ⟨e, he⟩ := World.createdDirs_of_not_clear hc
      simp only [World.perform, he]
      exact Triple.bind_sure release_succeeds fun _ _ _ => trivial
  refine (hclear.and (provision_unmounts (fun _ _ => trivial) hi hsub)).mono ?_ fun _ _ _ => trivial
  rintro _ t ⟨⟨hci, hcd⟩, hnone⟩
  exact ⟨hnone, hci, hcd⟩

-- ---------------------------------------------------------------------------
-- What is enough to succeed
-- ---------------------------------------------------------------------------

theorem provision_repeats (hi : Path.internal o.workingDir target = .ok internal)
    (hd : Path.internalVolume o.workingDir target subDir = .ok directory)
    (h : Cleared internal.key directory.key w) :
    Triple World.faultless (provision o volume target subDir options) w
      (fun _ _ => True) (fun _ _ => False) := by
  unfold provision mountInternal
  simp only [hi, hd, Attempt.ofExcept_ok_bind, bind_assoc]
  refine Triple.bind_sure (ensureMountPoint_succeeds h.clear) ?_
  intro mounted t ht
  cases mounted with
  | true =>
    obtain ⟨-, hm, -⟩ := ht
    exact absurd h.unmounted hm
  | false =>
    obtain ⟨-, rfl⟩ := ht
    refine Triple.bind_sure
      (mountOrRemoveTarget_succeeds (World.clear_withDirs h.clear _)) ?_
    rintro _ u rfl
    -- Neither the internal directory nor the mount puts a file in the way.
    have hc : (((w.withDirs internal.key).withDirs internal.key).withMount internal.key
        (entryOf o volume.source lustre options)).Clear directory.key :=
      World.clear_withDirs (World.clear_withDirs h.beyond _) _
    refine Triple.ask_spared trivial ?_
    simp only [World.perform, World.createdDirs_of_clear hc]
    exact Triple.bind_sure release_succeeds fun _ _ _ => trivial

theorem stable_provisions (hi : Path.internal o.workingDir target = .ok internal)
    (hne : internal.key ≠ target.key) (w : World) :
    World.Stable (Provisions o target subDir) fun t =>
      t.node? target = some .directory ∧
        ∀ k, k ≠ internal.key → t.mounts.get? k = w.mounts.get? k := by
  refine .of_effect ?_
  intro c w' t hc he h
  obtain ⟨hwithin, haside⟩ := hc.aside hi hne
  refine ⟨he.keeps_directory haside h.1, fun k hk => ?_⟩
  have hkc : c.changesMounts = true → k ≠ c.path.key := fun hm heq => hk (heq.trans (hwithin hm))
  exact (he.mounts_ne hkc).trans (h.2 k hk)

theorem ensureMountPoint_healthy {K : Contract World} (hm : World.Carries K (.isMountPoint p))
    (hr : World.Carries K (.readDir p)) (h : Healthy w p) :
    Triple K (ensureMountPoint p) w (fun mounted t => mounted = true ∧ t = w)
      (fun _ _ => False) := by
  have hprobe : Triple K (probe p) w (fun state t => state = .healthy ∧ t = w)
      (fun _ _ => False) := by
    refine Triple.ask_carried hm ?_
    simp only [World.perform, h.2, Host.Table.has_eq_true.mpr h.1, Option.isSome_some, if_true]
    refine Triple.ask_carried hr ?_
    simp [World.perform, h.2]
  refine Triple.bind_sure hprobe ?_
  rintro _ _ ⟨rfl, rfl⟩
  simp

end

end Mount

namespace Service

section
variable {o : Options} {request : PublishRequest} {w : World}

def InternalElsewhere (o : Options) (request : PublishRequest) : Prop :=
  request.subDir? ≠ none → ∀ internal, Path.internal o.workingDir request.target = .ok internal →
    internal.key ≠ request.target.key

def Prepared (o : Options) (request : PublishRequest) (w : World) : Prop :=
  ∀ subDir internal directory, request.subDir? = some subDir →
    Path.internal o.workingDir request.target = .ok internal →
    Path.internalVolume o.workingDir request.target subDir = .ok directory →
    Mount.Cleared internal.key directory.key w

structure Settled (o : Options) (request : PublishRequest) (w : World) : Prop where
  healthy : Mount.Healthy w request.target
  prepared : Prepared o request w

-- ---------------------------------------------------------------------------
-- The first run
-- ---------------------------------------------------------------------------

theorem prepare_prepares (hv : request.volume? = some volume) (hplan : Plan o request volume) :
    Triple World.faultless (prepare o request volume) w
      (fun _ t => Prepared o request t) (fun _ _ => True) := by
  have hsub := PublishRequest.subDir?_eq hv
  cases hplan with
  | whole hp hs =>
    rw [hp]
    refine triple_pure.mpr ?_
    intro subDir internal directory hsome
    simp [hsub, hs] at hsome
  | subDir hs hi hd hstrict hp =>
    rw [hp]
    refine (Mount.provision_clears hi hd hstrict).mono ?_ fun _ _ _ => trivial
    intro _ t ht subDir internal directory hs' hi' hd'
    obtain rfl := Option.some.inj ((hsub.trans hs).symm.trans hs')
    obtain rfl := Except.ok.inj (hi.symm.trans hi')
    obtain rfl := Except.ok.inj (hd.symm.trans hd')
    exact ht

theorem attach_heals (ht : request.target.isEmpty = false) :
    Triple World.faultless (attach o request volume) w
      (fun _ t => Mount.Healthy t request.target) (fun _ _ => True) := by
  refine Triple.bind ((Mount.ensureMountPoint_spec fun _ _ => trivial).mono (fun _ _ h => h)
    fun _ _ _ => trivial) ?_
  intro mounted t h
  cases mounted with
  | true =>
    obtain ⟨rfl, hh⟩ := h
    simpa using hh
  | false =>
    refine Triple.bind (Mount.mountOrRemoveTarget_spec.mono (fun _ _ h => h)
      fun _ _ _ => trivial) ?_
    rintro _ u ⟨-, rfl⟩
    refine triple_note.mpr ⟨by simp [World.mounts_withMount], World.node?_eq_directory.mpr ⟨ht, ?_⟩⟩
    by_cases hp : request.target.key.names = []
    · exact .inl hp
    · exact .inr (by simp [World.nodes_withDirs, Key.mem_chain_self hp])

theorem deliver_settles (hr : request.resolution? = some resolution)
    (hplan : Plan o request resolution.volume) (ht : request.target.isEmpty = false)
    (hne : InternalElsewhere o request) :
    Triple World.faultless (deliver o request resolution) w
      (fun _ t => Settled o request t) (fun _ _ => True) := by
  have hv := PublishRequest.volume?_eq hr
  refine triple_deliver.mpr ((prepare_prepares hv hplan).mono ?_ fun _ _ h => h)
  intro _ t hprepared
  have hstable : World.Stable (Call.Within (· = request.target.key)) (Prepared o request) := by
    refine .of_effect ?_
    intro c u v hc he h subDir internal directory hs hi hd
    have hfar : c.changesMounts = true → internal.key ≠ c.path.key := fun hm hk =>
      hne (by simp [hs]) internal hi (hk.trans (hc hm))
    exact (h subDir internal directory hs hi hd).effect he hfar
  have hwithin : (attach o request resolution.volume).Uses (Call.Within (· = request.target.key)) :=
    attach_within rfl
  exact ((attach_heals ht).keep hwithin hstable.faulty hprepared).mono
    (fun _ _ h => ⟨h.1, h.2⟩) fun _ _ _ => trivial

-- ---------------------------------------------------------------------------
-- The second run
-- ---------------------------------------------------------------------------

theorem prepare_repeats (h : Settled o request w) (hv : request.volume? = some volume)
    (hplan : Plan o request volume) (hne : InternalElsewhere o request) :
    Triple World.faultless (prepare o request volume) w
      (fun _ t => Mount.Healthy t request.target ∧ ∀ k, t.mounts.get? k = w.mounts.get? k)
      (fun _ _ => False) := by
  have hsub := PublishRequest.subDir?_eq hv
  cases hplan with
  | whole hp hs =>
    rw [hp]
    exact triple_pure.mpr ⟨h.healthy, fun _ => rfl⟩
  | @subDir subDir internal directory hs hi hd hstrict hp =>
    have hcleared := h.prepared _ _ _ (hsub.trans hs) hi hd
    have hfar := hne (by simp [hsub, hs]) internal hi
    have hnone : Triple World.faultless (prepare o request volume) w
        (fun _ t => t.mounts.get? internal.key = none)
        (fun _ t => Mount.Visible w internal → t.mounts.get? internal.key = none) :=
      hp ▸ Mount.provision_unmounts (fun _ _ => trivial) hi hstrict
    have hdone : Triple World.faultless (prepare o request volume) w (fun _ _ => True)
        (fun _ _ => False) :=
      hp ▸ Mount.provision_repeats hi hd hcleared
    refine ((hdone.and hnone).keep (hp ▸ Mount.provision_calls)
      (Mount.stable_provisions hi hfar w).faulty ⟨h.healthy.2, fun _ _ => rfl⟩).mono ?_
      fun _ _ hf => hf.1.1
    rintro _ t ⟨⟨-, hnone⟩, hdir, hmounts⟩
    have hsame : ∀ k, t.mounts.get? k = w.mounts.get? k := by
      intro k
      by_cases hk : k = internal.key
      · rw [hk, hnone, hcleared.unmounted]
      · exact hmounts k hk
    exact ⟨⟨hsame _ ▸ h.healthy.1, hdir⟩, hsame⟩

theorem attach_repeats {K : Contract World} (hm : World.Carries K (.isMountPoint request.target))
    (hr : World.Carries K (.readDir request.target)) (h : Mount.Healthy w request.target) :
    Triple K (attach o request volume) w (fun _ t => t = w) (fun _ _ => False) := by
  refine Triple.bind_sure (Mount.ensureMountPoint_healthy hm hr h) ?_
  rintro _ _ ⟨rfl, rfl⟩
  simp

theorem deliver_repeats (h : Settled o request w) (hr : request.resolution? = some resolution)
    (hplan : Plan o request resolution.volume) (hne : InternalElsewhere o request) :
    Triple (World.faultless.restrict (Call.Within (· ≠ request.target.key)))
      (deliver o request resolution) w
      (fun _ t => ∀ k, t.mounts.get? k = w.mounts.get? k) (fun _ _ => False) := by
  have hv := PublishRequest.volume?_eq hr
  have hu : (prepare o request resolution.volume).Uses (Call.Within (· ≠ request.target.key)) :=
    prepare_within fun hs internal hi =>
      hne (by simpa [PublishRequest.subDir?, hv] using hs) internal hi
  refine triple_deliver.mpr (((prepare_repeats h hv hplan hne).restrict hu).mono ?_ fun _ _ h => h)
  rintro _ t ⟨hhealthy, hsame⟩
  have hm : World.Carries World.faultless (.isMountPoint request.target) :=
    World.carries_faulty trivial
  have hread : World.Carries World.faultless (.readDir request.target) :=
    World.carries_faulty trivial
  refine (attach_repeats (hm.restrict (Mount.within_of_still rfl))
    (hread.restrict (Mount.within_of_still rfl)) hhealthy).mono ?_ fun _ _ h => h
  rintro _ _ rfl
  exact hsame

-- ---------------------------------------------------------------------------
-- Both runs
-- ---------------------------------------------------------------------------

theorem target_of_publish (h : ((publish o request).runOn w).1 = .ok ()) :
    request.target.isEmpty = false := by
  cases ht : request.target.isEmpty with
  | false => rfl
  | true =>
    unfold publish at h
    cases hid : request.volumeId.isEmpty <;> simp only [hid, ht] at h <;> cases h

/-- A publish without faults that has succeeded succeeds again, with the same
mounts and without a change of the mount at its target. -/
theorem publish_repeats (hw : w.faults = []) (hne : InternalElsewhere o request)
    (h : (publish o request).runOn w = (.ok (), after)) :
    ∃ again, (publish o request).runOn after = (.ok (), again) ∧
      (∀ x ∈ (publish o request).exchangesOn after,
        x.call.changesMounts = true → x.call.path.key ≠ request.target.key) ∧
      ∀ k, again.mounts.get? k = after.mounts.get? k := by
  have hok : ((publish o request).runOn w).1 = .ok () := congrArg Prod.fst h
  obtain ⟨resolution, hr, hp, hplan⟩ := publish_plan hok
  have ht := target_of_publish hok
  rw [hp] at h ⊢
  have hfirst := (deliver_settles (w := w) hr hplan ht hne).runOn_faultless hw
  rw [h] at hfirst
  obtain ⟨hsettled, hfaults⟩ := hfirst
  have hcalm := World.calm_eq_self hfaults
  have hsecond := deliver_repeats (hcalm.symm ▸ hsettled) hr hplan hne
  have hkeeps := (World.keeps_faulty fun _ => True).restrict (Call.Within (· ≠ request.target.key))
  have hspares : ∀ f ∈ after.faults, f.Spares fun _ => True := by simp [hfaults]
  have hrun := hsecond.runOn_of_keeps hkeeps hspares
  cases hagain : (deliver o request resolution).runOn after with
  | mk r again =>
    rw [hagain] at hrun
    cases r with
    | error f => exact hrun.elim
    | ok u =>
      refine ⟨again, rfl, fun x hx => ?_, hrun⟩
      obtain ⟨-, -, hallowed⟩ := Routine.Meets.allowed hkeeps hspares hsecond hx
      exact hallowed

end

/-- An internal mount was left. Without an overlay the directory made in the
new one is left as well, so neither run can remove the internal path. -/
theorem publish_repeats_leftMount :
    Mount.leftMount.calm.faults = [] ∧ InternalElsewhere {} .ofSubDir ∧
      (publish {} .ofSubDir).runOn Mount.leftMount.calm =
        (.ok (), ((publish {} .ofSubDir).runOn Mount.leftMount.calm).2) ∧
      ∃ again, (publish {} .ofSubDir).runOn
          ((publish {} .ofSubDir).runOn Mount.leftMount.calm).2 = (.ok (), again) ∧
        (∀ x ∈ (publish {} .ofSubDir).exchangesOn
            ((publish {} .ofSubDir).runOn Mount.leftMount.calm).2,
          x.call.changesMounts = true → x.call.path.key ≠ Path.key ⟨"/a"⟩) ∧
        ∀ k, again.mounts.get? k =
          ((publish {} .ofSubDir).runOn Mount.leftMount.calm).2.mounts.get? k := by
  have hne : InternalElsewhere {} .ofSubDir := by
    intro _ internal hi
    obtain rfl : (⟨"/tmp/a"⟩ : Path) = internal := Except.ok.inj hi
    decide +kernel
  have h : (publish {} .ofSubDir).runOn Mount.leftMount.calm =
      (.ok (), ((publish {} .ofSubDir).runOn Mount.leftMount.calm).2) := rfl
  exact ⟨rfl, hne, h, publish_repeats rfl hne h⟩

end Service

end VolumeAgent
