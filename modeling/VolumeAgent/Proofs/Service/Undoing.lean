import VolumeAgent.Proofs.Host.Exchanges
import VolumeAgent.Proofs.Service.Convergence

/-!
# What a failed publish leaves behind

`publish_undoes`: whichever calls fail, a publish that fails leaves no mount
of its own at the target, and no directory where there was nothing, unless
the removal of the target is what failed last. Then the message says so and
repeats the failure of the mount, and the last two exchanges of the run are
those two.
-/

namespace VolumeAgent

open Host (Call World)
open VolumeAgent.Path (Key)

-- ---------------------------------------------------------------------------
-- What a message tells
-- ---------------------------------------------------------------------------

namespace Failure

theorem status_of_message {f : Failure} (h : "Internal error".toList <+: f.message.toList) :
    f.status = .internal := by
  unfold message kind FailureClass.report at h
  cases hs : f.status <;> simp [hs, FailureClass.title] at h ⊢

theorem detail_of_message {f : Failure}
    (h : "Internal error: Could not remove mount target".toList <+: f.message.toList) :
    f.status = .internal ∧ "Could not remove mount target".toList <+: f.detail.toList := by
  have hs : f.status = .internal := by
    refine status_of_message (List.IsPrefix.trans ?_ h)
    simp
  refine ⟨hs, ?_⟩
  unfold message kind FailureClass.report at h
  simpa [hs, FailureClass.title] using h

/-- No other failure is worded like a target that could not be removed. -/
theorem eq_of_message {f : Failure}
    (h : "Internal error: Could not remove mount target".toList <+: f.message.toList) :
    ∃ target cause after, f = .mountTargetNotRemoved target cause after := by
  obtain ⟨hs, h⟩ := detail_of_message h
  cases f with
  | mountTargetNotRemoved target cause after => exact ⟨target, cause, after, rfl⟩
  | _ =>
    unfold detail at h
    simp [status] at h hs

theorem message_mountTargetNotRemoved (target : Path) (cause : Host.IoError) (after : Failure) :
    "Internal error: Could not remove mount target".toList <+:
        (mountTargetNotRemoved target cause after).message.toList ∧
      after.message.toList <:+: (mountTargetNotRemoved target cause after).message.toList := by
  have hm : (mountTargetNotRemoved target cause after).message =
      "Internal error" ++ ": " ++ ("Could not remove mount target " ++ Text.quoted target.text
        ++ ": " ++ cause.text ++ " (after: " ++ after.message ++ ")") := rfl
  rw [hm]
  simp only [String.toList_append]
  refine ⟨?_, (List.infix_append _ _ _).trans (List.suffix_append _ _).isInfix⟩
  simp

end Failure

-- ---------------------------------------------------------------------------
-- What is left of a target
-- ---------------------------------------------------------------------------

def Unmade (p : Path) (w t : World) : Prop :=
  t.mounts.get? p.key = none ∨ t.mounts.get? p.key = w.mounts.get? p.key

/-- No new mount at `p`, and nothing where nothing was, unless `p` could not
be removed. -/
structure Undone (p : Path) (w : World) (f : Failure) (t : World) : Prop where
  mount : Unmade p w t
  node : w.node? p = none →
    t.node? p = none ∨ ∃ cause after, f = .mountTargetNotRemoved p cause after

structure Untouched (p : Path) (w t : World) : Prop where
  mount : t.mounts.get? p.key = w.mounts.get? p.key
  node : w.node? p = none → t.node? p = none

theorem Untouched.undone (h : Untouched p w t) : Undone p w f t :=
  ⟨.inr h.mount, fun hn => .inl (h.node hn)⟩

theorem Undone.after (h : Undone p t f u) (ht : Untouched p w t) : Undone p w f u :=
  ⟨h.mount.imp_right (·.trans ht.mount), fun hn => h.node (ht.node hn)⟩

namespace Mount

section
variable {spared : Call → Prop} {w : World}

theorem probe_still :
    Triple (World.faulty spared) (probe p) w (fun _ t => t = w) (fun _ t => t = w) := by
  refine Triple.ask trivial ?_
  rintro (e | mounted) t ht
  · obtain rfl := World.eq_of_faulty rfl ht
    simp only
    split
    · simp
    · split <;> simp
  · obtain rfl := World.eq_of_faulty rfl ht
    cases mounted with
    | false => simp
    | true =>
      refine Triple.ask trivial ?_
      rintro (e | entries) u hu <;> obtain rfl := World.eq_of_faulty rfl hu <;> simp

theorem unmount_faulty :
    Triple (World.faulty spared) (unmount p) w (fun _ t => t = w.withoutMount p.key)
      (fun _ t => t = w) := by
  refine Triple.askLocked trivial ?_
  rintro (e | ⟨⟨⟩⟩) t (h | ⟨-, ⟨e', he⟩, rfl⟩)
  · exact (World.unmounted_error h).2
  · simp
  · exact (World.unmounted_ok h).2
  · cases he

/-- Where it fails, the directory was not made, so nothing is new. -/
theorem ensureMountPoint_undoes :
    Triple (World.faulty spared) (ensureMountPoint p) w (fun _ t => Unmade p w t)
      (fun _ t => Unmade p w t ∧ (w.node? p = none → t.node? p = none)) := by
  have hmake : ∀ u : World, Unmade p w u → (w.node? p = none → u.node? p = none) →
      Triple (World.faulty spared) (makeDir p >>= fun _ => pure false) u
        (fun _ t => Unmade p w t)
        (fun _ t => Unmade p w t ∧ (w.node? p = none → t.node? p = none)) := by
    intro u hm hn
    refine triple_bind.mpr (makeDir_spec.mono ?_ ?_)
    · rintro _ t ⟨-, rfl⟩
      exact hm
    · rintro _ t ⟨rfl, -⟩
      exact ⟨hm, hn⟩
  refine Triple.bind (probe_still.mono (fun _ _ h => h) ?_) ?_
  · rintro _ t rfl
    exact ⟨.inr rfl, id⟩
  rintro state t rfl
  -- Where the mount was corrupted, it goes before the directory is made.
  cases state with
  | healthy => exact .inr rfl
  | corrupted =>
    simp only [triple_bind, triple_note]
    refine unmount_faulty.mono ?_ ?_
    · rintro _ u rfl
      have hnone : Unmade p t (t.withoutMount p.key) := .inl (by simp [World.mounts_withoutMount])
      exact triple_bind.mp (hmake _ hnone fun hn => World.node?_withoutMount hn _)
    · rintro _ u rfl
      exact ⟨.inr rfl, id⟩
  | notMounted => exact hmake t (.inr rfl) id

theorem mountOrRemoveTarget_undoes :
    Triple (World.faulty spared) (mountOrRemoveTarget o source p fsType options) w
      (fun _ _ => True)
      (fun f t => t.mounts.get? p.key = w.mounts.get? p.key ∧
        (t.node? p = none ∨ ∃ cause after, f = .mountTargetNotRemoved p cause after)) := by
  have hremove : Triple (World.faulty spared) (mountOrRemoveTarget o source p fsType options) w
      (fun _ _ => True)
      (fun f t => t.node? p = none ∨ ∃ cause after, f = .mountTargetNotRemoved p cause after) := by
    refine Triple.outcome (R := fun _ _ => True) (F := fun _ _ => True)
      (triple_of_forall (by simp) (by simp)) (fun _ _ _ => trivial) ?_
    intro failure t _
    refine Triple.ask trivial ?_
    rintro (e | ⟨⟨⟩⟩) u (h | ⟨-, ⟨e', he⟩, rfl⟩)
    · exact .inr ⟨e, failure, rfl⟩
    · exact .inr ⟨e, failure, rfl⟩
    · obtain ⟨-, hp, -, -, rfl⟩ := World.removedDir_ok h
      exact .inl (World.node?_eq_none.mpr (.inr ⟨hp, by simp [World.nodes_withoutNode]⟩))
    · cases he
  refine (mountOrRemoveTarget_spec.and hremove).mono (fun _ _ _ => trivial) ?_
  rintro f t ⟨⟨hm, -⟩, hn⟩
  exact ⟨by rw [hm], hn⟩

-- ---------------------------------------------------------------------------
-- Away from the target
-- ---------------------------------------------------------------------------

theorem Provisions.not_mem_chain {internal : Path} (h : Provisions o target subDir c)
    (hi : Path.internal o.workingDir target = .ok internal)
    (hfar : target.key ∉ internal.key.chain) : target.key ∉ c.path.key.chain := by
  cases h with
  | internal hi' =>
    obtain rfl := Except.ok.inj (hi.symm.trans hi')
    exact hfar
  | @directory directory _ hd =>
    intro hmem
    obtain ⟨habs, hpre⟩ := Path.key_internalVolume hi hd
    exact (Key.mem_chain_or_below habs hpre hmem).elim hfar (Path.not_below_internal hi)

theorem stable_untouched {internal : Path}
    (hi : Path.internal o.workingDir target = .ok internal)
    (hfar : target.key ∉ internal.key.chain) (w : World) :
    World.Stable (Provisions o target subDir) (Untouched target w) := by
  refine .of_effect ?_
  intro c u t hc he h
  have hne : internal.key ≠ target.key := fun heq =>
    hfar (heq ▸ Key.mem_chain_self (Path.internal_names_ne_nil hi))
  have hmount : c.changesMounts = true → target.key ≠ c.path.key := fun hm heq =>
    hne (heq.trans ((hc.aside hi hne).1 hm)).symm
  exact ⟨(he.mounts_ne hmount).trans h.mount, fun hn =>
    he.keeps_nothing (fun _ => hc.not_mem_chain hi hfar) (h.node hn)⟩

end

end Mount

namespace Service

section
variable {o : Options} {request : PublishRequest} {w : World}

/-- The way to the internal path of a request that uses it does not lead
through the target. -/
def InternalBesides (o : Options) (request : PublishRequest) : Prop :=
  request.subDir? ≠ none → ∀ internal, Path.internal o.workingDir request.target = .ok internal →
    request.target.key ∉ internal.key.chain

theorem prepare_untouched (hv : request.volume? = some volume) (hfar : InternalBesides o request) :
    Triple (World.faulty spared) (prepare o request volume) w
      (fun _ t => Untouched request.target w t) (fun _ t => Untouched request.target w t) := by
  have hsub := PublishRequest.subDir?_eq hv
  rcases prepare_plan o request volume with ⟨f, hp⟩ | hplan
  · rw [hp]
    exact ⟨rfl, id⟩
  cases hplan with
  | whole hp =>
    rw [hp]
    exact ⟨rfl, id⟩
  | @subDir subDir internal _ hs hi hd hstrict hp =>
    have hstable : World.Stable (Mount.Provisions o request.target subDir)
        (Untouched request.target w) :=
      Mount.stable_untouched hi (hfar (by simp [hsub, hs]) internal hi) w
    have hany : Triple (World.faulty spared) (prepare o request volume) w (fun _ _ => True)
        (fun _ _ => True) := triple_of_forall (by simp) (by simp)
    exact (hany.keep (hp ▸ Mount.provision_calls) hstable.faulty ⟨rfl, id⟩).mono
      (fun _ _ h => h.2) fun _ _ h => h.2

theorem attach_undoes :
    Triple (World.faulty spared) (attach o request volume) w (fun _ _ => True)
      (fun f t => Undone request.target w f t) := by
  refine Triple.bind (Mount.ensureMountPoint_undoes.mono (fun _ _ h => h) ?_) ?_
  · rintro f t ⟨hm, hn⟩
    exact ⟨hm, fun h => .inl (hn h)⟩
  intro mounted t hm
  cases mounted with
  | true => simp
  | false =>
    refine Triple.bind (Mount.mountOrRemoveTarget_undoes.mono (fun _ _ h => h) ?_) ?_
    · rintro f u ⟨hsame, hn⟩
      exact ⟨hm.imp hsame.trans hsame.trans, fun _ => hn⟩
    · intro _ _ _
      simp

theorem deliver_undoes (hr : request.resolution? = some resolution)
    (hfar : InternalBesides o request) :
    Triple (World.faulty spared) (deliver o request resolution) w (fun _ _ => True)
      (fun f t => Undone request.target w f t) := by
  have hv := PublishRequest.volume?_eq hr
  refine triple_deliver.mpr ((prepare_untouched hv hfar).mono ?_ fun _ _ h => h.undone)
  intro _ t ht
  exact attach_undoes.mono (fun _ _ h => h) fun _ _ h => h.after ht

end

end Service

-- ---------------------------------------------------------------------------
-- What a run tells about a target that could not be removed
-- ---------------------------------------------------------------------------

def Exchange.mountFailure? : Exchange → Option Failure
  | ⟨.createDirAll p _, .error e⟩ => some (.targetNotCreated p e)
  | ⟨.mount source p _ _, .error e⟩ => some (.notMounted source p e)
  | _ => none

/-- Of a target that could not be removed the last two exchanges are the call
of the mount that was refused, and the removal. -/
def Told (f : Failure) (past : List Exchange) : Prop :=
  ∀ p e cause, f = .mountTargetNotRemoved p e cause →
    ∃ before x, past = before ++ [x, ⟨.removeDir p, .error e⟩] ∧ x.call.path = p ∧
      x.mountFailure? = some cause

theorem told_of_ne (h : ∀ p e cause, f ≠ .mountTargetNotRemoved p e cause) : Told f past :=
  fun p e cause hf => absurd hf (h p e cause)

theorem told_of_mountFailure? {x : Exchange} (h : x.mountFailure? = some f) : Told f past := by
  refine told_of_ne ?_
  rintro p e cause rfl
  unfold Exchange.mountFailure? at h
  split at h <;> cases h

namespace Mount

section
variable {past : List Exchange}

theorem probe_told : Triple .free (probe p) past (fun _ _ => True) Told := by
  refine Triple.ask trivial ?_
  rintro (e | mounted) now rfl
  · simp only
    split
    · simp
    · split
      · simp
      · exact told_of_ne nofun
  · cases mounted with
    | false => simp
    | true =>
      refine Triple.ask trivial ?_
      rintro (e | entries) now rfl <;> simp

theorem unmount_told : Triple .free (unmount p) past (fun _ _ => True) Told := by
  refine Triple.askLocked trivial ?_
  rintro (e | ⟨⟨⟩⟩) now rfl
  · exact told_of_ne nofun
  · simp

theorem makeDir_refused :
    Triple .free (makeDir p) past (fun _ _ => True)
      (fun f now => ∃ before x, now = before ++ [x] ∧ x.call.path = p ∧
        x.mountFailure? = some f) := by
  refine Triple.ask trivial ?_
  rintro (e | ⟨⟨⟩⟩) now rfl
  · simp only [triple_bind, triple_note, triple_throw]
    exact ⟨past, _, rfl, rfl, rfl⟩
  · simp

theorem mount_refused :
    Triple .free (mount o source p fsType options) past (fun _ _ => True)
      (fun f now => ∃ before x, now = before ++ [x] ∧ x.call.path = p ∧
        x.mountFailure? = some f) := by
  refine triple_mount makeDir_refused (fun _ _ => trivial) (fun _ _ _ _ => trivial) ?_
  rintro now _ e - rfl
  exact ⟨now, _, rfl, rfl, rfl⟩

theorem ensureMountPoint_told :
    Triple .free (ensureMountPoint p) past (fun _ _ => True) Told := by
  have hmake : ∀ past, Triple .free (makeDir p >>= fun _ => pure false) past
      (fun _ _ => True) Told := by
    intro past
    refine triple_bind.mpr (makeDir_refused.mono (fun _ _ _ => trivial) ?_)
    rintro f now ⟨before, x, -, -, hx⟩
    exact told_of_mountFailure? hx
  refine Triple.bind probe_told ?_
  intro state now _
  cases state with
  | healthy => simp
  | corrupted =>
    simp only [triple_bind, triple_note]
    exact unmount_told.mono (fun _ now _ => triple_bind.mp (hmake now)) fun _ _ h => h
  | notMounted => exact hmake now

theorem mountOrRemoveTarget_told :
    Triple .free (mountOrRemoveTarget o source p fsType options) past (fun _ _ => True) Told := by
  refine Triple.outcome mount_refused (fun _ _ _ => trivial) ?_
  rintro failure now ⟨before, x, rfl, hpath, hx⟩
  refine Triple.ask trivial ?_
  rintro (e | ⟨⟨⟩⟩) now rfl
  · rintro _ _ _ ⟨⟩
    exact ⟨before, x, by simp, hpath, hx⟩
  · exact told_of_mountFailure? hx

theorem mountInternal_told :
    Triple .free (mountInternal o volume p options) past (fun _ _ => True) Told := by
  refine Triple.bind ensureMountPoint_told ?_
  intro mounted now _
  cases mounted with
  | false => exact mountOrRemoveTarget_told
  | true =>
    simp only [if_true, triple_bind, triple_note, triple_outcome]
    refine Routine.meets_of_forall (fun _ _ => trivial) fun r now => ?_
    rcases r with f | ⟨⟨⟩⟩
    · exact told_of_ne (by simp)
    · exact mountOrRemoveTarget_told

theorem release_told : Triple .free (release o p) past (fun _ _ => True) Told := by
  unfold release
  simp only [triple_bind, triple_outcome]
  refine Routine.meets_of_forall (fun _ _ => trivial) fun r now => ?_
  rcases r with f | ⟨⟨⟩⟩ <;> simp

theorem provision_told :
    Triple .free (provision o volume target subDir options) past (fun _ _ => True) Told := by
  unfold provision
  cases hi : Path.internal o.workingDir target with
  | error f =>
    obtain rfl := Path.internal_error hi
    exact told_of_ne nofun
  | ok internal =>
    rw [Attempt.ofExcept_ok_bind]
    cases hd : Path.internalVolume o.workingDir target subDir with
    | error f =>
      obtain rfl := Path.internalVolume_error hi hd
      exact told_of_ne nofun
    | ok directory =>
      rw [Attempt.ofExcept_ok_bind]
      refine Triple.bind mountInternal_told ?_
      intro _ now _
      refine Triple.ask trivial ?_
      rintro made now rfl
      refine Triple.bind release_told ?_
      intro _ now _
      rcases made with e | ⟨⟨⟩⟩
      · exact told_of_ne nofun
      · simp

end

end Mount

namespace Service

section
variable {o : Options} {request : PublishRequest} {w : World} {past : List Exchange}

theorem prepare_told :
    Triple .free (prepare o request volume) past (fun _ _ => True) Told := by
  unfold prepare prepareSubDir
  cases volume.subDir with
  | none => simp
  | some subDir =>
    simp only
    split
    · exact told_of_ne nofun
    · split
      · exact Mount.provision_told
      · simp

theorem attach_told : Triple .free (attach o request volume) past (fun _ _ => True) Told := by
  refine Triple.bind Mount.ensureMountPoint_told ?_
  intro mounted now _
  cases mounted with
  | true => simp
  | false => exact Triple.bind Mount.mountOrRemoveTarget_told fun _ _ _ => trivial

theorem publish_told (o : Options) (request : PublishRequest) :
    Triple .free (publish o request) past (fun _ _ => True) Told := by
  rcases publish_refused_or o request with ⟨f, hs, hp⟩ | ⟨resolution, -, hp⟩ <;> rw [hp]
  · refine triple_throw.mpr (told_of_ne ?_)
    rintro p e cause rfl
    cases hs
  · exact triple_deliver.mpr (prepare_told.mono (fun _ _ _ => attach_told) fun _ _ h => h)

-- ---------------------------------------------------------------------------
-- A failed publish
-- ---------------------------------------------------------------------------

/-- A publish that fails leaves no mount of its own at the target, and where
nothing was it leaves nothing, unless its message says that the target could
not be removed. A message that says so repeats the failure of the mount. -/
theorem publish_undoes {failure : Failure} (hf : ∀ f ∈ w.faults, f.isError = true)
    (hfar : InternalBesides o request)
    (h : (publish o request).runOn w = (.error failure, after)) :
    (after.mounts.get? request.target.key = none ∨
        after.mounts.get? request.target.key = w.mounts.get? request.target.key) ∧
      (w.node? request.target = none → after.node? request.target = none ∨
        "Internal error: Could not remove mount target".toList <+: failure.message.toList) ∧
      ("Internal error: Could not remove mount target".toList <+: failure.message.toList →
        ∃ before x path e cause,
          (publish o request).exchangesOn w = before ++ [x, ⟨.removeDir path, .error e⟩] ∧
          x.call.path = path ∧ x.mountFailure? = some cause ∧
          cause.message.toList <:+: failure.message.toList) := by
  have hundone : Undone request.target w failure after := by
    rcases publish_cases o request with ⟨f, hp⟩ | ⟨resolution, hr, hp⟩
    · rw [hp] at h
      obtain rfl : w = after := congrArg Prod.snd h
      exact Untouched.undone ⟨rfl, id⟩
    · have hspares : ∀ f ∈ w.faults, f.Spares fun _ => False := fun f hmem => ⟨hf f hmem, nofun⟩
      have hrun := (deliver_undoes (w := w.calm) hr hfar).runOn hspares
      rw [← hp, h] at hrun
      exact ⟨hrun.mount, hrun.node⟩
  refine ⟨hundone.mount, fun hn => ?_, fun hprefix => ?_⟩
  · refine (hundone.node hn).imp_right ?_
    rintro ⟨e, cause, rfl⟩
    exact (Failure.message_mountTargetNotRemoved _ _ _).1
  · obtain ⟨path, e, cause, rfl⟩ := Failure.eq_of_message hprefix
    have htold := (publish_told o request).saidOn w
    rw [h] at htold
    obtain ⟨before, x, hsaid, hpath, hx⟩ := htold path e cause rfl
    exact ⟨before, x, path, e, cause, hsaid, hpath, hx,
      (Failure.message_mountTargetNotRemoved _ _ _).2⟩

end

def stuckTarget : World where
  faults :=
    [⟨.mount, some (Path.key ⟨"/a"⟩), 0, none, .refuses (.syscall "mount" (.os 19))⟩,
      ⟨.removeDir, some (Path.key ⟨"/a"⟩), 0, none, .fails (.os 16)⟩]

def stuckFailure : Failure :=
  .mountTargetNotRemoved ⟨"/a"⟩ (.os 16)
    (.notMounted "10.0.0.1@tcp:/fs1/d" ⟨"/a"⟩ (.syscall "mount" (.os 19)))

theorem publish_undoes_stuckTarget :
    (∀ f ∈ stuckTarget.faults, f.isError = true) ∧ InternalBesides {} .ofSubDir ∧
      (publish {} .ofSubDir).runOn stuckTarget =
        (.error stuckFailure, ((publish {} .ofSubDir).runOn stuckTarget).2) ∧
      "Internal error: Could not remove mount target".toList <+: stuckFailure.message.toList ∧
      ∃ before x path e cause,
        (publish {} .ofSubDir).exchangesOn stuckTarget =
          before ++ [x, ⟨.removeDir path, .error e⟩] ∧
        x.call.path = path ∧ x.mountFailure? = some cause ∧
        cause.message.toList <:+: stuckFailure.message.toList := by
  have hf : ∀ f ∈ stuckTarget.faults, f.isError = true := by decide
  have hfar : InternalBesides {} .ofSubDir := by
    intro _ internal hi
    obtain rfl : (⟨"/tmp/a"⟩ : Path) = internal := Except.ok.inj hi
    decide +kernel
  have h : (publish {} .ofSubDir).runOn stuckTarget =
      (.error stuckFailure, ((publish {} .ofSubDir).runOn stuckTarget).2) := rfl
  have hprefix := (Failure.message_mountTargetNotRemoved ⟨"/a"⟩ (.os 16)
    (.notMounted "10.0.0.1@tcp:/fs1/d" ⟨"/a"⟩ (.syscall "mount" (.os 19)))).1
  exact ⟨hf, hfar, h, hprefix, (publish_undoes hf hfar h).2.2 hprefix⟩

end Service

end VolumeAgent
