import VolumeAgent.Proofs.Mount.Places
import VolumeAgent.Proofs.Mount.TakeDown

/-!
# Jobs

A job is a publish or an unpublish of a target. Its calls are on the target
and on the target's internal path, so it takes care of every other place
that can be cleared, and changes no mount elsewhere. Of an unpublish it is
known in full what it comes to.
-/

namespace VolumeAgent

open Host (Call World)
open VolumeAgent.Path (Key)

namespace Mount

variable {k : Key}

theorem permits_careful (hp : p.key.names ≠ []) (hbelow : ¬ p.key.below k = true)
    (habove : ¬ k.below p.key = true) : Permits (World.careful k) p where
  call := by
    rintro c s rfl hkind -
    exact ⟨hbelow, habove, fun hmount => absurd hmount hkind⟩
  mount := by
    rintro s t source fsType options (h | ⟨-, ⟨e, he⟩, -⟩) -
    · refine ⟨hbelow, habove, ?_⟩
      rintro - rfl
      -- The directory has just been made.
      have hclear : s.Clear p.key := by
        refine Classical.byContradiction fun hclear => ?_
        obtain ⟨e, he⟩ := World.createdDirs_of_not_clear hclear
        simp [World.perform, he] at h
      simp only [World.perform, World.createdDirs_of_clear hclear, Prod.mk.injEq] at h
      obtain ⟨-, rfl⟩ := h
      simp [Call.path, World.nodes_withDirs, Key.mem_chain_self hp]
    · cases he

theorem permitsInternal_careful (hk : k.Apart o.workingDir.key) :
    PermitsInternal (World.careful k) o target subDir where
  path hi := by
    have hfar := hk.beyond (Path.prefix_internal hi)
    exact permits_careful (Path.internal_names_ne_nil hi) hfar.symm.not_below_self
      hfar.not_below_self
  make hd := by
    have hfar := hk.beyond (Path.prefix_internalVolume hd)
    exact fun _ => ⟨hfar.symm.not_below_self, hfar.not_below_self, nofun⟩

end Mount

namespace Service

inductive Job where
  | publish (request : PublishRequest)
  | unpublish (request : UnpublishRequest)

namespace Job

def target : Job → Path
  | publish request => request.target
  | unpublish request => request.target

def attempt (o : Options) : Job → Attempt Unit
  | publish request => Service.publish o request
  | unpublish request => Service.unpublish o request

end Job

def Site (o : Options) (target : Path) (k : Key) : Prop :=
  k = target.key ∨ ∃ internal, Path.internal o.workingDir target = .ok internal ∧ k = internal.key

namespace Job

variable {o : Options}

theorem attempt_obeys {K : Contract σ} (j : Job) (h : Mount.Permits K j.target)
    (hi : ∀ subDir, Mount.PermitsInternal K o j.target subDir)
    (hr : ∀ s parent, K.allows s (.readDir parent)) : (j.attempt o).Obeys K := by
  cases j with
  | publish request => exact publish_obeys h fun _ subDir _ _ => hi subDir
  | unpublish request => exact unpublish_obeys h fun parent s _ => hr s parent

theorem attempt_within (j : Job) : (j.attempt o).Uses (Call.Within (Site o j.target)) :=
  j.attempt_obeys (Mount.permits_within (.inl rfl))
    (fun _ => Mount.permitsInternal_within fun internal hi => .inr ⟨internal, hi, rfl⟩)
    (fun _ _ => Mount.within_of_still rfl) ()

theorem attempt_careful {k : Key} (j : Job) (hk : k = j.target.key ∨ k.Apart j.target.key)
    (hwork : k.Apart o.workingDir.key) (hp : j.target.key.names ≠ []) :
    (j.attempt o).Obeys (World.careful k) := by
  refine j.attempt_obeys ?_ (fun _ => Mount.permitsInternal_careful hwork) nofun
  rcases hk with rfl | hk
  · exact Mount.permits_careful hp Key.not_below_self Key.not_below_self
  · exact Mount.permits_careful hp hk.symm.not_below_self hk.not_below_self

end Job

-- ---------------------------------------------------------------------------
-- What an unpublish comes to
-- ---------------------------------------------------------------------------

def withdrawn (w : World) (target : Path) : Except Failure Unit × World :=
  match Mount.tornDown w target with
  | (.ok (), t) => (.ok (), t)
  | (.error f, t) => (.error (.targetNotUnpublished target f), t)

theorem withdraw_spec {K : Contract World} (hK : Mount.Reliable K target)
    (hw : Mount.Visible w target) :
    Triple K (withdraw o target) w (fun _ t => withdrawn w target = (.ok (), t))
      (fun f t => withdrawn w target = (.error f, t)) := by
  refine Triple.outcome (Mount.takeDown_spec hK hw) ?_ ?_
  · intro _ t h
    simp [withdrawn, h]
  · intro f t h
    simp [withdrawn, h]

theorem runOn_withdraw (hw : Mount.Visible w target) (hf : w.faults = []) :
    (withdraw o target).runOn w = withdrawn w target := by
  have hrun := (withdraw_spec (o := o) (Mount.reliable_faultless _) hw).runOn_faultless hf
  cases h : (withdraw o target).runOn w with
  | mk r t =>
    rw [h] at hrun
    rcases r with f | ⟨⟨⟩⟩ <;> exact hrun.1.symm

theorem unpublish_of_tidy {request : UnpublishRequest} (hid : request.volumeId ≠ "")
    (hp : request.target.key.names ≠ []) (hw : w.Tidy request.target.key) (hf : w.faults = []) :
    ∃ t, (unpublish o request).runOn w = (.ok (), t) ∧ Mount.Gone t request.target ∧
      (unpublish o request).runOn t = (.ok (), t) := by
  have ht := Path.ne_empty_of_names hp
  have hv := Mount.visible_of_tidy hw hp
  obtain ⟨t, htorn, hgone⟩ := Mount.tornDown_of_tidy hw hp
  have hrun : (unpublish o request).runOn w = (.ok (), t) := by
    rw [unpublish_eq hid ht, runOn_withdraw hv hf, withdrawn, htorn]
  have hft : t.faults = [] := by
    have h := Attempt.faults_runOn hf (unpublish o request)
    rwa [hrun] at h
  refine ⟨t, hrun, hgone, ?_⟩
  rw [unpublish_eq hid ht, runOn_withdraw (.inl hgone.2) hft, withdrawn, hgone.tornDown_eq]

end Service

end VolumeAgent
