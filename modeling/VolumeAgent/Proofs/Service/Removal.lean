import VolumeAgent.Proofs.Host.Lies
import VolumeAgent.Proofs.Mount.TakeDown
import VolumeAgent.Proofs.Service.Publish

/-!
# What a successful unpublish has removed

`unpublish_removes`: a target that is reported as unpublished is gone and
not mounted, also on a host that lies about unmounts and mount points and
gives no true listing. Success rests on two answers only, that the target
does not exist and that its directory has been removed or was missing. As
nothing is mounted where nothing is, each of them also settles the mount.
-/

namespace VolumeAgent

open Host (Call IoError World)

namespace Mount

section
variable {w : World}

theorem gone_of_visible (hw : Visible w p) (hn : w.node? p = none) : Gone w p :=
  ⟨hn, hw.resolve_right (absurd hn)⟩

theorem forceUnmount_lying (hw : Visible w p) :
    Triple World.lying (forceUnmount p ms) w (fun _ t => Visible t p) (fun _ t => Visible t p) := by
  refine Triple.askLocked trivial ?_
  intro a t h
  have ht : Visible t p := by
    rcases h with h | ⟨-, rfl⟩
    · obtain rfl : (w.unmounted p.key).2 = t := congrArg Prod.snd h
      exact .inl (mounts_unmounted w p.key)
    · exact hw
  rcases a with e | ⟨⟨⟩⟩ <;> exact ht

theorem isMountedForCleanup_lying :
    Triple World.lying (isMountedForCleanup p) w (fun _ t => t = w) (fun _ _ => True) := by
  refine Triple.ask trivial ?_
  intro a t h
  have ht : t = w := World.eq_of_lying rfl h
  rcases a with e | mounted
  · simp only
    split
    · exact ht
    · split
      · exact ht
      · trivial
  · exact ht

theorem removeDir_lying (hw : Visible w p) :
    Triple World.lying (removeDir p) w (fun _ t => Gone t p) (fun _ _ => True) := by
  refine Triple.ask trivial ?_
  rintro (e | ⟨⟨⟩⟩) t h
  · simp only
    split
    · rename_i he
      rcases h with h | ⟨hlie, -⟩
      · obtain rfl := World.removedDir_error h
        exact gone_of_visible hw (World.node?_of_removedDir h he)
      · refine absurd ?_ hlie
        rintro e' ⟨⟩
        exact he
    · trivial
  · rcases h with h | ⟨hlie, -⟩
    · obtain ⟨-, hp, hm, -, rfl⟩ := World.removedDir_ok h
      refine triple_pure.mpr ⟨?_, hm⟩
      rw [World.node?_eq _ hp, World.nodes_withoutNode, if_pos rfl]
    · exact absurd nofun hlie

theorem cleanup_lying (hw : Visible w p) :
    Triple World.lying (cleanup o p) w (fun _ t => Gone t p) (fun _ _ => True) := by
  refine Triple.ask trivial ?_
  intro a t h
  obtain rfl := World.eq_of_lying rfl h
  rcases a with e | ⟨_ | _⟩
  · simp only
    split
    · simp only [triple_bind, triple_note]
      exact (forceUnmount_lying hw).mono (fun _ _ h => removeDir_lying h) fun _ _ _ => trivial
    · trivial
  · -- Nothing there is no lie.
    rcases h with h | ⟨hlie, -⟩
    · exact gone_of_visible hw (by simpa [World.perform] using congrArg Prod.fst h)
    · exact absurd rfl hlie
  · refine Triple.bind isMountedForCleanup_lying ?_
    rintro mounted _ rfl
    cases mounted with
    | false => exact removeDir_lying hw
    | true =>
      refine Triple.bind ((forceUnmount_lying hw).mono (fun _ _ h => h) fun _ _ _ => trivial) ?_
      intro _ u hu
      refine Triple.bind isMountedForCleanup_lying ?_
      rintro mounted _ rfl
      cases mounted with
      | false => exact removeDir_lying hu
      | true => trivial

theorem entryIsHealthy_lying :
    Triple World.lying (entryIsHealthy p) w (fun _ t => t = w) (fun _ _ => False) := by
  unfold entryIsHealthy
  cases p.parent? with
  | none => exact triple_pure.mpr rfl
  | some parent =>
    refine Triple.ask trivial ?_
    intro a t h
    obtain rfl := World.eq_of_lying rfl h
    rcases a with e | entries
    · simp
    · simp only
      split
      · refine Triple.ask trivial ?_
        intro a u h
        obtain rfl := World.eq_of_lying rfl h
        rcases a with e | ⟨⟨⟩⟩ <;> simp
      · simp

theorem takeDown_lying (hw : Visible w p) :
    Triple World.lying (takeDown o p) w (fun _ t => Gone t p) (fun _ _ => True) := by
  refine Triple.bind_sure entryIsHealthy_lying ?_
  rintro healthy _ rfl
  cases healthy with
  | true => exact cleanup_lying hw
  | false =>
    refine Triple.outcome (forceUnmount_lying hw) ?_ ?_
    · exact fun _ _ h => cleanup_lying h
    · intro _ _ h
      exact triple_bind.mpr (triple_note.mpr (cleanup_lying h))

end

end Mount

namespace Service

theorem unpublish_lying (request : UnpublishRequest) (hw : w.Grounded) :
    Triple World.lying (unpublish o request) w (fun _ t => Mount.Gone t request.target)
      (fun _ _ => True) := by
  rcases unpublish_cases o request with ⟨f, hp⟩ | ⟨ht, hp⟩ <;> rw [hp]
  · trivial
  · have hv := Mount.visible_of_grounded hw ht
    exact Triple.outcome (Mount.takeDown_lying hv) (fun _ _ h => h) fun _ _ _ => trivial

/-- Where nothing is mounted on what is not there, and only the host itself
says that something is gone, a target reported as unpublished is gone. -/
theorem unpublish_removes (hw : w.Grounded) (hf : ∀ f ∈ w.faults, f.isFair = true)
    (h : (unpublish o request).runOn w = (.ok (), after)) :
    after.node? request.target = none ∧ after.mounts.get? request.target.key = none := by
  have hcalm : w.calm.Grounded := hw
  have hrun := (unpublish_lying (o := o) request hcalm).runOn_of_keeps World.keeps_lying hf
  rw [h] at hrun
  exact hrun

/-- The directory of the target cannot be listed, the first unmount is only
said to have worked, and so is the check after the second. -/
def deceitfulHost : World where
  nodes := [(Path.key ⟨"/a"⟩, .directory)]
  mounts := [(Path.key ⟨"/a"⟩, World.preset)]
  faults :=
    [⟨.readDir, none, 0, none, .fails (.os 5)⟩,
      ⟨.forceUnmount, none, 0, some 1, .succeeds⟩,
      ⟨.isMountPoint, none, 1, none, .value false⟩,
      ⟨.pathExists, none, 0, none, .value true⟩]

theorem unpublish_removes_deceitfulHost :
    deceitfulHost.Grounded ∧ (∀ f ∈ deceitfulHost.faults, f.isFair = true) ∧
      (unpublish {} ⟨"fs1", ⟨"/a"⟩⟩).runOn deceitfulHost =
        (.ok (), ((unpublish {} ⟨"fs1", ⟨"/a"⟩⟩).runOn deceitfulHost).2) ∧
      ((unpublish {} ⟨"fs1", ⟨"/a"⟩⟩).runOn deceitfulHost).2.node? ⟨"/a"⟩ = none ∧
      ((unpublish {} ⟨"fs1", ⟨"/a"⟩⟩).runOn deceitfulHost).2.mounts.get? (Path.key ⟨"/a"⟩) =
        none := by
  have hw : deceitfulHost.Grounded := by decide +kernel
  have hf : ∀ f ∈ deceitfulHost.faults, f.isFair = true := by decide
  have h : (unpublish {} ⟨"fs1", ⟨"/a"⟩⟩).runOn deceitfulHost =
      (.ok (), ((unpublish {} ⟨"fs1", ⟨"/a"⟩⟩).runOn deceitfulHost).2) := rfl
  exact ⟨hw, hf, h, unpublish_removes hw hf h⟩

end Service

end VolumeAgent
