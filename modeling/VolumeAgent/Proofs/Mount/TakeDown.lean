import VolumeAgent.Proofs.Host.Tidy
import VolumeAgent.Proofs.Mount.Release

/-!
# What a take-down comes to

`takeDown_spec`: where a mount can be seen, a take-down has one outcome,
`tornDown`, whatever the listing of the target's directory says. The first
unmount of a target that looks unhealthy only does early what the cleanup
does anyway. A tidy target is gone afterwards.
-/

namespace VolumeAgent.Mount

open Host (Call World)

def Gone (w : World) (p : Path) : Prop := w.node? p = none ∧ w.mounts.get? p.key = none

def tornDown (w : World) (p : Path) : Except Failure Unit × World :=
  if w.node? p = none then (.ok (), w)
  else
    match (w.unmounted p.key).2.removedDir p with
    | (.ok (), t) => (.ok (), t)
    | (.error e, t) => (.error (.targetNotRemoved p e), t)

/-- Calls on `p` are carried out. Any directory can be listed, but what the
listing says need not be true. -/
structure Reliable (K : Contract World) (p : Path) : Prop where
  carries : c.path = p → World.Carries K c
  lists : K.allows w (.readDir q)
  still : K.answers w (.readDir q) a t → t = w

theorem reliable_faultless (p : Path) : Reliable World.faultless p where
  carries _ := World.carries_faulty trivial
  lists := trivial
  still h := (congrArg Prod.snd ((World.carries_faulty trivial).answers h)).symm

section
variable {K : Contract World} {w : World}

theorem unmounted_of_none (h : w.mounts.get? k = none) : (w.unmounted k).2 = w := by
  simp [World.unmounted, Host.Table.has_eq_false.mpr h]

theorem unmounted_of_some (h : w.mounts.get? k ≠ none) :
    (w.unmounted k).2 = w.withoutMount k := by
  simp [World.unmounted, Host.Table.has_eq_true.mpr h]

@[simp] theorem mounts_unmounted (w : World) (k : Path.Key) :
    (w.unmounted k).2.mounts.get? k = none := by
  by_cases h : w.mounts.get? k = none
  · rw [unmounted_of_none h, h]
  · rw [unmounted_of_some h, World.mounts_withoutMount, if_pos rfl]

theorem nodes_unmounted (h : w.nodes.get? j = none) (k : Path.Key) :
    (w.unmounted k).2.nodes.get? j = none := by
  by_cases hm : w.mounts.get? k = none
  · rw [unmounted_of_none hm, h]
  · simp [unmounted_of_some hm, World.nodes_withoutMount, h]

@[simp] theorem node?_unmounted (w : World) (p : Path) :
    (w.unmounted p.key).2.node? p = w.node? p := by
  by_cases h : w.mounts.get? p.key = none
  · rw [unmounted_of_none h]
  · rw [unmounted_of_some h]
    simp [World.node?, World.nodes_withoutMount, Path.Key.not_below_self]

theorem tornDown_unmounted (w : World) (p : Path) (hw : Visible w p) :
    tornDown (w.unmounted p.key).2 p = tornDown w p := by
  unfold tornDown
  rw [node?_unmounted]
  split
  · rename_i hn
    rw [unmounted_of_none (hw.resolve_right (absurd hn))]
  · rw [unmounted_of_none (mounts_unmounted w p.key)]

theorem Gone.tornDown_eq (h : Gone w p) : tornDown w p = (.ok (), w) := by
  simp [tornDown, h.1]

theorem visible_of_tidy (h : w.Tidy p.key) (hp : p.key.names ≠ []) : Visible w p := by
  by_cases hm : w.mounts.get? p.key = none
  · exact .inl hm
  · exact .inr (w.node?_eq hp ▸ h.grounded hm)

theorem visible_of_grounded (h : w.Grounded) (hp : p.isEmpty = false) : Visible w p := by
  by_cases hm : w.mounts.get? p.key = none
  · exact .inl hm
  · exact .inr (h.node? hp hm)

theorem tornDown_of_tidy (h : w.Tidy p.key) (hp : p.key.names ≠ []) :
    ∃ t, tornDown w p = (.ok (), t) ∧ Gone t p := by
  cases hn : w.node? p with
  | none =>
    have hgone : Gone w p := ⟨hn, (visible_of_tidy h hp).resolve_right (absurd hn)⟩
    exact ⟨w, hgone.tornDown_eq, hgone⟩
  | some node =>
    have hdir : (w.unmounted p.key).2.nodes.get? p.key = some .directory := by
      rw [← World.node?_eq _ hp, node?_unmounted, w.node?_eq hp]
      cases hk : w.nodes.get? p.key with
      | none => simp [w.node?_eq hp, hk] at hn
      | some node =>
        cases node with
        | directory => rfl
        | file => exact absurd hk h.not_file
    have hkids : (w.unmounted p.key).2.children p.key = [] := by
      refine World.children_eq_nil.mpr fun j habs hnames hne => ?_
      exact nodes_unmounted (h.bare (Path.Key.below_of_child habs hnames hne)) _
    have hremoved := World.removedDir_of_empty hdir hp (mounts_unmounted w p.key) hkids
    refine ⟨(w.unmounted p.key).2.withoutNode p.key, by simp [tornDown, hn, hremoved], ?_, ?_⟩
    · rw [World.node?_eq _ hp, World.nodes_withoutNode, if_pos rfl]
    · exact mounts_unmounted w p.key

theorem removeDir_spec (hK : Reliable K p) (hm : w.mounts.get? p.key = none)
    (hn : w.node? p ≠ none) :
    Triple K (removeDir p) w (fun _ t => tornDown w p = (.ok (), t))
      (fun f t => tornDown w p = (.error f, t)) := by
  refine Triple.ask_carried (hK.carries rfl) ?_
  simp only [tornDown, if_neg hn, unmounted_of_none hm, World.perform]
  cases h : w.removedDir p with
  | mk r t =>
    rcases r with e | ⟨⟨⟩⟩
    · have he : e.isMissing = false :=
        Bool.eq_false_iff.mpr fun he => hn (World.node?_of_removedDir h he)
      simp [he]
    · simp

theorem cleanup_spec (hK : Reliable K p) (hw : Visible w p) :
    Triple K (cleanup o p) w (fun _ t => tornDown w p = (.ok (), t))
      (fun f t => tornDown w p = (.error f, t)) := by
  refine Triple.ask_carried (hK.carries rfl) ?_
  cases hn : w.node? p with
  | none => simp [World.perform, hn, tornDown]
  | some node =>
    simp only [World.perform, hn, Option.isSome_some]
    refine Triple.bind_sure (isMountedForCleanup_spec (hK.carries rfl)) ?_
    rintro mounted _ ⟨rfl, hmounted⟩
    cases mounted with
    | false => exact removeDir_spec hK (by simpa [hn] using hmounted) (by simp [hn])
    | true =>
      have hm := (hmounted.mp rfl).1
      refine Triple.bind ((forceUnmount_spec (hK.carries rfl)).mono (fun _ _ h => h) ?_) ?_
      · rintro _ t ⟨hnone, -⟩
        exact absurd hnone hm
      rintro _ t ⟨-, ht⟩
      obtain rfl : _ = t := (unmounted_of_some hm).trans ht.symm
      rw [← tornDown_unmounted _ p hw]
      -- The check finds the mount gone.
      refine Triple.bind_sure (isMountedForCleanup_spec (hK.carries rfl)) ?_
      rintro mounted _ ⟨rfl, hgone⟩
      obtain rfl : mounted = false := by simpa using hgone
      exact removeDir_spec hK (mounts_unmounted _ _) (by simp [hn])

theorem entryIsHealthy_spec (hK : Reliable K p) :
    Triple K (entryIsHealthy p) w (fun _ t => t = w) (fun _ _ => False) := by
  unfold entryIsHealthy
  cases p.parent? with
  | none => exact triple_pure.mpr rfl
  | some parent =>
    refine Triple.ask hK.lists ?_
    rintro (e | entries) t h
    · simpa using hK.still h
    · obtain rfl := hK.still h
      simp only
      split
      · refine Triple.ask_carried (hK.carries rfl) ?_
        simp only [World.perform]
        split <;> simp
      · simp

theorem takeDown_spec (hK : Reliable K p) (hw : Visible w p) :
    Triple K (takeDown o p) w (fun _ t => tornDown w p = (.ok (), t))
      (fun f t => tornDown w p = (.error f, t)) := by
  refine Triple.bind_sure (entryIsHealthy_spec hK) ?_
  rintro healthy _ rfl
  cases healthy with
  | true => exact cleanup_spec hK hw
  | false =>
    refine Triple.outcome (forceUnmount_spec (hK.carries rfl)) ?_ ?_
    · rintro _ t ⟨hm, ht⟩
      obtain rfl : _ = t := (unmounted_of_some hm).trans ht.symm
      rw [← tornDown_unmounted _ p hw]
      exact cleanup_spec hK (.inl (mounts_unmounted _ _))
    · -- Nothing was mounted, and nothing has changed.
      rintro _ t ⟨-, rfl⟩
      exact triple_bind.mpr (triple_note.mpr (cleanup_spec hK hw))

end

end VolumeAgent.Mount
