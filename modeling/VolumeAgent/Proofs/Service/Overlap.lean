import VolumeAgent.Proofs.Mount.Order
import VolumeAgent.Proofs.Mount.Sharing
import VolumeAgent.Proofs.Path.Resolution
import VolumeAgent.Proofs.Service.Repetition

/-!
# Overlapping publishes of one target

Publishes of one target that overlap do not hold the lock between what they
ask and what they do. `overlapping_publishes`: still each of them mounts at
the target once at most, and only if it has asked about the target before
any of them mounted there. A sub-directory is created right after a mount of
the root at the internal path, which only another publish can have undone.
-/

namespace VolumeAgent

open Host (Call World)

-- ---------------------------------------------------------------------------
-- Publishes
-- ---------------------------------------------------------------------------

namespace Service

theorem publish_minds (hfar : InternalElsewhere o request) (past : List Exchange) :
    Triple (Mount.minding request.target) (publish o request) past
      (fun _ _ => True) (fun _ _ => True) := by
  rcases publish_cases o request with ⟨f, hp⟩ | ⟨resolution, hr, hp⟩ <;> rw [hp]
  · trivial
  have hv := PublishRequest.volume?_eq hr
  refine triple_deliver.mpr ((prepare_obeys (fun subDir hs => ?_) past).mono ?_ fun _ _ h => h)
  · have hne := hfar (by simp [PublishRequest.subDir?, hv, hs])
    exact
      { tends := fun hi => Mount.tends_minding (hne _ hi) (Path.not_below_internal hi)
        mount := fun hi _ _ _ => .inl fun _ => ⟨(hne _ hi).symm, Path.not_below_internal hi⟩
        make := fun _ => .inl (by simp [Call.Leaves, Call.changesMounts, Call.kind]) }
  · intro _ now _
    refine Triple.bind Mount.ensureMountPoint_minds ?_
    intro mounted now h
    cases mounted with
    | true => trivial
    | false => exact Triple.bind (Mount.mountOrRemoveTarget_minds (h rfl)) fun _ _ _ => trivial

theorem directory_ne (hi : Path.internal work target = .ok internal)
    (hd : Path.internalVolume work target subDir = .ok directory) :
    internal ≠ directory ∧ target ≠ directory := by
  obtain ⟨q, hq, hstrict, rfl⟩ := Path.internalVolume_ok hd
  obtain rfl := Except.ok.inj (hi.symm.trans hq)
  obtain ⟨hne, -, -⟩ := Path.cleanSegments_strict hstrict
  have hpos := List.length_pos_iff.mpr hne
  have hnames := Path.names_join internal (Path.head?_cleanSubpath subDir)
  rw [Path.names_cleanSubpath, Path.names_internal hi] at hnames
  have hlength := congrArg List.length hnames
  simp only [List.length_append] at hlength
  constructor
  · intro h
    rw [← h, Path.names_internal hi, List.length_append] at hlength
    omega
  · intro h
    rw [← h] at hlength
    omega

def rootMounted (o : Options) (request : PublishRequest) (volume : Volume) (internal : Path) :
    Exchange :=
  Mount.mounted o volume.source internal lustre
    (mountOptions request.readonly request.mountFlags).1

theorem publish_follows (hv : request.volume? = some volume)
    (hs : request.provisions? volume = some subDir)
    (hi : Path.internal o.workingDir request.target = .ok internal)
    (hd : Path.internalVolume o.workingDir request.target subDir = .ok directory)
    (past : List Exchange) :
    Triple (Mount.following (rootMounted o request volume internal) directory)
      (publish o request) past (fun _ _ => True) (fun _ _ => True) := by
  obtain ⟨hinternal, htarget⟩ := directory_ne hi hd
  rcases publish_cases o request with ⟨f, hp⟩ | ⟨resolution, hr, hp⟩ <;> rw [hp]
  · trivial
  obtain rfl := Option.some.inj ((PublishRequest.volume?_eq hr).symm.trans hv)
  have hprepare : Triple
      (Mount.following (rootMounted o request resolution.volume internal) directory)
      (prepare o request resolution.volume) past (fun _ _ => True) (fun _ _ => True) := by
    rcases prepare_cases o request resolution.volume with
      ⟨f, hp⟩ | ⟨-, hp⟩ | ⟨s, hs', -, hp⟩ <;> rw [hp]
    · trivial
    · trivial
    · obtain rfl := Option.some.inj (hs.symm.trans hs')
      exact Mount.provision_follows hi hd hinternal
  refine triple_deliver.mpr (hprepare.mono (fun _ now _ => ?_) fun _ _ h => h)
  exact attach_obeys (Mount.tends_following htarget)
    (fun _ _ _ => Mount.follows_of_ne htarget rfl) now

-- ---------------------------------------------------------------------------
-- Publishes in turns
-- ---------------------------------------------------------------------------

section
variable {ι : Type} [DecidableEq ι] {schedule : List ι} {w : World} {x : Moment ι World}
  {before after : List (Moment ι World)}

theorem target_of_history
    (h : Routine.history World.answer schedule (fun _ => (publish o request).run) w =
      before ++ x :: after) : request.target.isEmpty = false := by
  cases ht : request.target.isEmpty with
  | false => rfl
  | true =>
    obtain ⟨f, -, hp⟩ := publish_incomplete (o := o) (.inr (.inl ht))
    have hm : ∀ _ : ι, Triple (.heard (fun _ _ => False) fun _ _ => True) (publish o request) []
        (fun _ _ => True) fun _ _ => True := by
      rw [hp]
      exact fun _ => trivial
    exact (Attempt.history_sound (fun _ _ => True) (fun _ _ _ _ _ hc => hc.elim) trivial hm h).1.elim

theorem history_shared (hw : w.faults = []) (hn : w.mounts.get? request.target.key = none)
    (hfar : InternalElsewhere o request)
    (h : Routine.history World.answer schedule (fun _ => (publish o request).run) w =
      before ++ x :: after) :
    Mount.Minds request.target (own x.who before) x.said.call ∧
      x.said.answer = (World.answer x.said.call x.host).1 ∧
      Shared request.target before x.host := by
  have hstart : Shared request.target ([] : List (Moment ι World)) w :=
    ⟨hw, fun _ => hn, by simp, by simp⟩
  exact Attempt.history_sound _ (fun _ _ _ _ hI hc => hI.step (target_of_history h) hc) hstart
    (fun _ => publish_minds hfar []) h

theorem history_follows (hv : request.volume? = some volume)
    (hs : request.provisions? volume = some subDir)
    (hi : Path.internal o.workingDir request.target = .ok internal)
    (hd : Path.internalVolume o.workingDir request.target subDir = .ok directory)
    (h : Routine.history World.answer schedule (fun _ => (publish o request).run) w =
      before ++ x :: after) :
    Mount.Follows (rootMounted o request volume internal) directory (own x.who before)
      x.said.call := by
  have hsound := Attempt.history_sound (fun _ _ => True) (fun _ _ _ _ _ _ => ⟨trivial, trivial⟩)
    trivial (fun _ => publish_follows hv hs hi hd []) h
  exact hsound.1

theorem asked_of_mounts (hw : w.faults = [])
    (hn : w.mounts.get? request.target.key = none) (hfar : InternalElsewhere o request)
    (h : Routine.history World.answer schedule (fun _ => (publish o request).run) w =
      before ++ x :: after) (hx : x.Mounts request.target) :
    ∃ first probe rest, before = first ++ probe :: rest ∧
      probe.who = x.who ∧ probe.said.call = .isMountPoint request.target ∧
      (∀ y ∈ first, ¬ y.Mounts request.target) ∧
      ∀ y ∈ rest, y.who = x.who → y.said = Mount.made request.target := by
  obtain ⟨hk, hpath⟩ := hx
  obtain ⟨hminds, -, -⟩ := history_shared hw hn hfar h
  rcases hminds with hleaves | ⟨-, -, earlier, answer, hown, hanswer⟩
  · have hchanges : x.said.call.changesMounts = true := by
      cases hc : x.said.call <;> simp_all [Call.kind, Call.changesMounts]
    exact absurd (congrArg Path.key hpath).symm (hleaves (.inl hchanges)).1
  · obtain ⟨first, probe, rest, rfl, hwho, hsaid, -, hrest⟩ := exists_moment_of_own hown
    refine ⟨first, probe, rest, rfl, hwho, by rw [hsaid], fun y hy hmounts => ?_, fun y hy he => ?_⟩
    · -- Else the answer would have been that it is mounted.
      rw [List.append_assoc, List.cons_append] at h
      obtain ⟨-, hprobe, hshared⟩ := history_shared hw hn hfar h
      rw [hsaid] at hprobe
      exact hanswer (hprobe.trans (hshared.answer_mounted hy hmounts))
    · have hmem : y.said ∈ own x.who rest := mem_own.mpr ⟨y, hy, he, rfl⟩
      simpa [hrest] using hmem

/-- Publishes of one request take turns in any way. One that mounts at the
target has not done so before: it has asked whether it is mounted before any
of them has mounted there, and has only made its directory since. One that
creates the sub-directory has mounted the root at the internal path in its
call before, and there it is mounted still, unless another has unmounted it
in between. -/
theorem overlapping_publishes (hw : w.faults = [])
    (hn : w.mounts.get? request.target.key = none) (hfar : InternalElsewhere o request)
    (h : Routine.history World.answer schedule (fun _ => (publish o request).run) w =
      before ++ x :: after) :
    (x.Mounts request.target →
      (∀ y ∈ before, y.who = x.who → ¬ y.Mounts request.target) ∧
        ∃ first probe rest, before = first ++ probe :: rest ∧
          probe.who = x.who ∧ probe.said.call = .isMountPoint request.target ∧
          (∀ y ∈ first, ¬ y.Mounts request.target) ∧
          ∀ y ∈ rest, y.who = x.who → y.said = Mount.made request.target) ∧
      ∀ volume subDir internal directory mode, request.volume? = some volume →
        request.provisions? volume = some subDir →
        Path.internal o.workingDir request.target = .ok internal →
        Path.internalVolume o.workingDir request.target subDir = .ok directory →
        x.said.call = .createDirAll directory mode →
        ∃ first m rest, before = first ++ m :: rest ∧
          m.who = x.who ∧ m.said = rootMounted o request volume internal ∧
          (∀ y ∈ rest, y.who ≠ x.who) ∧
          (x.host.mounts.get? internal.key ≠ none ∨ ∃ y ∈ rest, y.Unmounts internal) := by
  constructor
  · intro hmounts
    obtain ⟨first, probe, rest, rfl, hwho, hcall, hfirst, hrest⟩ :=
      asked_of_mounts hw hn hfar h hmounts
    refine ⟨fun y hy he hagain => ?_, first, probe, rest, rfl, hwho, hcall, hfirst, hrest⟩
    rcases List.mem_append.mp hy with hy | hy
    · exact hfirst y hy hagain
    · rcases List.mem_cons.mp hy with rfl | hy
      · simp [Moment.Mounts, hcall, Call.kind] at hagain
      · simp [Moment.Mounts, hrest y hy he, Mount.made, Call.kind] at hagain
  · intro volume subDir internal directory mode hv hs hi hd hc
    obtain ⟨earlier, hown⟩ := history_follows hv hs hi hd h (by rw [hc]; rfl)
    obtain ⟨first, m, rest, rfl, hwho, hsaid, -, hrest⟩ := exists_moment_of_own hown
    have hmounts : m.Mounts internal := by
      rw [Moment.Mounts, hsaid]
      exact ⟨rfl, rfl⟩
    refine ⟨first, m, rest, rfl, hwho, hsaid, fun y hy he => ?_,
      history_lasting hw internal h first m rest rfl hmounts⟩
    have hmem : y.said ∈ own x.who rest := mem_own.mpr ⟨y, hy, he, rfl⟩
    simp [hrest] at hmem

end

-- ---------------------------------------------------------------------------
-- Two publishes
-- ---------------------------------------------------------------------------

/-- Both create the sub-directory, one after the other. Then both ask about
the target before either mounts there. -/
def overlap : List (Fin 2) :=
  List.replicate 15 0 ++ List.replicate 15 1 ++ [0, 0, 1, 1] ++ List.replicate 5 0 ++
    List.replicate 5 1

/-- The internal path is mounted by the first, which the second takes for a
mount that was left and unmounts. Then the first creates its directory. -/
def undone : List (Fin 2) := List.replicate 6 0 ++ List.replicate 8 1 ++ [0]

abbrev twoPublishes (o : Options) (schedule : List (Fin 2)) : List (Moment (Fin 2) World) :=
  Routine.history World.answer schedule (fun _ => (publish o .ofSubDir).run) {}

theorem twoPublishes_split (o : Options) (schedule : List (Fin 2)) (n : Nat)
    (hn : n < (twoPublishes o schedule).length) :
    twoPublishes o schedule = (twoPublishes o schedule).take n ++
      (twoPublishes o schedule).get ⟨n, hn⟩ :: (twoPublishes o schedule).drop (n + 1) := by
  rw [List.get_eq_getElem, List.getElem_cons_drop, List.take_append_drop]

theorem twoPublishes_overlap :
    ∃ before x after, twoPublishes {} overlap = before ++ x :: after ∧ x.who = 1 ∧
      x.Mounts ⟨"/a"⟩ ∧ ∃ y ∈ before, y.who = 0 ∧ y.Mounts ⟨"/a"⟩ :=
  ⟨_, _, _, twoPublishes_split {} overlap 27 (by decide +kernel), by decide +kernel⟩

theorem twoPublishes_undone :
    ∃ before x after, twoPublishes {} undone = before ++ x :: after ∧ x.who = 0 ∧
      x.said.call = .createDirAll ⟨"/tmp/a/d"⟩ 0o775 ∧
      x.host.mounts.get? (Path.key ⟨"/tmp/a"⟩) = none :=
  ⟨_, _, _, twoPublishes_split {} undone 9 (by decide +kernel), by decide +kernel⟩

theorem overlapping_publishes_twoPublishes :
    ({} : World).faults = [] ∧ ({} : World).mounts.get? (Path.key ⟨"/a"⟩) = none ∧
      InternalElsewhere {} .ofSubDir ∧
      (∃ before x after, twoPublishes {} overlap = before ++ x :: after ∧
        x.who = 1 ∧ x.Mounts ⟨"/a"⟩ ∧
        (∀ y ∈ before, y.who = x.who → ¬ y.Mounts ⟨"/a"⟩) ∧
        ∃ y ∈ before, y.who = 0 ∧ y.Mounts ⟨"/a"⟩) ∧
      ∃ before x after, twoPublishes {} undone = before ++ x :: after ∧
        x.who = 0 ∧ x.said.call = .createDirAll ⟨"/tmp/a/d"⟩ 0o775 ∧
        x.host.mounts.get? (Path.key ⟨"/tmp/a"⟩) = none ∧
        ∃ first m rest, before = first ++ m :: rest ∧ m.who = x.who ∧
          m.said = ⟨.mount "10.0.0.1@tcp:/fs1" ⟨"/tmp/a"⟩ "lustre" [], .ok ()⟩ ∧
          (∀ y ∈ rest, y.who ≠ x.who) ∧ ∃ y ∈ rest, y.Unmounts ⟨"/tmp/a"⟩ := by
  have hfar : InternalElsewhere {} .ofSubDir := by
    intro _ internal hi
    obtain rfl : (⟨"/tmp/a"⟩ : Path) = internal := Except.ok.inj hi
    decide +kernel
  obtain ⟨before, x, after, hmount, hwho, hmounts, hother⟩ := twoPublishes_overlap
  obtain ⟨before', x', after', hcreate, hwho', hcall, hunmounted⟩ := twoPublishes_undone
  obtain ⟨hpublish, -⟩ := overlapping_publishes rfl rfl hfar hmount
  obtain ⟨-, hprovision⟩ := overlapping_publishes rfl rfl hfar hcreate
  obtain ⟨first, m, rest, hbefore, hm, hroot, hrest, hlast⟩ :=
    hprovision _ "d" ⟨"/tmp/a"⟩ ⟨"/tmp/a/d"⟩ 0o775 rfl rfl rfl rfl hcall
  exact ⟨rfl, rfl, hfar, ⟨before, x, after, hmount, hwho, hmounts, (hpublish hmounts).1, hother⟩,
    before', x', after', hcreate, hwho', hcall, hunmounted,
    first, m, rest, hbefore, hm, hroot, hrest, hlast.resolve_left (absurd hunmounted)⟩

/-- Two publishes can both mount at the target, and one can create its
directory where the other has unmounted the root; and where the internal path
is the target, one publish mounts there twice. -/
theorem overlapping_publishes_mountTwice :
    (¬ ∀ (o : Options) (request : PublishRequest) (w : World) (schedule : List (Fin 2)),
      w.faults = [] → w.mounts.get? request.target.key = none →
      Routine.orderly World.answer none schedule (fun _ => (publish o request).run) w = true →
      (Routine.history World.answer schedule (fun _ => (publish o request).run) w).countP
        (fun y => y.Mounts request.target) ≤ 1) ∧
    (¬ ∀ (o : Options) (request : PublishRequest) (w : World) (schedule : List (Fin 2)),
      w.faults = [] → w.mounts.get? request.target.key = none →
      Routine.orderly World.answer none schedule (fun _ => (publish o request).run) w = true →
      ∀ volume subDir internal directory mode, request.volume? = some volume →
        request.provisions? volume = some subDir →
        Path.internal o.workingDir request.target = .ok internal →
        Path.internalVolume o.workingDir request.target subDir = .ok directory →
        ∀ x ∈ Routine.history World.answer schedule (fun _ => (publish o request).run) w,
          x.said.call = .createDirAll directory mode → x.host.mounts.get? internal.key ≠ none) ∧
    ¬ ∀ (o : Options) (request : PublishRequest) (w : World) (schedule : List (Fin 2)),
      w.faults = [] → w.mounts.get? request.target.key = none →
      Routine.orderly World.answer none schedule (fun _ => (publish o request).run) w = true →
      ∀ i, (Routine.history World.answer schedule (fun _ => (publish o request).run) w).countP
        (fun y => y.who = i ∧ y.Mounts request.target) ≤ 1 := by
  refine ⟨fun h => ?_, fun h => ?_, fun h => ?_⟩
  · have hrun : Routine.orderly World.answer none overlap
          (fun _ => (publish {} .ofSubDir).run) {} = true ∧
        ¬ (twoPublishes {} overlap).countP (fun y => y.Mounts ⟨"/a"⟩) ≤ 1 := by
      decide +kernel
    exact hrun.2 (h {} .ofSubDir {} overlap rfl rfl hrun.1)
  · obtain ⟨before, x, after, hhistory, -, hcall, hunmounted⟩ := twoPublishes_undone
    have hmem : x ∈ twoPublishes {} undone := by simp [hhistory]
    exact h {} .ofSubDir {} undone rfl rfl (by decide +kernel) _ "d" ⟨"/tmp/a"⟩ ⟨"/tmp/a/d"⟩ 0o775
      rfl rfl rfl rfl x hmem hcall hunmounted
  · have hrun : Routine.orderly World.answer none (List.replicate 30 (0 : Fin 2))
          (fun _ => (publish { workingDir := ⟨"/"⟩ } .ofSubDir).run) {} = true ∧
        ¬ (twoPublishes { workingDir := ⟨"/"⟩ } (List.replicate 30 0)).countP
          (fun y => y.who = 0 ∧ y.Mounts ⟨"/a"⟩) ≤ 1 := by
      decide +kernel
    exact hrun.2 (h { workingDir := ⟨"/"⟩ } .ofSubDir {} (List.replicate 30 0) rfl rfl hrun.1 0)

end Service

end VolumeAgent
