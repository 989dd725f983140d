import VolumeAgent.Proofs.Host.Closed
import VolumeAgent.Proofs.Mount.Places
import VolumeAgent.Proofs.Routine.History

/-!
# A mount point that is shared

Several routines take turns, and each of them may mount at one place, which
it asks about first. `Shared` is what holds of that place on a host without
faults: it is mounted as soon as one of them has mounted there, and whoever
asks then is told. `Lasting` is what is left of a mount that others may undo.
-/

namespace VolumeAgent

open Host (Call World)
open VolumeAgent.Path (Key)

-- ---------------------------------------------------------------------------
-- Calls that leave a place as it is
-- ---------------------------------------------------------------------------

namespace Host

def Call.Leaves (k : Key) (c : Call) : Prop :=
  c.changesMounts = true ∨ c.kind = .removeDir →
    k ≠ c.path.key ∧ ¬ k.below c.path.key = true

namespace World

variable {w t : World} {p : Path}

theorem Effect.leaves_mounts (he : Effect w c t) (hc : c.Leaves k) :
    t.mounts.get? k = w.mounts.get? k :=
  he.mounts_ne fun h => (hc (.inl h)).1

theorem Effect.leaves_directory (he : Effect w c t) (hc : c.Leaves p.key)
    (hd : w.node? p = some .directory) : t.node? p = some .directory := by
  by_cases hk : c.kind = .createDirAll
  · exact he.keeps_directory (.inl hk) hd
  by_cases h : c.changesMounts = true ∨ c.kind = .removeDir
  · exact he.keeps_directory (.inr (hc h)) hd
  · cases he with
    | nothing => exact hd
    | mounted => exact absurd (.inl rfl) h
    | unmounted hm => exact absurd (.inl hm) h
    | madeDirs => exact absurd rfl hk
    | removedDir => exact absurd (.inr rfl) h

theorem node?_withDirs (w : World) (hp : p.isEmpty = false) :
    (w.withDirs p.key).node? p = some .directory := by
  refine node?_eq_directory.mpr ⟨hp, ?_⟩
  by_cases hk : p.key.names = []
  · exact .inl hk
  · refine .inr ?_
    rw [nodes_withDirs, if_pos (Key.mem_chain_self hk)]

theorem perform_mounted (c : Call) (h : w.mounts.get? k ≠ none) :
    (perform c w).2.mounts.get? k ≠ none ∨
      (c.kind = .unmount ∨ c.kind = .forceUnmount) ∧ c.path.key = k := by
  by_cases hc : (c.kind = .unmount ∨ c.kind = .forceUnmount) ∧ c.path.key = k
  · exact .inr hc
  · refine .inl ?_
    cases c with
    | mount source q fsType options =>
      rw [perform, mounts_withMount]
      split
      · simp
      · exact h
    | unmount q =>
      exact ((perform_effect _ w).mounts_ne fun _ hk => hc ⟨.inl rfl, hk.symm⟩).trans_ne h
    | forceUnmount q ms =>
      exact ((perform_effect _ w).mounts_ne fun _ hk => hc ⟨.inr rfl, hk.symm⟩).trans_ne h
    | _ =>
      refine ((perform_effect _ w).mounts_ne (k := k) ?_).trans_ne h
      simp [Call.changesMounts]

end World

end Host

-- ---------------------------------------------------------------------------
-- Mounts at the target
-- ---------------------------------------------------------------------------

def Moment.Mounts (p : Path) (m : Moment ι σ) : Prop :=
  m.said.call.kind = .mount ∧ m.said.call.path = p

instance (p : Path) (m : Moment ι σ) : Decidable (m.Mounts p) :=
  inferInstanceAs (Decidable (_ ∧ _))

namespace Mount

def made (p : Path) : Exchange := ⟨.createDirAll p directoryMode, .ok ()⟩

/-- Has asked whether `p` is mounted, has not been told so, and has made its
directory since, twice. -/
def Approached (p : Path) (past : List Exchange) : Prop :=
  ∃ earlier answer, past = earlier ++ [⟨.isMountPoint p, answer⟩, made p, made p] ∧
    answer ≠ .ok true

/-- What one of several publishes does about a target: it mounts there when
it has approached it, and leaves it as it is otherwise. -/
def Minds (p : Path) (past : List Exchange) (c : Call) : Prop :=
  c.Leaves p.key ∨ c.kind = .mount ∧ c.path = p ∧ Approached p past

/-- What a target answers that nobody unmounts or removes: a mount point can
be listed, a directory once made can be made again, and mounted on. -/
def Credible (p : Path) (past : List Exchange) : Exchange → Prop
  | ⟨.isMountPoint q, .error e⟩ => q = p → e.isMissing = true
  | ⟨.readDir q, .error _⟩ => q = p → past.getLast? ≠ some ⟨.isMountPoint p, .ok true⟩
  | ⟨.createDirAll q _, .error _⟩ => q = p → made p ∉ past
  | ⟨.mount _ q _ _, .error _⟩ => q ≠ p
  | _ => True

abbrev minding (p : Path) : Contract (List Exchange) := .heard (Minds p) (Credible p)

theorem tends_minding (hne : q.key ≠ p.key) (hbelow : ¬ p.key.below q.key = true) :
    Tends (minding p) q where
  call hc _ := .inl fun _ => hc ▸ ⟨hne.symm, hbelow⟩

section
variable {past : List Exchange}

theorem makeDir_minds :
    Triple (minding p) (makeDir p) past (fun _ now => now = past ++ [made p])
      (fun _ _ => made p ∉ past) := by
  refine Triple.ask (.inl (by simp [Call.Leaves, Call.changesMounts, Call.kind])) ?_
  rintro (e | ⟨⟨⟩⟩) now ⟨hcredible, rfl⟩
  · exact hcredible rfl
  · rfl

theorem ensureMountPoint_minds :
    Triple (minding p) (ensureMountPoint p) past
      (fun mounted now => mounted = false → ∃ earlier answer,
        now = earlier ++ [⟨.isMountPoint p, answer⟩, made p] ∧ answer ≠ .ok true)
      (fun _ _ => True) := by
  -- Whatever the answer is, unless it says that something is mounted.
  have hmake : ∀ answer : Except Host.IoError Bool, answer ≠ .ok true →
      Triple (minding p) (makeDir p >>= fun _ => pure false) (past ++ [⟨.isMountPoint p, answer⟩])
        (fun mounted now => mounted = false → ∃ earlier answer,
          now = earlier ++ [⟨.isMountPoint p, answer⟩, made p] ∧ answer ≠ .ok true)
        (fun _ _ => True) := by
    intro answer hanswer
    refine Triple.bind (makeDir_minds.mono (fun _ _ h => h) fun _ _ _ => trivial) ?_
    rintro _ _ rfl
    exact fun _ => ⟨past, answer, by simp, hanswer⟩
  have hstill : ∀ c : Call, c.hasEffect = false → c.Leaves p.key := by
    intro c hc
    cases c <;> simp_all [Call.Leaves, Call.changesMounts, Call.kind, Call.hasEffect]
  unfold ensureMountPoint probe
  rw [bind_assoc]
  refine Triple.ask (.inl (hstill _ rfl)) ?_
  rintro (e | ⟨_ | _⟩) now ⟨hcredible, rfl⟩
  · have he : e.isMissing = true := hcredible rfl
    simp only [he, if_true, pure_bind]
    exact hmake (.error e) (by simp)
  · simp only [pure_bind]
    exact hmake (.ok false) (by simp)
  · simp only [bind_assoc]
    refine Triple.ask (.inl (hstill _ rfl)) ?_
    rintro (e | names) now ⟨hcredible, rfl⟩
    · exact absurd (by simp) (hcredible rfl)
    · simp

theorem mountOrRemoveTarget_minds
    (h : ∃ earlier answer, past = earlier ++ [⟨.isMountPoint p, answer⟩, made p] ∧
      answer ≠ .ok true) :
    Triple (minding p) (mountOrRemoveTarget o source p fsType options) past
      (fun _ _ => True) (fun _ _ => True) := by
  obtain ⟨earlier, answer, rfl, hanswer⟩ := h
  -- Nothing is left that could fail.
  have hmount : Triple (minding p) (mount o source p fsType options)
      (earlier ++ [⟨.isMountPoint p, answer⟩, made p]) (fun _ _ => True) (fun _ _ => False) := by
    refine triple_mount (makeDir_minds.mono (fun _ _ h => h) fun _ _ h => h (by simp)) ?_ ?_ ?_
    · rintro _ rfl
      exact .inr ⟨rfl, rfl, earlier, answer, by simp, hanswer⟩
    · exact fun _ _ _ _ => trivial
    · rintro _ _ e rfl ⟨hcredible, -⟩
      exact hcredible rfl
  exact Triple.outcome hmount (fun _ _ _ => trivial) fun _ _ hfalse => hfalse.elim

end

end Mount

-- ---------------------------------------------------------------------------
-- A target that is shared
-- ---------------------------------------------------------------------------

def Moment.Settles (p : Path) (m : Moment ι σ) : Prop :=
  m.said = Mount.made p ∨ m.said = ⟨.isMountPoint p, .ok true⟩ ∨ m.Mounts p

/-- What several publishes make of a target that is not mounted at first: it
is mounted as soon as one of them has mounted there, and stays so. -/
structure Shared (p : Path) (past : List (Moment ι World)) (w : World) : Prop where
  faults : w.faults = []
  unmounted : (∀ m ∈ past, ¬ m.Mounts p) → w.mounts.get? p.key = none
  mounted : m ∈ past → m.Mounts p → w.mounts.get? p.key ≠ none
  settled : m ∈ past → m.Settles p → w.Clear p.key ∧ w.node? p = some .directory

namespace Shared

variable {ι : Type} {p : Path} {past : List (Moment ι World)} {w : World} {i : ι}

theorem settled_of_mounted (h : Shared p past w) (hm : w.mounts.get? p.key ≠ none) :
    w.Clear p.key ∧ w.node? p = some .directory := by
  have hsome : ∃ m ∈ past, m.Mounts p := by
    refine Classical.byContradiction fun hnone => hm (h.unmounted fun m hmem hmounts => ?_)
    exact hnone ⟨m, hmem, hmounts⟩
  obtain ⟨m, hmem, hmounts⟩ := hsome
  exact h.settled hmem (.inr (.inr hmounts))

theorem answer_mounted (h : Shared p past w) (hm : m ∈ past) (hmounts : m.Mounts p) :
    (World.answer (.isMountPoint p) w).1 = .ok true := by
  have hd := (h.settled hm (.inr (.inr hmounts))).2
  have hhas := Host.Table.has_eq_true.mpr (h.mounted hm hmounts)
  rw [World.answer_of_calm h.faults]
  simp [World.perform, hd, hhas]

/-- A call settles a target only if it is one already, or by making it. -/
theorem settled_of_said (h : Shared p past w) (hp : p.isEmpty = false)
    (hx : (⟨c, (World.perform c w).1⟩ : Exchange) = Mount.made p ∨
      (⟨c, (World.perform c w).1⟩ : Exchange) = ⟨.isMountPoint p, .ok true⟩) :
    (World.perform c w).2.Clear p.key ∧ (World.perform c w).2.node? p = some .directory := by
  rcases hx with hx | hx
  · simp only [Mount.made, Exchange.mk.injEq] at hx
    obtain ⟨rfl, hok⟩ := hx
    by_cases hclear : w.Clear p.key
    · simp only [World.perform, World.createdDirs_of_clear hclear]
      exact ⟨World.clear_withDirs hclear _, World.node?_withDirs w hp⟩
    · obtain ⟨e, he⟩ := World.createdDirs_of_not_clear hclear
      simp [World.perform, he] at hok
  · simp only [Exchange.mk.injEq] at hx
    obtain ⟨rfl, hok⟩ := hx
    refine h.settled_of_mounted (Host.Table.has_eq_true.mp ?_)
    by_cases hn : (w.node? p).isSome = true <;> simp_all [World.perform]

section
variable [DecidableEq ι]

theorem settled_of_own (h : Shared p past w) (hx : x ∈ own i past)
    (hs : x = Mount.made p ∨ x = ⟨.isMountPoint p, .ok true⟩) :
    w.Clear p.key ∧ w.node? p = some .directory := by
  obtain ⟨m, hm, -, rfl⟩ := mem_own.mp hx
  exact h.settled hm (hs.imp_right .inl)

theorem credible (h : Shared p past w) (c : Call) :
    Mount.Credible p (own i past) ⟨c, (World.perform c w).1⟩ := by
  cases c with
  | isMountPoint q =>
    simp only [World.perform]
    split
    · trivial
    · exact fun _ => rfl
  | readDir q =>
    simp only [World.perform]
    split
    · rename_i hn
      rintro rfl hlast
      simp [(h.settled_of_own (List.mem_of_getLast? hlast) (.inr rfl)).2] at hn
    · rename_i hn
      rintro rfl hlast
      simp [(h.settled_of_own (List.mem_of_getLast? hlast) (.inr rfl)).2] at hn
    · trivial
  | createDirAll q mode =>
    simp only [World.perform]
    cases hr : (w.createdDirs q).1 with
    | ok u => trivial
    | error e =>
      rintro rfl hmade
      simp [World.createdDirs_of_clear (h.settled_of_own hmade (.inl rfl)).1] at hr
  | _ => trivial

end

theorem step_of_leaves (h : Shared p past w) (hp : p.isEmpty = false) (hc : c.Leaves p.key) :
    Shared p (past ++ [⟨i, ⟨c, (World.perform c w).1⟩, w⟩]) (World.perform c w).2 := by
  have he := World.perform_effect c w
  have hmounts := he.leaves_mounts hc
  have hno : ¬ Moment.Mounts p (⟨i, ⟨c, (World.perform c w).1⟩, w⟩ : Moment ι World) := by
    rintro ⟨hk, hpath⟩
    refine (hc (.inl ?_)).1 (congrArg Path.key hpath).symm
    cases c <;> simp_all [Call.kind, Call.changesMounts]
  refine ⟨World.faults_perform h.faults c, fun hall => ?_, fun {m} hm hmounted => ?_,
    fun {m} hm hsettles => ?_⟩
  · rw [hmounts]
    exact h.unmounted fun m hm => hall m (List.mem_append_left _ hm)
  · rcases List.mem_append.mp hm with hm | hm
    · rw [hmounts]
      exact h.mounted hm hmounted
    · obtain rfl := List.mem_singleton.mp hm
      exact absurd hmounted hno
  · rcases List.mem_append.mp hm with hm | hm
    · have hold := h.settled hm hsettles
      exact ⟨he.clear hold.1, he.leaves_directory hc hold.2⟩
    · obtain rfl := List.mem_singleton.mp hm
      rcases hsettles with hsaid | hsaid | hmounted
      · exact h.settled_of_said hp (.inl hsaid)
      · exact h.settled_of_said hp (.inr hsaid)
      · exact absurd hmounted hno

theorem step_of_mount (h : Shared p past w) (hk : c.kind = .mount) (hpath : c.path = p)
    (hd : w.Clear p.key ∧ w.node? p = some .directory) :
    Shared p (past ++ [⟨i, ⟨c, (World.perform c w).1⟩, w⟩]) (World.perform c w).2 := by
  cases c with
  | mount source q fsType options =>
    obtain rfl : q = p := hpath
    refine ⟨h.faults, fun hall => ?_, fun _ _ => ?_, fun _ _ => hd⟩
    · exact absurd ⟨rfl, rfl⟩ (hall _ (List.mem_append_right _ (List.mem_singleton_self _)))
    · simp [World.perform, World.mounts_withMount]
  | _ => cases hk

theorem step [DecidableEq ι] (h : Shared p past w) (hp : p.isEmpty = false)
    (hc : Mount.Minds p (own i past) c) :
    Mount.Credible p (own i past) ⟨c, (World.answer c w).1⟩ ∧
      Shared p (past ++ [⟨i, ⟨c, (World.answer c w).1⟩, w⟩]) (World.answer c w).2 := by
  rw [World.answer_of_calm h.faults]
  refine ⟨h.credible c, ?_⟩
  rcases hc with hc | ⟨hk, hpath, earlier, answer, hpast, -⟩
  · exact h.step_of_leaves hp hc
  · have hmade : Mount.made p ∈ own i past := by simp [hpast]
    exact h.step_of_mount hk hpath (h.settled_of_own hmade (.inl rfl))

end Shared

-- ---------------------------------------------------------------------------
-- Mounts that last until they are undone
-- ---------------------------------------------------------------------------

def Moment.Unmounts (p : Path) (m : Moment ι σ) : Prop :=
  (m.said.call.kind = .unmount ∨ m.said.call.kind = .forceUnmount) ∧
    m.said.call.path.key = p.key

def Lasting (p : Path) (past : List (Moment ι World)) (w : World) : Prop :=
  ∀ first m rest, past = first ++ m :: rest → m.Mounts p →
    w.mounts.get? p.key ≠ none ∨ ∃ y ∈ rest, y.Unmounts p

theorem Lasting.step {past : List (Moment ι World)} (h : Lasting p past w) (i : ι) (c : Call) :
    Lasting p (past ++ [⟨i, ⟨c, (World.perform c w).1⟩, w⟩]) (World.perform c w).2 := by
  intro first m rest hpast hm
  rcases List.eq_nil_or_concat rest with rfl | ⟨rest, y, rfl⟩
  · -- The mount has just been made.
    obtain ⟨-, hlast⟩ := List.append_inj' hpast rfl
    obtain rfl := (List.cons.inj hlast).1
    obtain ⟨hk, hpath⟩ := hm
    cases c with
    | mount source q fsType options =>
      obtain rfl : q = p := hpath
      simp [World.perform, World.mounts_withMount]
    | _ => cases hk
  · have hsplit : past ++ [⟨i, ⟨c, (World.perform c w).1⟩, w⟩] = (first ++ m :: rest) ++ [y] := by
      simpa using hpast
    obtain ⟨hold, hlast⟩ := List.append_inj' hsplit rfl
    obtain rfl := (List.cons.inj hlast).1
    rcases h first m rest hold hm with hmounted | ⟨y, hy, hunmounts⟩
    · rcases World.perform_mounted c hmounted with hmounted | hunmounts
      · exact .inl hmounted
      · exact .inr ⟨⟨i, ⟨c, (World.perform c w).1⟩, w⟩, by simp, hunmounts⟩
    · exact .inr ⟨y, by simp [hy], hunmounts⟩

theorem history_lasting {ι : Type} [DecidableEq ι] {schedule : List ι} {threads : ι → Routine α}
    {w : World} {x : Moment ι World} {before after : List (Moment ι World)}
    (hw : w.faults = []) (p : Path)
    (h : Routine.history World.answer schedule threads w = before ++ x :: after) :
    Lasting p before x.host := by
  have hm : ∀ i, (threads i).Meets (.heard (fun _ _ => True) fun _ _ => True)
      (own i ([] : List (Moment ι World))) fun _ _ => True :=
    fun i => Routine.meets_of_forall (fun _ _ => trivial) fun _ _ => trivial
  have hstart : w.faults = [] ∧ Lasting p ([] : List (Moment ι World)) w :=
    ⟨hw, by simp [Lasting]⟩
  have hstep : ∀ past i c w, (w.faults = [] ∧ Lasting p past w) → True → True ∧
      (World.answer c w).2.faults = [] ∧
        Lasting p (past ++ [(⟨i, ⟨c, (World.answer c w).1⟩, w⟩ : Moment ι World)])
          (World.answer c w).2 := by
    rintro past i c w ⟨hfaults, hlasting⟩ -
    rw [World.answer_of_calm hfaults]
    exact ⟨trivial, World.faults_perform hfaults c, hlasting.step i c⟩
  obtain ⟨-, -, -, hlasting⟩ := Routine.history_sound _ hstep hstart hm h
  exact hlasting

end VolumeAgent
