import VolumeAgent.Proofs.Host.World
import VolumeAgent.Proofs.Routine.Footprint

/-!
# Hosts in memory with error faults

A fault whose result is an error of the call's family makes the call fail
without effect. So a host in memory keeps the contract `faulty`: a call is
carried out, or fails and leaves everything as it is unless it is spared.
States of the contract are hosts without their list of faults.
-/

namespace VolumeAgent.Host

open VolumeAgent.Path (Key)

-- ---------------------------------------------------------------------------
-- Error faults
-- ---------------------------------------------------------------------------

def Call.Fails : (c : Call) → c.Answer → Prop
  | .mount .., a | .unmount _, a | .forceUnmount .., a => ∃ e, a = .error e
  | .createDirAll .., a | .stat _, a | .removeDir _, a => ∃ e, a = .error e
  | .isMountPoint _, a | .pathExists _, a => ∃ e, a = .error e
  | .readDir _, a => ∃ e, a = .error e
  | .capacity _, a => ∃ e, a = .error e

namespace Fault

def isError (f : Fault) : Bool :=
  match f.kind, f.result with
  | .mount, .refuses _ | .unmount, .refuses _ | .forceUnmount, .refuses _ => true
  | .mount, _ | .unmount, _ | .forceUnmount, _ => false
  | _, .fails _ => true
  | _, _ => false

theorem fails_of_isError {f : Fault} (h : f.isError = true) (hc : f.covers c = true) :
    c.Fails (f.result.answer c) := by
  obtain ⟨kind, path, skip, times, result⟩ := f
  have hkind : kind = c.kind := by
    simp only [covers, Bool.and_eq_true, beq_iff_eq] at hc
    exact hc.1
  subst hkind
  cases c <;> cases result <;> simp_all [isError, Call.kind, FaultResult.answer, Call.Fails]

/-- Errors only, and none for the calls that are spared. -/
structure Spares (spared : Call → Prop) (f : Fault) : Prop where
  isError : f.isError = true
  not_covers : ∀ c, spared c → f.covers c = false

end Fault

theorem takeFault_eq_some {r : FaultResult} (h : (takeFault c fs).1 = some r) :
    ∃ f ∈ fs, f.covers c = true ∧ f.result = r := by
  induction fs with
  | nil => simp [takeFault] at h
  | cons f fs ih =>
    have hrest : (takeFault c fs).1 = some r →
        ∃ g ∈ f :: fs, g.covers c = true ∧ g.result = r := by
      intro h
      obtain ⟨g, hg, hgr⟩ := ih h
      exact ⟨g, List.mem_cons_of_mem _ hg, hgr⟩
    simp only [takeFault] at h
    split at h
    · exact hrest h
    · rename_i hc
      split at h
      · exact hrest h
      · exact hrest h
      · exact ⟨f, List.mem_cons_self, by simpa using hc, by simpa using h⟩

theorem forall_mem_takeFault {P : Fault → Prop}
    (hP : ∀ f skip times, P f → P { f with skip, times }) (h : ∀ f ∈ fs, P f) :
    ∀ f ∈ (takeFault c fs).2, P f := by
  induction fs with
  | nil => simp [takeFault]
  | cons f fs ih =>
    have hf := h f List.mem_cons_self
    have hfs : ∀ g ∈ fs, P g := fun g hg => h g (List.mem_cons_of_mem _ hg)
    have hpass : ∀ f', P f' → ∀ g ∈ f' :: (takeFault c fs).2, P g := by
      intro f' hf' g hg
      rcases List.mem_cons.mp hg with rfl | hg
      · exact hf'
      · exact ih hfs g hg
    -- The fault at the head is passed over, uses up a skip, or answers.
    simp only [takeFault]
    split
    · exact hpass f hf
    · split
      · exact hpass _ (hP f _ f.times hf)
      · exact hpass f hf
      · rename_i times _ _ _
        intro g hg
        rcases List.mem_cons.mp hg with rfl | hg
        · exact hP f f.skip _ hf
        · exact hfs g hg

-- ---------------------------------------------------------------------------
-- The contract of a host in memory
-- ---------------------------------------------------------------------------

namespace World

def calm (w : World) : World := { w with faults := [] }

theorem calm_eq_self {w : World} (h : w.faults = []) : w.calm = w := by
  simp [calm, ← h]

@[simp] theorem mounts_calm (w : World) : w.calm.mounts = w.mounts := rfl

@[simp] theorem node?_calm (w : World) (p : Path) : w.calm.node? p = w.node? p := rfl

def faulty (spared : Call → Prop) : Contract World where
  allows _ _ := True
  answers w c a t := perform c w = (a, t) ∨ ¬ spared c ∧ c.Fails a ∧ t = w

abbrev faultless : Contract World := faulty fun _ => True

theorem eq_of_faulty {w t : World} {a : c.Answer} (hc : c.hasEffect = false)
    (h : (faulty spared).answers w c a t) : t = w := by
  rcases h with h | ⟨-, -, rfl⟩
  · rw [← perform_still (w := w) hc, h]
  · rfl

structure Carries (K : Contract World) (c : Call) : Prop where
  allows : K.allows w c
  answers : K.answers w c a t → perform c w = (a, t)

theorem carries_faulty (hs : spared c) : Carries (faulty spared) c :=
  ⟨trivial, fun h => h.resolve_right fun hf => hf.1 hs⟩

theorem Carries.restrict {K : Contract World} (h : Carries K c) {ok : Call → Prop} (hc : ok c) :
    Carries (K.restrict ok) c :=
  ⟨⟨h.allows, hc⟩, h.answers⟩

theorem perform_faults (c : Call) (w : World) (fs : List Fault) :
    perform c { w with faults := fs } =
      ((perform c w).1, { (perform c w).2 with faults := fs }) := by
  cases c with
  | unmount target | forceUnmount target _ =>
    simp only [perform, unmounted]
    split <;> rfl
  | createDirAll path _ =>
    simp only [perform, createdDirs]
    split <;> rfl
  | removeDir path =>
    have hnode : ({ w with faults := fs } : World).node? path = w.node? path := rfl
    have hkids : ({ w with faults := fs } : World).children path.key = w.children path.key := rfl
    simp only [perform, removedDir, hnode, hkids]
    split
    · rfl
    · rfl
    · split
      · rfl
      · split <;> rfl
  | _ => rfl

/-- A call is carried out, or a fault answers it and nothing changes. -/
theorem answer_calm (c : Call) (w : World) :
    perform c w.calm = ((answer c w).1, (answer c w).2.calm) ∨
      ∃ f ∈ w.faults, f.covers c = true ∧ (answer c w).1 = f.result.answer c ∧
        (answer c w).2.calm = w.calm := by
  cases hr : takeFault c w.faults with
  | mk result faults =>
    cases result with
    | some result =>
      obtain ⟨f, hf, hc, rfl⟩ := takeFault_eq_some (congrArg Prod.fst hr)
      exact .inr ⟨f, hf, hc, by simp [answer, hr], by simp [answer, hr, calm]⟩
    | none =>
      refine .inl ?_
      simp only [answer, hr, calm, perform_faults]

theorem forall_mem_faults_answer {P : Fault → Prop} {w : World}
    (hP : ∀ f skip times, P f → P { f with skip, times }) (h : ∀ f ∈ w.faults, P f) (c : Call) :
    ∀ f ∈ (answer c w).2.faults, P f := by
  have hrest : ∀ f ∈ (takeFault c w.faults).2, P f := forall_mem_takeFault hP h
  unfold answer
  split
  · rename_i hr
    simpa [hr] using hrest
  · rename_i hr
    rw [perform_faults]
    simpa [hr] using hrest

theorem keeps_faulty (spared : Call → Prop) :
    Routine.Keeps (faulty spared) answer calm fun w => ∀ f ∈ w.faults, f.Spares spared where
  answers {w c} h := by
    rcases answer_calm c w with hdone | ⟨f, hf, hc, ha, hw⟩
    · exact .inl hdone
    · -- The answer is made up, so the call is not spared and fails.
      refine .inr ⟨fun hs => ?_, ?_, hw⟩
      · simp [(h f hf).not_covers c hs] at hc
      · exact ha ▸ Fault.fails_of_isError (h f hf).isError hc
  invariant {w c} h :=
    forall_mem_faults_answer (fun _ _ _ hf => ⟨hf.isError, hf.not_covers⟩) h c

def Stable (ok : Call → Prop) (I : World → Prop) : Prop :=
  ∀ c w, ok c → I w → I (perform c w).2

theorem Stable.of_effect {I : World → Prop}
    (h : ∀ {c w t}, ok c → Effect w c t → I w → I t) : Stable ok I :=
  fun c w hc hw => h hc (perform_effect c w) hw

theorem Stable.faulty {I : World → Prop} (h : Stable ok I) (c : Call) (w : World) (a : c.Answer)
    (t : World) (hc : ok c) (hw : I w) (ha : (faulty spared).answers w c a t) : I t := by
  rcases ha with ha | ⟨-, -, rfl⟩
  · have ht := h c w hc hw
    rw [ha] at ht
    exact ht
  · exact hw

theorem Stable.answer {I : World → Prop} (h : Stable ok I)
    (hI : ∀ w fs, I w → I { w with faults := fs }) (c : Call) (w : World) (hc : ok c) (hw : I w) :
    I (answer c w).2 := by
  unfold World.answer
  split
  · exact hI w _ hw
  · exact h c _ hc (hI w _ hw)

theorem answer_of_calm {w : World} (h : w.faults = []) (c : Call) : answer c w = perform c w := by
  have hw : ({ w with faults := [] } : World) = w := calm_eq_self h
  simp [answer, h, takeFault, hw]

theorem faults_answer {w : World} (h : w.faults = []) (c : Call) : (answer c w).2.faults = [] := by
  have hw : ({ w with faults := [] } : World) = w := calm_eq_self h
  have hp := perform_faults c w []
  rw [hw] at hp
  rw [answer_of_calm h, hp]

theorem faults_perform {w : World} (h : w.faults = []) (c : Call) :
    (perform c w).2.faults = [] := by
  rw [← answer_of_calm h]
  exact faults_answer h c

end World

end VolumeAgent.Host

-- ---------------------------------------------------------------------------
-- Runs
-- ---------------------------------------------------------------------------

namespace VolumeAgent

open Host (Call World)

namespace Attempt

/-- What an attempt comes to on a host in memory, and the host after it. -/
def runOn (m : Attempt α) (w : World) : Except Failure α × World := m.run.run World.answer w

theorem runOn_bind_ok {m : Attempt α} (h : m.runOn w = (.ok a, t)) (f : α → Attempt β) :
    (m >>= f).runOn w = (f a).runOn t := by
  unfold runOn at h ⊢
  rw [run_bind, Routine.run_bind, h]

theorem runOn_bind_error {m : Attempt α} (h : m.runOn w = (.error e, t)) (f : α → Attempt β) :
    (m >>= f).runOn w = (.error e, t) := by
  unfold runOn at h ⊢
  rw [run_bind, Routine.run_bind, h]
  rfl

theorem faults_runOn (h : w.faults = []) (m : Attempt α) : (m.runOn w).2.faults = [] :=
  Routine.run_invariant (I := fun w : World => w.faults = [])
    (fun c _ hs => World.faults_answer hs c) h m.run

end Attempt

section
variable {spared : Call → Prop} {w : World} {Q : α → World → Prop} {E : Failure → World → Prop}

theorem triple_of_forall {m : Attempt α} (hq : ∀ a t, Q a t) (he : ∀ f t, E f t) :
    Triple (World.faulty spared) m w Q E :=
  Routine.meets_of_forall (fun _ _ => trivial) fun r t => by
    cases r with
    | ok a => exact hq a t
    | error f => exact he f t

theorem Triple.ask_faulty {f : c.Answer → Attempt α}
    (hdone : Triple (World.faulty spared) (f (World.perform c w).1) (World.perform c w).2 Q E)
    (hfault : ∀ a, ¬ spared c → c.Fails a → Triple (World.faulty spared) (f a) w Q E) :
    Triple (World.faulty spared) (Attempt.ask c >>= f) w Q E := by
  refine Triple.ask trivial ?_
  rintro a t (h | ⟨hs, ha, rfl⟩)
  · rw [h] at hdone
    exact hdone
  · exact hfault a hs ha

theorem Triple.ask_carried {K : Contract World} {f : c.Answer → Attempt α} (hc : World.Carries K c)
    (hdone : Triple K (f (World.perform c w).1) (World.perform c w).2 Q E) :
    Triple K (Attempt.ask c >>= f) w Q E := by
  refine Triple.ask hc.allows ?_
  intro a t h
  rw [hc.answers h] at hdone
  exact hdone

theorem Triple.askLocked_carried {K : Contract World} {f : c.Answer → Attempt α}
    (hc : World.Carries K c)
    (hdone : Triple K (f (World.perform c w).1) (World.perform c w).2 Q E) :
    Triple K (Attempt.askLocked c >>= f) w Q E := by
  refine Triple.askLocked hc.allows ?_
  intro a t h
  rw [hc.answers h] at hdone
  exact hdone

theorem Triple.ask_spared {f : c.Answer → Attempt α} (hs : spared c)
    (hdone : Triple (World.faulty spared) (f (World.perform c w).1) (World.perform c w).2 Q E) :
    Triple (World.faulty spared) (Attempt.ask c >>= f) w Q E :=
  Triple.ask_carried (World.carries_faulty hs) hdone

theorem Triple.runOn_of_keeps {K : Contract World} {I : World → Prop} {m : Attempt α}
    (hk : Routine.Keeps K World.answer World.calm I) (h : Triple K m w.calm Q E) (hw : I w) :
    match (m.runOn w).1 with
    | .ok a => Q a (m.runOn w).2.calm
    | .error f => E f (m.runOn w).2.calm :=
  Routine.Meets.run hk hw h

theorem Triple.runOn {m : Attempt α} (h : Triple (World.faulty spared) m w.calm Q E)
    (hw : ∀ f ∈ w.faults, f.Spares spared) :
    match (m.runOn w).1 with
    | .ok a => Q a (m.runOn w).2.calm
    | .error f => E f (m.runOn w).2.calm :=
  h.runOn_of_keeps (World.keeps_faulty spared) hw

theorem Triple.runOn_faultless {m : Attempt α} (h : Triple World.faultless m w Q E)
    (hw : w.faults = []) :
    match m.runOn w with
    | (.ok a, t) => Q a t ∧ t.faults = []
    | (.error f, t) => E f t ∧ t.faults = [] := by
  have hfaults := Attempt.faults_runOn hw m
  have hspares : ∀ f ∈ w.faults, f.Spares fun _ => True := by simp [hw]
  have hrun := Triple.runOn (World.calm_eq_self hw ▸ h) hspares
  rw [World.calm_eq_self hfaults] at hrun
  cases hr : m.runOn w with
  | mk r t =>
    rw [hr] at hrun hfaults
    cases r <;> exact ⟨hrun, hfaults⟩

theorem Triple.after {m : Attempt α} {P : World → Prop}
    (h : Triple (World.faulty spared) m w.calm (fun _ => P) (fun _ => P))
    (hw : ∀ f ∈ w.faults, f.Spares spared) : P (m.runOn w).2.calm := by
  have hrun := h.runOn hw
  cases hr : (m.runOn w).1 <;> rw [hr] at hrun <;> exact hrun

end

end VolumeAgent
