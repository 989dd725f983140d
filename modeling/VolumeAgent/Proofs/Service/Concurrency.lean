import VolumeAgent.Proofs.Host.Territory
import VolumeAgent.Proofs.Routine.Interleaving
import VolumeAgent.Proofs.Service.Job

/-!
# Jobs on separate targets do not interfere

`concurrent_jobs`: publishes and unpublishes of separate targets may take
turns in any way. Each comes to what it comes to alone, and all ways end with
the same nodes and mounts, also those where one job follows another. The calls of a
job are about its target and its internal path, which form a territory. Only
an unpublish looks at a directory that others change as well, and what it
comes to does not depend on what it sees there.
-/

namespace VolumeAgent.Service

open Host (Call Free Territories World)
open VolumeAgent.Path (Key)

def internalKey (o : Options) (target : Path) : Key :=
  ⟨o.workingDir.key.absolute, o.workingDir.key.names ++ target.key.names⟩

/-- What lies at or below a target or its internal path. -/
def ground (o : Options) (target : Path) (k : Key) : Bool :=
  target.key.names.isPrefixOf k.names || (internalKey o target).names.isPrefixOf k.names

section
variable {o : Options} {w : World} {target : Path}

theorem ground_iff {k : Key} : ground o target k = true ↔
    target.key.names <+: k.names ∨ (internalKey o target).names <+: k.names := by
  simp [ground]

theorem ground_target (o : Options) (target : Path) : ground o target target.key = true :=
  ground_iff.mpr (.inl (List.prefix_refl _))

theorem ground_beyond_internal (hi : Path.internal o.workingDir target = .ok internal)
    {k : Key} (hk : internal.key.names <+: k.names) : ground o target k = true := by
  rw [Path.names_internal hi] at hk
  exact ground_iff.mpr (.inr hk)

theorem territories_ground {targets : ι → Path}
    (haway : ∀ i, (targets i).key.Apart o.workingDir.key)
    (hapart : ∀ i j, i ≠ j → (targets i).key.Apart (targets j).key) :
    Territories fun i => ground o (targets i) where
  names_ne_nil {i k} h hnil := by
    have hne := (haway i).names_ne_nil
    rcases ground_iff.mp h with h | h <;> simp [internalKey, hnil, hne] at h
  below {i k j} h hj := by
    obtain ⟨-, hpre, -⟩ := Key.below_iff.mp hj
    exact ground_iff.mpr ((ground_iff.mp h).imp (·.trans hpre) (·.trans hpre))
  apart {i k j} h h' := by
    refine Classical.byContradiction fun hne => ?_
    have hfar : ∀ i j, (targets i).key.Apart (internalKey o (targets j)) :=
      fun i j => (haway i).beyond (List.prefix_append _ _)
    rcases ground_iff.mp h with h | h <;> rcases ground_iff.mp h' with h' | h'
    · exact (hapart i j hne).clash h h'
    · exact (hfar i j).clash h h'
    · exact (hfar j i).clash h' h
    · exact ((hapart i j hne).copy rfl rfl).clash h h'

-- ---------------------------------------------------------------------------
-- A job among others
-- ---------------------------------------------------------------------------

theorem publish_grounded (request : PublishRequest) :
    (publish o request).Uses fun c => ground o request.target c.path.key = true := by
  have hpath : ∀ p : Path, ground o request.target p.key = true →
      Mount.Permits (.only fun c => ground o request.target c.path.key = true) p := by
    intro p hp
    refine ⟨fun {c s} hc _ => ?_, fun _ => hp⟩
    subst hc
    exact hp
  refine publish_obeys (hpath _ (ground_target o _)) (fun _ subDir _ _ => ⟨?_, ?_⟩) ()
  · exact fun hi => hpath _ (ground_beyond_internal hi (List.prefix_refl _))
  · intro directory _ hd
    obtain ⟨internal, hi, -⟩ := Path.internalVolume_ok hd
    exact ground_beyond_internal hi (Path.key_internalVolume hi hd).2

theorem reliable_inPart (part : Key → Bool) (hp : part p.key = true) :
    Mount.Reliable (World.inPart part) p where
  carries {c} hc := ⟨.inl (hc ▸ hp), fun {_ _ _} h => by
    subst hc
    simpa [World.inPart, hp] using h⟩
  lists := .inr rfl
  still {w q a t} h := by
    cases hq : part q.key with
    | true =>
      simp only [World.inPart, Call.path, hq, if_true] at h
      exact (congrArg Prod.snd h).symm
    | false => simpa [World.inPart, Call.path, hq] using h

theorem Job.alone (j : Job) (hf : w.faults = []) (hg : w.Grounded)
    (hp : j.target.key.names ≠ []) :
    (j.attempt o).run.Meets (World.inPart (ground o j.target)) w
      fun r t => (j.attempt o).runOn w = (r, t) := by
  cases j with
  | publish request =>
    refine (publish_grounded (o := o) request).exact (I := fun w => w.faults = [])
      (fun _ _ hc => .inl hc) ?_ hf
    intro c s a t hc hs ha
    have hrun : World.answer c s = (a, t) := by
      rw [World.answer_of_calm hs]
      simpa [World.inPart, hc, Job.target] using ha
    exact ⟨hrun, by simpa [hrun] using World.faults_answer hs c⟩
  | unpublish request =>
    simp only [Job.attempt]
    rcases unpublish_cases o request with ⟨f, hp⟩ | ⟨ht, hp⟩ <;> rw [hp]
    · rfl
    · have hv := Mount.visible_of_grounded hg ht
      rw [runOn_withdraw hv hf]
      refine Routine.Meets.mono
        (withdraw_spec (reliable_inPart _ (ground_target o request.target)) hv) fun r t h => ?_
      rcases r with f | ⟨⟨⟩⟩ <;> exact h

-- ---------------------------------------------------------------------------
-- All jobs
-- ---------------------------------------------------------------------------

variable {ι : Type} [DecidableEq ι] {jobs : ι → Job}

/-- When all jobs are done, the host is divided into what each would have
left alone. -/
theorem divided_interleave (hf : w.faults = []) (hg : w.Grounded)
    (haway : ∀ i, (jobs i).target.key.Apart o.workingDir.key)
    (hapart : ∀ i j, i ≠ j → (jobs i).target.key.Apart (jobs j).target.key)
    (schedule : List ι)
    (h : Routine.interleave World.answer schedule (fun i => ((jobs i).attempt o).run) w =
      (threads, t)) (hdone : ∀ i, ∃ r, threads i = .done r) :
    (∀ i, threads i = .done (((jobs i).attempt o).runOn w).1) ∧
      World.Divided (fun i => ground o (jobs i).target) w t
        fun i => (((jobs i).attempt o).runOn w).2 := by
  have hT := territories_ground haway hapart
  obtain ⟨v, hv, hmeets⟩ := Routine.Meets.interleave
    (K := fun i => World.inPart (ground o (jobs i).target))
    (fun i c s u (hR : World.Divided _ w s u) hc => hR.step hT hc)
    (World.Divided.start hf) (fun i => (jobs i).alone hf hg (haway i).names_ne_nil) schedule
  rw [h] at hv hmeets
  have hresult : ∀ i, threads i = .done (((jobs i).attempt o).runOn w).1 ∧
      v i = (((jobs i).attempt o).runOn w).2 := by
    intro i
    obtain ⟨r, hr⟩ := hdone i
    have hi := hmeets i
    simp only [hr, Routine.Meets] at hi
    simp [hr, hi]
  refine ⟨fun i => (hresult i).1, ?_⟩
  rwa [funext fun i => (hresult i).2] at hv

theorem divided_foldl (hf : w.faults = []) (hg : w.Grounded)
    (haway : ∀ i, (jobs i).target.key.Apart o.workingDir.key)
    (hapart : ∀ i j, i ≠ j → (jobs i).target.key.Apart (jobs j).target.key)
    {order : List ι} (hnodup : order.Nodup) (hall : ∀ i, i ∈ order) :
    World.Divided (fun i => ground o (jobs i).target) w
      (order.foldl (fun s i => (((jobs i).attempt o).runOn s).2) w)
      fun i => (((jobs i).attempt o).runOn w).2 := by
  obtain ⟨schedule, hfold, hdone⟩ := Routine.exists_schedule_foldl World.answer
    (fun i => ((jobs i).attempt o).run) hnodup (fun _ _ => rfl) w
  have hdivided := (divided_interleave hf hg haway hapart schedule rfl
    fun i => hdone i (.inl (hall i))).2
  rw [hfold] at hdivided
  exact hdivided

end

/-- Jobs on targets apart from each other and from the working directory may
take turns in any way. They can always get to their ends; then each has the
result that it has alone, and nodes and mounts are always the same. So they
are after any sequence of the jobs. -/
theorem concurrent_jobs {n : Nat} {jobs : Fin n → Job} (hf : w.faults = []) (hg : w.Grounded)
    (haway : ∀ i, (jobs i).target.key.Apart o.workingDir.key)
    (hapart : ∀ i j, i ≠ j → (jobs i).target.key.Apart (jobs j).target.key) :
    ∃ after : World,
      (∀ schedule, ∃ rest, ∀ i, ∃ r, (Routine.interleave World.answer (schedule ++ rest)
        (fun i => ((jobs i).attempt o).run) w).1 i = .done r) ∧
      (∀ schedule threads t,
        Routine.interleave World.answer schedule (fun i => ((jobs i).attempt o).run) w =
          (threads, t) →
        (∀ i, ∃ r, threads i = .done r) →
        (∀ i, threads i = .done (((jobs i).attempt o).runOn w).1) ∧ t.Same after) ∧
      ∀ order : List (Fin n), order.Nodup → (∀ i, i ∈ order) →
        (order.foldl (fun s i => (((jobs i).attempt o).runOn s).2) w).Same after := by
  have hall : ∀ i : Fin n, i ∈ List.finRange n := List.mem_finRange
  have hafter := divided_foldl hf hg haway hapart (List.nodup_finRange n) hall
  refine ⟨(List.finRange n).foldl (fun s i => (((jobs i).attempt o).runOn s).2) w,
    fun schedule => Routine.exists_completion _ (List.nodup_finRange n) hall schedule _ w, ?_, ?_⟩
  · intro schedule threads t h hdone
    obtain ⟨hresults, hdivided⟩ := divided_interleave hf hg haway hapart schedule h hdone
    exact ⟨hresults, hdivided.unique hafter⟩
  · intro order hnodup horder
    exact (divided_foldl hf hg haway hapart hnodup horder).unique hafter

def sharedDirectory : World where
  nodes := [(Path.key ⟨"/t"⟩, .directory), (Path.key ⟨"/t/c"⟩, .directory)]
  mounts := [(Path.key ⟨"/t/c"⟩, World.preset)]
  overlay := true

def threeJobs : Fin 3 → Job
  | 0 => .publish { PublishRequest.ofSubDir with target := ⟨"/t/a"⟩ }
  | 1 => .publish { PublishRequest.ofSubDir with volumeId := "fs2", target := ⟨"/t/b"⟩ }
  | 2 => .unpublish ⟨"fs3", ⟨"/t/c"⟩⟩

theorem concurrent_jobs_threeJobs :
    sharedDirectory.faults = [] ∧ sharedDirectory.Grounded ∧
      (∀ i, (threeJobs i).target.key.Apart (Path.key ⟨"/tmp"⟩)) ∧
      (∀ i j, i ≠ j → (threeJobs i).target.key.Apart (threeJobs j).target.key) ∧
      ∃ after : World,
        (∀ schedule, ∃ rest, ∀ i, ∃ r, (Routine.interleave World.answer (schedule ++ rest)
          (fun i => ((threeJobs i).attempt {}).run) sharedDirectory).1 i = .done r) ∧
        (∀ schedule threads t,
          Routine.interleave World.answer schedule (fun i => ((threeJobs i).attempt {}).run)
            sharedDirectory = (threads, t) →
          (∀ i, ∃ r, threads i = .done r) →
          (∀ i, threads i = .done (((threeJobs i).attempt {}).runOn sharedDirectory).1) ∧
            t.Same after) ∧
        ∀ order : List (Fin 3), order.Nodup → (∀ i, i ∈ order) →
          (order.foldl (fun s i => (((threeJobs i).attempt {}).runOn s).2) sharedDirectory).Same
            after := by
  have hg : sharedDirectory.Grounded := by decide +kernel
  have haway : ∀ i, (threeJobs i).target.key.Apart (Path.key ⟨"/tmp"⟩) := by decide +kernel
  have hapart : ∀ i j, i ≠ j → (threeJobs i).target.key.Apart (threeJobs j).target.key := by
    decide +kernel
  exact ⟨rfl, hg, haway, hapart, concurrent_jobs (o := {}) rfl hg haway hapart⟩

end VolumeAgent.Service
