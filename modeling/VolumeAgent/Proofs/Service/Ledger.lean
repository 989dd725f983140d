import VolumeAgent.Proofs.Service.Exposure
import VolumeAgent.Proofs.Service.Job

/-!
# A ledger of what is published

`serve_mirrors`: over any sequence of jobs on separate targets, the mounts
at the targets are what a ledger says that is written from the results of
the jobs alone. No internal mount is left, and mounts elsewhere stay as they
were. Between jobs every target is tidy, so what is mounted there is healthy
and can be taken down.
-/

namespace VolumeAgent.Service

open Host (Call Mounted Table World)
open VolumeAgent.Path (Key)

/-- The ledger after a job. A publish that succeeds adds an entry where there
is none; whatever an unpublish comes to, its target is struck out. -/
def Job.record (o : Options) (ledger : Table Mounted) : Job → Except Failure Unit → Table Mounted
  | publish request, .ok () =>
    match ledger.get? request.target.key, request.volume? with
    | none, some volume => ledger.set request.target.key (request.entry o volume)
    | _, _ => ledger
  | publish _, .error _ => ledger
  | unpublish request, _ => ledger.erase request.target.key

structure Account where
  host : World
  ledger : Table Mounted := []

def Account.serve (o : Options) (s : Account) (job : Job) : Account :=
  ⟨((job.attempt o).runOn s.host).2, job.record o s.ledger ((job.attempt o).runOn s.host).1⟩

def Job.Fits (T : Key → Prop) : Job → Prop
  | publish request => T request.target.key
  | unpublish request => T request.target.key ∧ request.volumeId ≠ ""

/-- Targets apart from each other and from the working directory, each
vacant and with no internal mount. -/
structure Vacancies (o : Options) (T : Key → Prop) (w : World) : Prop where
  apart : T j → T k → j ≠ k → j.Apart k
  away : T k → k.Apart o.workingDir.key
  vacant : T k → w.Vacant k
  released : T target.key → Path.internal o.workingDir target = .ok internal →
    w.mounts.get? internal.key = none

section
variable {o : Options} {w : World} {T : Key → Prop}

-- ---------------------------------------------------------------------------
-- A publish on a tidy target
-- ---------------------------------------------------------------------------

theorem attach_records (hw : w.Tidy request.target.key) (hp : request.target.key.names ≠ []) :
    Triple World.faultless (attach o request volume) w
      (fun _ t => t.mounts.get? request.target.key =
        (w.mounts.get? request.target.key).or (some (request.entry o volume)))
      (fun _ t => t.mounts = w.mounts) := by
  have hfile : w.node? request.target ≠ some .file := w.node?_eq hp ▸ hw.not_file
  refine Triple.bind ((Mount.ensureMountPoint_spec fun _ _ => trivial).mono (fun _ _ h => h) ?_) ?_
  · rintro _ t ⟨ht, -⟩
    obtain ⟨-, rfl⟩ := Mount.repaired_of_not_file hfile ht
    rfl
  intro mounted t h
  cases mounted with
  | true =>
    obtain ⟨rfl, hm, -⟩ := h
    obtain ⟨entry, he⟩ := Option.ne_none_iff_exists'.mp hm
    simp [he]
  | false =>
    obtain ⟨u, hu, -, rfl⟩ := h
    obtain ⟨hn, rfl⟩ := Mount.repaired_of_not_file hfile hu
    have hm : u.mounts.get? request.target.key = none := by
      rcases hn with hn | hn
      · exact hn
      · exact (Mount.visible_of_tidy hw hp).resolve_right (absurd hn)
    refine Triple.bind (Mount.mountOrRemoveTarget_spec.mono (fun _ _ h => h) ?_) ?_
    · rintro _ v ⟨hv, -⟩
      exact hv
    · rintro _ v ⟨-, rfl⟩
      simp [hm, World.mounts_withMount, PublishRequest.entry]

theorem prepare_elsewhere (volume : Volume)
    (hapart : request.target.key.Apart o.workingDir.key) (w : World) :
    ((prepare o request volume).runOn w).2.mounts.get? request.target.key =
      w.mounts.get? request.target.key := by
  refine Mount.mounts_runOn (P := fun k => ∃ internal,
    Path.internal o.workingDir request.target = .ok internal ∧ k = internal.key)
    (prepare_within fun _ internal hi => ⟨internal, hi, rfl⟩) ?_ w
  rintro ⟨internal, hi, he⟩
  exact Path.internal_ne hi hapart he.symm

theorem publish_records (hf : w.faults = []) (hw : w.Tidy request.target.key)
    (hapart : request.target.key.Apart o.workingDir.key) :
    match (publish o request).runOn w with
    | (.ok (), t) => ∃ volume, request.volume? = some volume ∧
        t.mounts.get? request.target.key =
          (w.mounts.get? request.target.key).or (some (request.entry o volume))
    | (.error _, t) => t.mounts.get? request.target.key = w.mounts.get? request.target.key := by
  rcases publish_cases o request with ⟨f, hp⟩ | ⟨resolution, hr, hp⟩ <;> rw [hp]
  · rfl
  · rw [runOn_deliver]
    have hkeep := prepare_elsewhere resolution.volume hapart w
    have hcareful : (prepare o request resolution.volume).Obeys (World.careful request.target.key) :=
      prepare_obeys fun _ _ => (Mount.permitsInternal_careful hapart).allowsProvision
    have htidy := hw.runOn hcareful hf
    have hfaults := Attempt.faults_runOn hf (prepare o request resolution.volume)
    cases hprep : (prepare o request resolution.volume).runOn w with
    | mk r t =>
      rw [hprep] at hkeep htidy hfaults
      cases r with
      | error f =>
        rw [Attempt.runOn_bind_error hprep]
        exact hkeep
      | ok u =>
        rw [Attempt.runOn_bind_ok hprep, ← hkeep]
        have hspec : Triple World.faultless (attach o request resolution.volume) t _ _ :=
          attach_records htidy hapart.names_ne_nil
        have hrun := hspec.runOn_faultless hfaults
        cases hattach : (attach o request resolution.volume).runOn t with
        | mk r v =>
          rw [hattach] at hrun
          rcases r with f | ⟨⟨⟩⟩
          · simp [hrun.1]
          · exact ⟨resolution.volume, by simp [PublishRequest.volume?, hr], hrun.1⟩

theorem publish_releases (hapart : request.target.key.Apart o.workingDir.key)
    (hi : Path.internal o.workingDir request.target = .ok internal)
    (hw : w.mounts.get? internal.key = none) :
    Triple World.faultless (publish o request) w
      (fun _ t => t.mounts.get? internal.key = none)
      (fun _ t => t.mounts.get? internal.key = none) := by
  have hne : ¬ internal.key = request.target.key := Path.internal_ne hi hapart
  rcases publish_cases o request with ⟨f, hp⟩ | ⟨resolution, -, hp⟩ <;> rw [hp]
  · exact triple_throw.mpr hw
  have hprepare : Triple World.faultless (prepare o request resolution.volume) w
      (fun _ t => t.mounts.get? internal.key = none)
      (fun _ t => t.mounts.get? internal.key = none) := by
    rcases prepare_cases o request resolution.volume with
      ⟨f, hp⟩ | ⟨-, hp⟩ | ⟨subDir, -, hsub, hp⟩ <;> rw [hp]
    · exact triple_throw.mpr hw
    · exact triple_pure.mpr hw
    · exact (Mount.provision_unmounts (fun _ _ => trivial) hi hsub).mono (fun _ _ h => h)
        fun _ _ h => h (.inl hw)
  refine triple_deliver.mpr (hprepare.mono (fun _ t ht => ?_) fun _ _ h => h)
  have hall : Triple World.faultless (attach o request resolution.volume) t
      (fun _ _ => True) (fun _ _ => True) :=
    triple_of_forall (fun _ _ => trivial) fun _ _ => trivial
  exact (hall.keep (attach_within (P := (· = request.target.key)) rfl)
    (Mount.stable_mounts (P := (· = request.target.key)) hne none).faulty ht).mono
    (fun _ _ h => h.2) fun _ _ h => h.2

theorem internal_runOn (hf : w.faults = []) (j : Job)
    (hapart : j.target.key.Apart o.workingDir.key)
    (hi : Path.internal o.workingDir j.target = .ok internal)
    (hw : w.mounts.get? internal.key = none) :
    ((j.attempt o).runOn w).2.mounts.get? internal.key = none := by
  cases j with
  | publish request =>
    exact (publish_releases (w := w.calm) hapart hi hw).after (by simp [hf])
  | unpublish request =>
    have hne : ¬ internal.key = request.target.key := Path.internal_ne hi hapart
    exact (Mount.mounts_runOn (P := (· = request.target.key)) (unpublish_within rfl) hne w).trans hw

-- ---------------------------------------------------------------------------
-- Between jobs
-- ---------------------------------------------------------------------------

/-- What holds between jobs, where `w` is the host at the start. -/
structure Account.Sound (o : Options) (T : Key → Prop) (w : World) (s : Account) : Prop where
  faults : s.host.faults = []
  tidy : T k → s.host.Tidy k
  entries : T k → s.host.mounts.get? k = s.ledger.get? k
  released : T target.key → Path.internal o.workingDir target = .ok internal →
    s.host.mounts.get? internal.key = none
  elsewhere : (∀ target, T target.key → ¬ Site o target k) →
    s.host.mounts.get? k = w.mounts.get? k

theorem Account.sound_start (hf : w.faults = []) (hcl : w.Closed) (hT : Vacancies o T w) :
    Account.Sound o T w ⟨w, []⟩ where
  faults := hf
  tidy hk := hcl.tidy (hT.away hk).names_ne_nil (hT.vacant hk)
  entries hk := (hT.vacant hk).1
  released := hT.released
  elsewhere _ := rfl

theorem Vacancies.not_site (hT : Vacancies o T w) (hk : T k) (hne : k ≠ target.key) :
    ¬ Site o target k := by
  rintro (he | ⟨internal, hi, he⟩)
  · exact hne he
  · exact ((hT.away hk).beyond (Path.prefix_internal hi)).ne he

theorem Job.Fits.target {job : Job} (h : job.Fits T) : T job.target.key := by
  cases job with
  | publish request => exact h
  | unpublish request => exact h.1

theorem Job.get?_record_ne {job : Job} (hk : k ≠ job.target.key) (ledger : Table Mounted)
    (r : Except Failure Unit) : (job.record o ledger r).get? k = ledger.get? k := by
  cases job with
  | publish request =>
    rcases r with f | ⟨⟨⟩⟩
    · rfl
    · simp only [Job.record]
      split
      · exact (Table.get?_set _ _ _ _).trans (if_neg hk)
      · rfl
  | unpublish request => exact (Table.get?_erase _ _ _).trans (if_neg hk)

/-- At the target of a job, mount and entry change alike. -/
theorem Account.Sound.entry_served {s : Account} (hs : s.Sound o T w) {job : Job}
    (hj : job.Fits T) (haway : job.target.key.Apart o.workingDir.key) :
    (s.serve o job).host.mounts.get? job.target.key =
      (s.serve o job).ledger.get? job.target.key := by
  have htidy := hs.tidy hj.target
  have hentry := hs.entries hj.target
  cases job with
  | publish request =>
    have hrun := publish_records hs.faults htidy haway
    simp only [Account.serve, Job.attempt, Job.target] at hrun hentry ⊢
    rw [hentry] at hrun
    cases h : (publish o request).runOn s.host with
    | mk r t =>
      rw [h] at hrun
      rcases r with f | ⟨⟨⟩⟩
      · exact hrun
      · obtain ⟨volume, hv, hmount⟩ := hrun
        rw [hmount]
        cases hl : s.ledger.get? request.target.key <;> simp [Job.record, hv, hl, Table.get?_set]
  | unpublish request =>
    obtain ⟨t, hrun, hgone, -⟩ :=
      unpublish_of_tidy (o := o) hj.2 haway.names_ne_nil htidy hs.faults
    simp only [Account.serve, Job.attempt, Job.target, hrun]
    exact hgone.2.trans (by simp [Job.record, Table.get?_erase])

theorem Account.Sound.serve {s : Account} (hT : Vacancies o T w) (hs : s.Sound o T w) {job : Job}
    (hj : job.Fits T) : (s.serve o job).Sound o T w where
  faults := Attempt.faults_runOn hs.faults _
  tidy {k} hk := by
    refine (hs.tidy hk).runOn (job.attempt_careful ?_ (hT.away hk)
      (hT.away hj.target).names_ne_nil) hs.faults
    by_cases hne : k = job.target.key
    · exact .inl hne
    · exact .inr (hT.apart hk hj.target hne)
  entries {k} hk := by
    by_cases hne : k = job.target.key
    · exact hne ▸ hs.entry_served hj (hT.away hj.target)
    · have hkeep := Mount.mounts_runOn (job.attempt_within (o := o)) (hT.not_site hk hne) s.host
      exact hkeep.trans ((hs.entries hk).trans (Job.get?_record_ne hne _ _).symm)
  released {target internal} ht hi := by
    by_cases hsite : Site o job.target internal.key
    · -- Then it is the internal path of the job's own target.
      obtain ⟨internal', hi', he⟩ := hsite.resolve_left fun he =>
        ((hT.away hj.target).beyond (Path.prefix_internal hi)).ne he.symm
      have hnone := he ▸ hs.released ht hi
      exact he ▸ internal_runOn hs.faults job (hT.away hj.target) hi' hnone
    · exact (Mount.mounts_runOn job.attempt_within hsite s.host).trans (hs.released ht hi)
  elsewhere {k} hk :=
    (Mount.mounts_runOn job.attempt_within (hk _ hj.target) s.host).trans (hs.elsewhere hk)

theorem Account.Sound.run {s : Account} (hT : Vacancies o T w) (hs : s.Sound o T w)
    {jobs : List Job} (hjobs : ∀ j ∈ jobs, j.Fits T) :
    (jobs.foldl (Account.serve o) s).Sound o T w := by
  induction jobs generalizing s with
  | nil => exact hs
  | cons job jobs ih =>
    obtain ⟨hj, hrest⟩ := List.forall_mem_cons.mp hjobs
    exact ih (hs.serve hT hj) hrest

end

def twoTargets : List Key := [Path.key ⟨"/a"⟩, Path.key ⟨"/b"⟩]

/-- The second publish at `/a` meets a mount, the last one does not. -/
def mixedJobs : List Job :=
  let elsewhere := { PublishRequest.ofSubDir with volumeId := "fs2", target := ⟨"/b"⟩ }
  let other := { PublishRequest.ofSubDir with volumeId := "fs2" }
  [.publish .ofSubDir, .publish elsewhere, .publish other, .unpublish ⟨"fs1", ⟨"/a"⟩⟩,
    .publish other]

/-- In the end the second volume is published at both targets. -/
example : ((mixedJobs.foldl (Account.serve {}) ⟨{}, []⟩).ledger.map fun e => (e.1, e.2.source)) =
    [(Path.key ⟨"/a"⟩, "10.0.0.1@tcp:/fs2/d"), (Path.key ⟨"/b"⟩, "10.0.0.1@tcp:/fs2/d")] := by
  decide +kernel

end VolumeAgent.Service
