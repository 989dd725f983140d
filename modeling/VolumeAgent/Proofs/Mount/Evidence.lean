import VolumeAgent.Proofs.Mount.Laws
import VolumeAgent.Proofs.Routine.Trace
import VolumeAgent.Proofs.Service.Publish

/-!
# Nothing is mounted over a mount

Exchanges are read as evidence of whether something is mounted at a path.
`mount_on_unmounted`: in whatever way the host answers, a publish asks for a
mount only where the last evidence says that nothing is mounted, right after
it has made the directory. The evidence comes from a probe or from a
cleanup; each of their lemmas says what an end without failure has seen.
-/

namespace VolumeAgent

open Host (Call)

@[simp] def Exchange.evidence? (p : Path) : Exchange → Option Bool
  | ⟨.isMountPoint q, .ok mounted⟩ => if q = p then some mounted else none
  | ⟨.isMountPoint q, .error e⟩ =>
    if q ≠ p then none
    else if e.isMissing then some false
    else if e.isBrokenMount then some true
    else none
  | ⟨.pathExists q, .ok false⟩ | ⟨.unmount q, .ok ()⟩ | ⟨.forceUnmount q _, .ok ()⟩ =>
    if q = p then some false else none
  | _ => none

def lastEvidence? (p : Path) (past : List Exchange) : Option Bool :=
  past.foldl (fun seen x => (x.evidence? p).or seen) none

@[simp] theorem lastEvidence?_snoc :
    lastEvidence? p (past ++ [x]) = (x.evidence? p).or (lastEvidence? p past) := by
  simp [lastEvidence?]

/-- A mount is asked for on a directory made in the exchange before, at a
path last seen unmounted. -/
def MountsUnmounted (past : List Exchange) : Call → Prop
  | .mount _ p _ _ =>
    past.getLast? = some ⟨.createDirAll p 0o775, .ok ()⟩ ∧ lastEvidence? p past = some false
  | _ => True

namespace Mount

section
variable {past : List Exchange}

theorem probe_evidence :
    Triple (.onTrace MountsUnmounted) (probe p) past
      (fun state now => state = .notMounted → lastEvidence? p now = some false)
      (fun _ _ => True) := by
  refine Triple.ask trivial ?_
  rintro (e | mounted) now rfl
  · simp only
    split
    · rename_i h
      simp [Exchange.evidence?, h]
    · split <;> simp
  · cases mounted with
    | false => simp [Exchange.evidence?]
    | true =>
      refine Triple.ask trivial ?_
      rintro (e | entries) now rfl <;> simp

theorem makeDir_evidence :
    Triple (.onTrace MountsUnmounted) (makeDir p) past
      (fun _ now => now = past ++ [⟨.createDirAll p 0o775, .ok ()⟩]) (fun _ _ => True) := by
  refine Triple.ask trivial ?_
  rintro (e | ⟨⟨⟩⟩) now rfl <;> simp [directoryMode]

theorem unmount_evidence :
    Triple (.onTrace MountsUnmounted) (unmount p) past
      (fun _ now => lastEvidence? p now = some false) (fun _ _ => True) := by
  refine Triple.askLocked trivial ?_
  rintro (e | ⟨⟨⟩⟩) now rfl <;> simp [Exchange.evidence?]

theorem forceUnmount_evidence :
    Triple (.onTrace MountsUnmounted) (forceUnmount p ms) past
      (fun _ now => lastEvidence? p now = some false) (fun _ _ => True) := by
  refine Triple.askLocked trivial ?_
  rintro (e | ⟨⟨⟩⟩) now rfl <;> simp [Exchange.evidence?]

theorem ensureMountPoint_evidence :
    Triple (.onTrace MountsUnmounted) (ensureMountPoint p) past
      (fun mounted now => mounted = false → lastEvidence? p now = some false)
      (fun _ _ => True) := by
  have hmake : ∀ past, lastEvidence? p past = some false →
      Triple (.onTrace MountsUnmounted) (makeDir p >>= fun _ => pure false) past
        (fun mounted now => mounted = false → lastEvidence? p now = some false)
        (fun _ _ => True) := by
    intro past h
    refine Triple.bind makeDir_evidence ?_
    rintro _ now rfl
    simp [Exchange.evidence?, h]
  refine Triple.bind probe_evidence ?_
  intro state now h
  -- A corrupted mount is seen unmounted by its own unmount.
  cases state with
  | healthy => simp
  | corrupted =>
    simp only [triple_bind, triple_note]
    exact unmount_evidence.mono (fun _ now h => triple_bind.mp (hmake now h)) fun _ _ h => h
  | notMounted => exact hmake now (h rfl)

theorem mountOrRemoveTarget_evidence (h : lastEvidence? p past = some false) :
    Triple (.onTrace MountsUnmounted) (mountOrRemoveTarget o source p fsType options) past
      (fun _ _ => True) (fun _ _ => True) := by
  have hmount : Triple (.onTrace MountsUnmounted) (mount o source p fsType options) past
      (fun _ _ => True) (fun _ _ => True) := by
    refine triple_mount makeDir_evidence ?_ (fun _ _ _ _ => trivial) (fun _ _ _ _ _ => trivial)
    rintro now rfl
    exact ⟨by simp, by simp [Exchange.evidence?, h]⟩
  refine Triple.outcome hmount (fun _ _ _ => trivial) ?_
  intro failure now _
  refine Triple.ask trivial ?_
  rintro (e | ⟨⟨⟩⟩) now rfl <;> simp

theorem isMountedForCleanup_evidence :
    Triple (.onTrace MountsUnmounted) (isMountedForCleanup p) past
      (fun mounted now => mounted = false → lastEvidence? p now = some false)
      (fun _ _ => True) := by
  refine Triple.ask trivial ?_
  rintro (e | mounted) now rfl
  · simp only
    split
    · rename_i h
      simp [Exchange.evidence?, h]
    · split <;> simp
  · cases mounted <;> simp [Exchange.evidence?]

theorem removeDir_evidence (h : lastEvidence? p past = some false) :
    Triple (.onTrace MountsUnmounted) (removeDir p) past
      (fun _ now => lastEvidence? p now = some false) (fun _ _ => True) := by
  refine Triple.ask trivial ?_
  rintro (e | ⟨⟨⟩⟩) now rfl
  · simp only
    split <;> simp [Exchange.evidence?, h]
  · simp [Exchange.evidence?, h]

/-- Each way a cleanup ends well has seen that nothing is mounted. -/
theorem cleanup_evidence :
    Triple (.onTrace MountsUnmounted) (cleanup o p) past
      (fun _ now => lastEvidence? p now = some false) (fun _ _ => True) := by
  refine Triple.ask trivial ?_
  rintro (e | ⟨_ | _⟩) now rfl
  · simp only
    split
    · simp only [triple_bind, triple_note]
      exact forceUnmount_evidence.mono (fun _ _ h => removeDir_evidence h) fun _ _ h => h
    · simp
  · simp [Exchange.evidence?]
  · refine Triple.bind isMountedForCleanup_evidence ?_
    intro mounted now h
    cases mounted with
    | false => exact removeDir_evidence (h rfl)
    | true =>
      -- The check after the unmount is the later evidence.
      refine Triple.bind forceUnmount_evidence ?_
      intro _ now _
      refine Triple.bind isMountedForCleanup_evidence ?_
      intro mounted now h
      cases mounted with
      | false => exact removeDir_evidence (h rfl)
      | true => simp

theorem release_evidence :
    Triple (.onTrace MountsUnmounted) (release o p) past (fun _ _ => True) (fun _ _ => True) := by
  refine Triple.outcome cleanup_evidence (fun _ _ _ => trivial) ?_
  intro _ _ _
  simp

theorem mountInternal_evidence :
    Triple (.onTrace MountsUnmounted) (mountInternal o volume p options) past
      (fun _ _ => True) (fun _ _ => True) := by
  refine Triple.bind ensureMountPoint_evidence ?_
  intro mounted now h
  cases mounted with
  | false => exact mountOrRemoveTarget_evidence (h rfl)
  | true =>
    simp only [if_true, triple_bind, triple_note]
    refine triple_outcome.mpr (cleanup_evidence.mono ?_ fun _ _ _ => trivial)
    intro _ now h
    exact mountOrRemoveTarget_evidence h

theorem provision_evidence :
    Triple (.onTrace MountsUnmounted) (provision o volume target subDir options) past
      (fun _ _ => True) (fun _ _ => True) := by
  unfold provision
  cases Path.internal o.workingDir target with
  | error e => simp
  | ok internal =>
    cases Path.internalVolume o.workingDir target subDir with
    | error e => simp
    | ok directory =>
      simp only [Attempt.ofExcept_ok_bind]
      refine Triple.bind mountInternal_evidence ?_
      intro _ now _
      refine Triple.ask trivial ?_
      rintro made now rfl
      refine Triple.bind release_evidence ?_
      intro _ now _
      rcases made with e | ⟨⟨⟩⟩ <;> simp

end

end Mount

namespace Service

theorem publish_evidence (o : Options) (request : PublishRequest) :
    Triple (.onTrace MountsUnmounted) (publish o request) past (fun _ _ => True)
      (fun _ _ => True) := by
  have hattach : ∀ volume past, Triple (.onTrace MountsUnmounted) (attach o request volume) past
      (fun _ _ => True) (fun _ _ => True) := by
    intro volume past
    refine Triple.bind Mount.ensureMountPoint_evidence ?_
    intro mounted now h
    cases mounted with
    | true => simp
    | false => exact Triple.bind (Mount.mountOrRemoveTarget_evidence (h rfl)) fun _ _ _ => trivial
  have hprepare : ∀ volume past, Triple (.onTrace MountsUnmounted) (prepare o request volume) past
      (fun _ _ => True) (fun _ _ => True) := by
    intro volume past
    rcases prepare_cases o request volume with ⟨f, h⟩ | ⟨-, h⟩ | ⟨subDir, -, -, h⟩ <;> rw [h]
    · trivial
    · trivial
    · exact Mount.provision_evidence
  rcases publish_cases o request with ⟨f, h⟩ | ⟨resolution, -, h⟩ <;> rw [h]
  · trivial
  · exact triple_deliver.mpr ((hprepare _ _).mono (fun _ _ _ => hattach _ _) fun _ _ h => h)

/-- Whatever the host answers: right before each mount its directory has
been made, and the last evidence at its path says that nothing is mounted
there. This covers internal paths as well as targets. -/
theorem mount_on_unmounted (respond : Responses) (o : Options) (request : PublishRequest)
    (h : (publish o request).trace respond =
      before ++ ⟨.mount source p fsType options, answer⟩ :: after) :
    before.getLast? = some ⟨.createDirAll p 0o775, .ok ()⟩ ∧
      lastEvidence? p before = some false :=
  (publish_evidence o request).trace respond before _ after h

/-- Every call works, but each look at a mount point finds it stale. -/
def staleHost : Responses
  | _, .isMountPoint _ => .error (.os 116)
  | _, .pathExists _ => .ok true
  | _, .mount .. | _, .unmount _ | _, .forceUnmount .. => .ok ()
  | _, .createDirAll .. | _, .stat _ | _, .removeDir _ => .ok ()
  | _, .readDir _ => .ok []
  | _, .capacity _ => .ok default

def staleRepair : List Exchange :=
  [⟨.isMountPoint ⟨"/tmp/a"⟩, .error (.os 116)⟩, ⟨.unmount ⟨"/tmp/a"⟩, .ok ()⟩,
    ⟨.createDirAll ⟨"/tmp/a"⟩ 0o775, .ok ()⟩, ⟨.createDirAll ⟨"/tmp/a"⟩ 0o775, .ok ()⟩]

theorem mount_on_unmounted_staleHost :
    (publish {} .ofSubDir).trace staleHost =
      staleRepair ++ ⟨.mount "10.0.0.1@tcp:/fs1" ⟨"/tmp/a"⟩ "lustre" [], .ok ()⟩ ::
        ((publish {} .ofSubDir).trace staleHost).drop 5 ∧
      staleRepair.getLast? = some ⟨.createDirAll ⟨"/tmp/a"⟩ 0o775, .ok ()⟩ ∧
      lastEvidence? ⟨"/tmp/a"⟩ staleRepair = some false := by
  have h : (publish {} .ofSubDir).trace staleHost =
      staleRepair ++ ⟨.mount "10.0.0.1@tcp:/fs1" ⟨"/tmp/a"⟩ "lustre" [], .ok ()⟩ ::
        ((publish {} .ofSubDir).trace staleHost).drop 5 := rfl
  exact ⟨h, mount_on_unmounted staleHost {} .ofSubDir h⟩

end Service

end VolumeAgent
