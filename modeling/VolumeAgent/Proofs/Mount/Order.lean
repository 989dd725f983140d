import VolumeAgent.Proofs.Mount.Places
import VolumeAgent.Proofs.Routine.History
import VolumeAgent.Proofs.Routine.Reply

/-!
# In which order mounts are made

What a successful mount has said ends in the call that mounts, and nothing
else that it says mounts; after a mount that fails at most the target is
removed. So a sub-directory is created right after the root of the volume has
been mounted, also where other routines take turns with this one.
-/

namespace VolumeAgent

open Host (Call)

namespace Mount

def Quiet (p : Path) (c : Call) : Prop := c.path = p ∧ c.kind ≠ .mount

theorem tends_quiet (p : Path) : Tends (.only (Quiet p)) p := ⟨fun hc hk => ⟨hc, hk⟩⟩

def mounted (o : Options) (source : String) (p : Path) (fsType : String) (options : List String) :
    Exchange :=
  ⟨.mount (o.redirected source fsType).1 p (o.redirected source fsType).2 options, .ok ()⟩

def Serves (o : Options) (source : String) (p : Path) (fsType : String) (options : List String)
    (c : Call) : Prop :=
  Quiet p c ∨ c = (mounted o source p fsType options).call

def EndsIn (p : Path) (x : Exchange) (past now : List Exchange) : Prop :=
  ∃ quiet, (∀ y ∈ quiet, Quiet p y.call) ∧ now = past ++ quiet ++ [x]

theorem EndsIn.of_quiet (hquiet : ∀ y ∈ quiet, Quiet p y.call)
    (h : EndsIn p x (past ++ quiet) now) : EndsIn p x past now := by
  obtain ⟨more, hmore, rfl⟩ := h
  refine ⟨quiet ++ more, fun y hy => ?_, by simp⟩
  exact (List.mem_append.mp hy).elim (hquiet y) (hmore y)

inductive Vain (p : Path) : List Exchange → Prop where
  | untried : Vain p []
  | failed (h : ∀ y ∈ removals, y.call = .removeDir p) :
      Vain p (⟨.mount source p fsType options, .error e⟩ :: removals)

/-- After quiet calls on `p`, nothing comes of the mount. -/
def Abandons (p : Path) (past now : List Exchange) : Prop :=
  ∃ quiet vain, (∀ y ∈ quiet, Quiet p y.call) ∧ Vain p vain ∧ now = past ++ quiet ++ vain

theorem Abandons.of_quiet (hquiet : ∀ y ∈ quiet, Quiet p y.call)
    (h : Abandons p (past ++ quiet) now) : Abandons p past now := by
  obtain ⟨more, vain, hmore, hvain, rfl⟩ := h
  exact ⟨quiet ++ more, vain, List.forall_mem_append.mpr ⟨hquiet, hmore⟩, hvain, by simp⟩

theorem abandons_quiet (hquiet : ∀ y ∈ quiet, Quiet p y.call) :
    Abandons p past (past ++ quiet) := ⟨quiet, [], hquiet, .untried, by simp⟩

theorem Abandons.removes (h : Abandons p past now) (answer : Except Host.IoError Unit) :
    Abandons p past (now ++ [⟨.removeDir p, answer⟩]) := by
  obtain ⟨quiet, vain, hquiet, hvain, rfl⟩ := h
  cases hvain with
  | untried =>
    refine ⟨quiet ++ [⟨.removeDir p, answer⟩], [], ?_, .untried, by simp⟩
    exact List.forall_mem_append.mpr ⟨hquiet, by simp [Quiet, Call.path, Call.kind]⟩
  | @failed removals source fsType options e hremovals =>
    refine ⟨quiet, ⟨.mount source p fsType options, .error e⟩ ::
      (removals ++ [⟨.removeDir p, answer⟩]), hquiet, .failed ?_, by simp⟩
    exact List.forall_mem_append.mpr ⟨hremovals, by simp⟩

section
variable {past : List Exchange}

theorem mount_said :
    Triple .free (mount o source p fsType options) past
      (fun _ => EndsIn p (mounted o source p fsType options) past)
      (fun _ => Abandons p past) := by
  refine triple_mount (((makeDir_obeys (tends_quiet p)).said past).mono (fun _ _ h => h) ?_)
    (fun _ _ => trivial) ?_ ?_
  · rintro _ _ ⟨quiet, hquiet, rfl⟩
    exact abandons_quiet hquiet
  · rintro _ _ ⟨quiet, hquiet, rfl⟩ rfl
    exact ⟨quiet, hquiet, rfl⟩
  · rintro _ _ e ⟨quiet, hquiet, rfl⟩ rfl
    exact ⟨quiet, _, hquiet, .failed (by simp), rfl⟩

theorem mountOrRemoveTarget_said :
    Triple .free (mountOrRemoveTarget o source p fsType options) past
      (fun _ => EndsIn p (mounted o source p fsType options) past)
      (fun _ => Abandons p past) := by
  refine Triple.outcome mount_said (fun _ _ h => h) ?_
  intro _ _ h
  refine Triple.ask trivial ?_
  rintro (e | ⟨⟨⟩⟩) now rfl
  · exact h.removes _
  · exact h.removes _

theorem mountInternal_said :
    Triple .free (mountInternal o volume p options) past
      (fun _ => EndsIn p (mounted o volume.source p lustre options) past)
      (fun _ => Abandons p past) := by
  refine Triple.bind (((ensureMountPoint_obeys (tends_quiet p)).said past).mono
    (fun _ _ h => h) ?_) ?_
  · rintro _ _ ⟨quiet, hquiet, rfl⟩
    exact abandons_quiet hquiet
  rintro stale _ ⟨quiet, hquiet, rfl⟩
  cases stale with
  | false =>
    exact mountOrRemoveTarget_said.mono (fun _ _ h => h.of_quiet hquiet)
      fun _ _ h => h.of_quiet hquiet
  | true =>
    simp only [if_true, triple_bind, triple_note]
    refine triple_outcome.mpr (((cleanup_obeys (tends_quiet p)).said (past ++ quiet)).mono ?_ ?_)
    · rintro _ _ ⟨more, hmore, rfl⟩
      exact mountOrRemoveTarget_said.mono (fun _ _ h => (h.of_quiet hmore).of_quiet hquiet)
        fun _ _ h => (h.of_quiet hmore).of_quiet hquiet
    · rintro _ _ ⟨more, hmore, rfl⟩
      exact (abandons_quiet hmore).of_quiet hquiet

/-- A sub-directory is created right after the root was mounted, and nothing
else is mounted. -/
theorem provision_said (hi : Path.internal o.workingDir target = .ok internal)
    (hd : Path.internalVolume o.workingDir target subDir = .ok directory) :
    Triple .free (provision o volume target subDir options) []
      (fun _ now => ∃ first last, (∀ x ∈ first ++ last, Quiet internal x.call) ∧
        now = first ++ mounted o volume.source internal lustre options ::
          ⟨.createDirAll directory directoryMode, .ok ()⟩ :: last)
      (fun _ _ => True) := by
  rw [provision, hi, Attempt.ofExcept_ok_bind, hd, Attempt.ofExcept_ok_bind]
  refine Triple.bind (mountInternal_said.mono (fun _ _ h => h) fun _ _ _ => trivial) ?_
  rintro _ _ ⟨first, hfirst, rfl⟩
  refine Triple.ask trivial ?_
  rintro made _ rfl
  refine Triple.bind (((release_obeys (tends_quiet internal)).said _).mono (fun _ _ h => h)
    fun _ _ _ => trivial) ?_
  rintro _ _ ⟨last, hlast, rfl⟩
  rcases made with e | ⟨⟨⟩⟩
  · trivial
  · refine ⟨first, last, fun x hx => ?_, by simp⟩
    exact (List.mem_append.mp hx).elim (hfirst x) (hlast x)

end

-- ---------------------------------------------------------------------------
-- In turns with others
-- ---------------------------------------------------------------------------

/-- In a directory nothing is done but right after one exchange. -/
def Follows (x : Exchange) (directory : Path) (past : List Exchange) (c : Call) : Prop :=
  c.path = directory → ∃ earlier, past = earlier ++ [x]

abbrev following (x : Exchange) (directory : Path) : Contract (List Exchange) :=
  .heard (Follows x directory) fun _ _ => True

theorem follows_of_ne (hne : q ≠ directory) (hc : c.path = q) : Follows x directory past c :=
  fun h => absurd (hc.symm.trans h) hne

theorem tends_following (hne : q ≠ directory) : Tends (following x directory) q :=
  ⟨fun hc _ => follows_of_ne hne hc⟩

theorem provision_follows (hi : Path.internal o.workingDir target = .ok internal)
    (hd : Path.internalVolume o.workingDir target subDir = .ok directory)
    (hne : internal ≠ directory) :
    Triple (following (mounted o volume.source internal lustre options) directory)
      (provision o volume target subDir options) past (fun _ _ => True) (fun _ _ => True) := by
  have hmount : Triple (following (mounted o volume.source internal lustre options) directory)
      (mountInternal o volume internal options) past
      (fun _ => EndsIn internal (mounted o volume.source internal lustre options) past)
      (fun _ _ => True) := by
    have huses : (mountInternal o volume internal options).Uses (·.path = internal) :=
      mountInternal_obeys ⟨fun hc _ => hc⟩ (fun _ _ _ => rfl) ()
    refine ((mountInternal_said.mono (fun _ _ h => h) fun _ _ _ => trivial).restrict huses).transfer
      ?_ fun _ _ _ _ h => h.2
    exact fun _ _ h => follows_of_ne hne h.2
  rw [provision, hi, Attempt.ofExcept_ok_bind, hd, Attempt.ofExcept_ok_bind]
  refine Triple.bind hmount ?_
  rintro _ _ ⟨quiet, -, rfl⟩
  refine Triple.ask (fun _ => ⟨past ++ quiet, rfl⟩) ?_
  intro made now _
  refine Triple.bind (release_obeys (tends_following hne) now) ?_
  intro _ _ _
  rcases made with e | ⟨⟨⟩⟩ <;> trivial

end Mount

end VolumeAgent
