import VolumeAgent.Proofs.Mount.Verification
import VolumeAgent.Proofs.Routine.Variation

/-!
# Unmounts that are forced

A take-down looks at the target's entry in its directory before it asks for
the target. `takeDown_forces`: it forces an unmount first exactly if that
look finds the entry unhealthy, and nothing that comes later depends on how
that unmount went. The cleanup that follows forces one more at most, and
nothing is unmounted in any other way.
-/

namespace VolumeAgent.Mount

open Host (Call)

/-- By the answers, the target's directory cannot be listed, or it lists the
target and the target cannot be looked at. -/
inductive Unhealthy (p : Path) (respond : Responses) : Prop where
  | unlisted (hd : p.parent? = some dir) (h : respond [] (.readDir dir) = .error e)
  | unstated (hd : p.parent? = some dir) (hl : respond [] (.readDir dir) = .ok entries)
      (hn : p.fileName? = some name) (hm : name ∈ entries)
      (h : respond [⟨.readDir dir, .ok entries⟩] (.stat p) = .error e)

def forced (said : List Exchange) : List Call :=
  (said.map (·.call)).filter (·.kind = .forceUnmount)

@[simp] theorem forced_append (said later : List Exchange) :
    forced (said ++ later) = forced said ++ forced later := by
  simp [forced]

theorem forced_eq_nil : forced said = [] ↔ ∀ x ∈ said, x.call.kind ≠ .forceUnmount := by
  simp [forced]

theorem forced_cons (x : Exchange) (said : List Exchange) :
    forced (x :: said) =
      if x.call.kind = .forceUnmount then x.call :: forced said else forced said := by
  by_cases h : x.call.kind = .forceUnmount <;> simp [forced, h]

-- ---------------------------------------------------------------------------
-- The look at the entry
-- ---------------------------------------------------------------------------

inductive LooksAt (p : Path) : Call → Prop where
  | list (hd : p.parent? = some dir) : LooksAt p (.readDir dir)
  | stat : LooksAt p (.stat p)

theorem entryIsHealthy_looks (p : Path) :
    (entryIsHealthy p).Obeys (.onTrace fun _ => LooksAt p) := by
  unfold entryIsHealthy
  cases hp : p.parent? with
  | none => exact .pure
  | some dir =>
    refine .bind (.ask fun _ => .list hp) ?_
    rintro (e | entries)
    · exact .bind .note fun _ => .pure
    · simp only
      split
      · refine .bind (.ask fun _ => .stat) ?_
        rintro (e | ⟨⟨⟩⟩)
        · exact .bind .note fun _ => .pure
        · exact .pure
      · exact .pure

theorem entryIsHealthy_tells (p : Path) (respond : Responses) :
    ∃ healthy, (entryIsHealthy p).reply respond = .ok healthy ∧
      (Unhealthy p respond ↔ healthy = false) := by
  unfold entryIsHealthy
  cases hp : p.parent? with
  | none =>
    refine ⟨true, rfl, ?_, nofun⟩
    rintro (⟨hd, -⟩ | ⟨hd, -⟩) <;> simp [hp] at hd
  | some dir =>
    simp only
    rw [Attempt.reply_ask_bind]
    rcases hlist : respond [] (.readDir dir) with e | entries
    · exact ⟨false, rfl, iff_of_true (.unlisted hp hlist) rfl⟩
    simp only
    split
    · rename_i hlisted
      obtain ⟨name, hn, hm⟩ : ∃ name, p.fileName? = some name ∧ name ∈ entries := by
        simpa [Option.any_eq_true] using hlisted
      rw [Attempt.reply_ask_bind]
      rcases hstat : respond.after [⟨.readDir dir, .ok entries⟩] [] (.stat p) with e | ⟨⟨⟩⟩
      · exact ⟨false, rfl, iff_of_true (.unstated hp hlist hn hm hstat) rfl⟩
      · refine ⟨true, rfl, ?_, nofun⟩
        rintro (⟨hd, h⟩ | ⟨hd, hl, -, -, h⟩)
        · cases hp.symm.trans hd
          cases hlist.symm.trans h
        · cases hp.symm.trans hd
          cases hlist.symm.trans hl
          cases hstat.symm.trans h
    · rename_i hlisted
      refine ⟨true, rfl, ?_, nofun⟩
      rintro (⟨hd, h⟩ | ⟨hd, hl, hn, hm, -⟩)
      · cases hp.symm.trans hd
        cases hlist.symm.trans h
      · cases hp.symm.trans hd
        cases hlist.symm.trans hl
        simp [hn, hm] at hlisted

theorem unhealthy_congr {respond respond' : Responses}
    (h : respond'.Gives ((entryIsHealthy p).trace respond)) :
    Unhealthy p respond' ↔ Unhealthy p respond := by
  obtain ⟨healthy, hreply, htells⟩ := entryIsHealthy_tells p respond
  obtain ⟨healthy', hreply', htells'⟩ := entryIsHealthy_tells p respond'
  obtain rfl : healthy' = healthy := by
    rw [Attempt.reply_congr h, hreply] at hreply'
    exact (Except.ok.inj hreply').symm
  rw [htells, htells']

-- ---------------------------------------------------------------------------
-- The cleanup
-- ---------------------------------------------------------------------------

/-- A cleanup asks for its target at the start and never again. It forces one
unmount of it at most, and there is no other way in which it unmounts, nor does
it look at an entry. -/
def CleansUp (p : Path) (ms : Nat) (past : List Exchange) (c : Call) : Prop :=
  match c with
  | .pathExists _ => past = []
  | .forceUnmount q t => q = p ∧ t = ms ∧ forced past = []
  | .isMountPoint _ | .removeDir _ => True
  | _ => False

theorem CleansUp.forces (h : CleansUp p ms past c) (hk : c.kind = .forceUnmount) :
    c = .forceUnmount p ms ∧ forced past = [] := by
  cases c with
  | forceUnmount q t =>
    obtain ⟨rfl, rfl, hpast⟩ := h
    exact ⟨rfl, hpast⟩
  | _ => cases hk

theorem cleanup_lawful (o : Options) (p : Path) :
    Triple (.onTrace (CleansUp p o.cleanupMs)) (cleanup o p) [] (fun _ _ => True)
      (fun _ _ => True) := by
  refine Triple.ask rfl ?_
  rintro (e | ⟨_ | _⟩) now rfl
  · simp only
    split
    · simp only [triple_bind, triple_note]
      refine (forceUnmount_shows ⟨rfl, rfl, rfl⟩).mono ?_ fun _ _ h => h
      rintro _ _ rfl
      exact removeDir_shows trivial
    · trivial
  · trivial
  · refine Triple.bind (isMountedForCleanup_shows trivial) ?_
    rintro mounted _ ⟨x, hx, rfl⟩
    cases mounted with
    | false => exact removeDir_shows trivial
    | true =>
      refine Triple.bind (forceUnmount_shows ⟨rfl, rfl, ?_⟩) ?_
      · cases hx <;> rfl
      rintro _ _ rfl
      refine Triple.bind (isMountedForCleanup_shows trivial) ?_
      rintro mounted _ ⟨y, -, rfl⟩
      cases mounted with
      | false => exact removeDir_shows trivial
      | true => trivial

theorem forced_of_lawful (h : Lawful (CleansUp p ms) said) :
    forced said <+: [.forceUnmount p ms] := by
  by_cases hnone : forced said = []
  · rw [hnone]
    exact List.nil_prefix
  · obtain ⟨x, hx, hk⟩ : ∃ x ∈ said, x.call.kind = .forceUnmount := by
      simpa [forced_eq_nil] using hnone
    obtain ⟨before, after, rfl⟩ := List.append_of_mem hx
    obtain ⟨hcall, hbefore⟩ := (h before x after rfl).forces hk
    have hafter : forced after = [] := by
      refine forced_eq_nil.mpr fun y hy hky => ?_
      obtain ⟨between, later, rfl⟩ := List.append_of_mem hy
      have hpast := ((h (before ++ x :: between) y later (by simp)).forces hky).2
      exact forced_eq_nil.mp hpast x (by simp) hk
    simp [forced_cons, hcall, hbefore, hafter, Call.kind]

theorem cleanup_starts : (cleanup o p).Starts (.pathExists p) := .bind .ask

theorem cleanup_asks_once (h : (cleanup o p).trace respond = first :: later) (hx : x ∈ later) :
    x.call.kind ≠ .pathExists := by
  obtain ⟨before, after, rfl⟩ := List.append_of_mem hx
  intro hk
  have hlawful := (cleanup_lawful o p).trace respond (first :: before) x after h
  cases hc : x.call with
  | pathExists q =>
    rw [hc] at hlawful
    cases hlawful
  | _ => simp [hc, Call.kind] at hk

def Sparing (p : Path) (c : Call) : Prop :=
  c.kind ≠ .unmount ∧ (c.kind = .stat → c = .stat p)

theorem LooksAt.sparing (h : LooksAt p c) : Sparing p c := by
  cases h with
  | list hd => exact ⟨nofun, nofun⟩
  | stat => exact ⟨nofun, fun _ => rfl⟩

theorem LooksAt.ne_pathExists (h : LooksAt p c) : c ≠ .pathExists p := by
  cases h <;> nofun

theorem LooksAt.ne_force (h : LooksAt p c) : c.kind ≠ .forceUnmount := by
  cases h <;> nofun

theorem CleansUp.sparing (h : CleansUp p ms past c) : Sparing p c := by
  cases c with
  | forceUnmount | pathExists | isMountPoint | removeDir => exact ⟨nofun, nofun⟩
  | _ => exact h.elim

theorem cleanup_forces (o : Options) (p : Path) (respond : Responses) :
    ∃ found later, (cleanup o p).trace respond = ⟨.pathExists p, found⟩ :: later ∧
      forced later <+: [.forceUnmount p o.cleanupMs] ∧ ∀ x ∈ later, Sparing p x.call := by
  obtain ⟨later, he⟩ := cleanup_starts.trace_eq respond
  have hlawful := (cleanup_lawful o p).trace respond
  have hforced := forced_of_lawful hlawful
  rw [he] at hforced hlawful
  refine ⟨_, later, he, by simpa [forced_cons, Call.kind] using hforced, fun x hx => ?_⟩
  obtain ⟨before, after, rfl⟩ := List.append_of_mem hx
  exact (hlawful (_ :: before) x after rfl).sparing

-- ---------------------------------------------------------------------------
-- The take-down
-- ---------------------------------------------------------------------------

theorem takeDown_eq (o : Options) (p : Path) :
    takeDown o p = entryIsHealthy p >>= fun healthy =>
      if healthy then cleanup o p
      else (forceUnmount p o.forceUnmountMs).orNote .firstUnmountFailed >>= fun _ =>
        cleanup o p := by
  refine congrArg (entryIsHealthy p >>= ·) (funext fun healthy => ?_)
  cases healthy
  · simp only [Attempt.orNote, bind_assoc]
    refine congrArg ((forceUnmount p o.forceUnmountMs).outcome >>= ·) (funext fun outcome => ?_)
    rcases outcome with _ | ⟨⟨⟩⟩ <;> rfl
  · rfl

theorem trace_forceUnmount (p : Path) (ms : Nat) (respond : Responses) :
    (forceUnmount p ms).trace respond =
      [⟨.forceUnmount p ms, respond [] (.forceUnmount p ms)⟩] := by
  rw [forceUnmount, Attempt.trace_askLocked_bind]
  cases respond [] (.forceUnmount p ms) <;> rfl

section
variable {o : Options} {p : Path} {respond respond' : Responses}

theorem takeDown_unforced (h : ¬ Unhealthy p respond) :
    (takeDown o p).trace respond =
      (entryIsHealthy p).trace respond ++
        (cleanup o p).trace (respond.after ((entryIsHealthy p).trace respond)) := by
  obtain ⟨healthy, hreply, htells⟩ := entryIsHealthy_tells p respond
  obtain rfl : healthy = true := by simpa [htells] using h
  rw [takeDown_eq, Attempt.trace_bind_ok hreply]
  rfl

theorem takeDown_forced (h : Unhealthy p respond)
    (hlooks : (entryIsHealthy p).trace respond = looks)
    (hforce : respond.exchange looks (.forceUnmount p o.forceUnmountMs) = force) :
    (takeDown o p).trace respond =
      (looks ++ [force]) ++ (cleanup o p).trace (respond.after (looks ++ [force])) ∧
    (takeDown o p).reply respond = (cleanup o p).reply (respond.after (looks ++ [force])) := by
  subst hlooks hforce
  obtain ⟨healthy, hreply, htells⟩ := entryIsHealthy_tells p respond
  obtain rfl := htells.mp h
  rw [takeDown_eq, Attempt.trace_bind_ok hreply, Attempt.reply_bind_ok hreply]
  simp only [Bool.false_eq_true, if_false]
  rw [Attempt.trace_bind_ok (Attempt.reply_orNote ..),
    Attempt.reply_bind_ok (Attempt.reply_orNote ..), Attempt.trace_orNote, trace_forceUnmount,
    Responses.after_after, Responses.after_nil, List.append_assoc]
  exact ⟨rfl, rfl⟩

theorem takeDown_forced_congr (h : Unhealthy p respond)
    (hlooks : (entryIsHealthy p).trace respond = looks)
    (hforce : respond.exchange looks (.forceUnmount p o.forceUnmountMs) = force)
    (hforce' : respond'.exchange looks (.forceUnmount p o.forceUnmountMs) = force')
    (hbefore : respond'.Gives looks)
    (hafter : (respond'.after (looks ++ [force'])).Gives
      ((cleanup o p).trace (respond.after (looks ++ [force])))) :
    (takeDown o p).reply respond' = (takeDown o p).reply respond ∧
    (takeDown o p).trace respond' =
      (looks ++ [force']) ++ (cleanup o p).trace (respond.after (looks ++ [force])) := by
  rw [← hlooks] at hbefore
  have hu' := (unhealthy_congr hbefore).mpr h
  have hlooks' := (Attempt.trace_congr hbefore).trans hlooks
  obtain ⟨-, hreply⟩ := takeDown_forced h hlooks hforce
  obtain ⟨htrace', hreply'⟩ := takeDown_forced hu' hlooks' hforce'
  rw [hreply, hreply', htrace', Attempt.trace_congr hafter, Attempt.reply_congr hafter]
  exact ⟨rfl, rfl⟩

end

/-- What a take-down forces, and what that depends on. -/
theorem takeDown_forces (o : Options) (p : Path) (respond : Responses) :
    ∃ opening found later,
      (takeDown o p).trace respond = opening ++ ⟨.pathExists p, found⟩ :: later ∧
      (∀ x ∈ opening, x.call ≠ .pathExists p) ∧
      (∀ x ∈ opening ++ later, Sparing p x.call) ∧
      forced later <+: [.forceUnmount p o.cleanupMs] ∧
      (¬ Unhealthy p respond → forced opening = []) ∧
      (Unhealthy p respond → ∃ looks, forced looks = [] ∧
        opening = looks ++ [respond.exchange looks (.forceUnmount p o.forceUnmountMs)] ∧
        ∀ (respond' : Responses) force,
          force = respond'.exchange looks (.forceUnmount p o.forceUnmountMs) →
          respond'.Gives looks →
          (respond'.after (looks ++ [force])).Gives (⟨.pathExists p, found⟩ :: later) →
          (takeDown o p).reply respond' = (takeDown o p).reply respond ∧
          (takeDown o p).trace respond' =
            (looks ++ [force]) ++ ⟨.pathExists p, found⟩ :: later) := by
  generalize hlooks : (entryIsHealthy p).trace respond = looks
  have hlooksAt : ∀ x ∈ looks, LooksAt p x.call := by
    intro x hx
    exact (entryIsHealthy_looks p).mem_trace respond (hlooks ▸ hx)
  have hne : ∀ x ∈ looks, x.call ≠ .pathExists p := fun x hx => (hlooksAt x hx).ne_pathExists
  have hspare : ∀ x ∈ looks, Sparing p x.call := fun x hx => (hlooksAt x hx).sparing
  have hnone : forced looks = [] := forced_eq_nil.mpr fun x hx => (hlooksAt x hx).ne_force
  by_cases hu : Unhealthy p respond
  · generalize hforce : respond.exchange looks (.forceUnmount p o.forceUnmountMs) = force
    have hcall : force.call = .forceUnmount p o.forceUnmountMs := hforce ▸ rfl
    obtain ⟨found, later, he, hforced, hlater⟩ :=
      cleanup_forces o p (respond.after (looks ++ [force]))
    refine ⟨looks ++ [force], found, later, ?_, ?_, ?_, hforced, fun h => absurd hu h,
      fun _ => ⟨looks, hnone, by rw [hforce], ?_⟩⟩
    · rw [(takeDown_forced hu hlooks hforce).1, he]
    · exact List.forall_mem_append.mpr ⟨hne, by simp [hcall]⟩
    · have hforceSpare : Sparing p force.call := by simp [hcall, Sparing, Call.kind]
      simp only [List.forall_mem_append, List.forall_mem_singleton]
      exact ⟨⟨hspare, hforceSpare⟩, hlater⟩
    · rintro respond' force' hforce' hbefore hafter
      rw [← he] at hafter ⊢
      exact takeDown_forced_congr hu hlooks hforce hforce'.symm hbefore hafter
  · obtain ⟨found, later, he, hforced, hlater⟩ := cleanup_forces o p (respond.after looks)
    refine ⟨looks, found, later, ?_, hne, ?_, hforced, fun _ => hnone, fun h => absurd h hu⟩
    · rw [takeDown_unforced hu, hlooks, he]
    · exact List.forall_mem_append.mpr ⟨hspare, hlater⟩

/-- A directory that nobody may list, where the first unmount goes as told. -/
def hiddenHost (first : Except Host.MountError Unit) : Responses
  | _, .readDir _ => .error (.os 13)
  | [_], .forceUnmount .. => first
  | past, c => yieldingHost past c

theorem takeDown_forces_hiddenHost :
    Unhealthy ⟨"/a"⟩ (hiddenHost (.ok ())) ∧
      (takeDown {} ⟨"/a"⟩).reply (hiddenHost (.error (.syscall "umount" (.os 16)))) =
        (takeDown {} ⟨"/a"⟩).reply (hiddenHost (.ok ())) := by
  have hparent : Path.parent? ⟨"/a"⟩ = some ⟨"/"⟩ := rfl
  have hu : Unhealthy ⟨"/a"⟩ (hiddenHost (.ok ())) := .unlisted hparent rfl
  obtain ⟨opening, found, later, htrace, -, -, -, -, hforce⟩ :=
    takeDown_forces {} ⟨"/a"⟩ (hiddenHost (.ok ()))
  obtain ⟨looks, hnone, rfl, hsame⟩ := hforce hu
  have h : (takeDown {} ⟨"/a"⟩).trace (hiddenHost (.ok ())) =
      ⟨.readDir ⟨"/"⟩, .error (.os 13)⟩ :: ⟨.forceUnmount ⟨"/a"⟩ 30000, .ok ()⟩ ::
        [⟨.pathExists ⟨"/a"⟩, .ok true⟩, ⟨.isMountPoint ⟨"/a"⟩, .ok false⟩,
          ⟨.removeDir ⟨"/a"⟩, .ok ()⟩] := rfl
  rw [h] at htrace
  -- The one unmount stands right behind the listing.
  rcases looks with _ | ⟨x, _ | ⟨y, looks⟩⟩
  · simp [Responses.exchange] at htrace
  · simp only [List.cons_append, List.nil_append, List.cons.injEq, Exchange.mk.injEq,
      Responses.exchange, true_and, heq_eq_eq] at htrace
    obtain ⟨rfl, -, rfl, rfl⟩ := htrace
    refine ⟨hu, (hsame (hiddenHost (.error (.syscall "umount" (.os 16)))) _ rfl ?_ ?_).1⟩
    · exact Responses.gives_cons.mpr ⟨rfl, Responses.gives_nil _⟩
    · exact Responses.gives_cons.mpr ⟨rfl, Responses.gives_cons.mpr ⟨rfl,
        Responses.gives_cons.mpr ⟨rfl, Responses.gives_nil _⟩⟩⟩
  · obtain ⟨rfl, rfl, -⟩ : _ = x ∧ _ = y ∧ _ := by simpa using htrace
    cases hnone

end VolumeAgent.Mount
