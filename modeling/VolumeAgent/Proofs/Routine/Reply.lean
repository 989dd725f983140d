import VolumeAgent.Proofs.Routine.Trace

/-!
# What an attempt says and replies

Against a responder an attempt has a trace and a reply. Those of a sequence
are put together from those of its parts, where the second part meets the
responder as the first has left it (`trace_bind_ok`, `reply_bind_ok`).
`FailsOnly` bounds the failures of an attempt, `Starts` names the call it begins with.
-/

namespace VolumeAgent

open Host (Call)

def Responses.after (respond : Responses) (past : List Exchange) : Responses :=
  fun later => respond (past ++ later)

def Responses.exchange (respond : Responses) (past : List Exchange) (c : Call) : Exchange :=
  ⟨c, respond past c⟩

@[simp] theorem Responses.after_nil (respond : Responses) (past : List Exchange) :
    respond.after past [] = respond past := congrArg respond (List.append_nil past)

theorem Responses.after_after (respond : Responses) (past later : List Exchange) :
    (respond.after past).after later = respond.after (past ++ later) :=
  funext fun _ => congrArg respond (List.append_assoc ..).symm

def Attempt.reply (m : Attempt α) (respond : Responses) : Except Failure α :=
  (m.run.run respond.record []).1

theorem Responses.keeps_record (respond : Responses) :
    Routine.Keeps .free respond.record id fun _ => True :=
  ⟨fun _ => rfl, fun h => h⟩

theorem Routine.run_record_append (r : Routine α) (respond : Responses)
    (past later : List Exchange) :
    r.run respond.record (past ++ later) =
      ((r.run (respond.after past).record later).1,
        past ++ (r.run (respond.after past).record later).2) := by
  induction r generalizing later with
  | done a => rfl
  | call c next ih =>
    have hnext := ih (respond (past ++ later) c) (later ++ [⟨c, respond (past ++ later) c⟩])
    rwa [← List.append_assoc] at hnext
  | lock next ih => exact ih later
  | unlock next ih => exact ih later
  | report e next ih => exact ih later

theorem Routine.prefix_run_record (r : Routine α) (respond : Responses) (past : List Exchange) :
    past <+: (r.run respond.record past).2 := by
  have happend := r.run_record_append respond past []
  rw [List.append_nil] at happend
  rw [happend]
  exact List.prefix_append _ _

theorem Triple.replied {m : Attempt α} (h : Triple .free m [] Q E) (respond : Responses) :
    match m.reply respond with
    | .ok a => Q a (m.trace respond)
    | .error f => E f (m.trace respond) :=
  Routine.Meets.run respond.keeps_record trivial h

namespace Attempt

section
variable {m : Attempt β} {f : β → Attempt α} {respond : Responses}

@[simp] theorem trace_pure (a : α) : (pure a : Attempt α).trace respond = [] := rfl

@[simp] theorem trace_throw (f : Failure) : (throw f : Attempt α).trace respond = [] := rfl

@[simp] theorem reply_throw (f : Failure) : (throw f : Attempt α).reply respond = .error f := rfl

@[simp] theorem reply_outcome (m : Attempt α) : m.outcome.reply respond = .ok (m.reply respond) := by
  rw [reply, run_outcome, Routine.run_bind]
  rfl

theorem run_bind_record :
    (m >>= f).run.run respond.record [] =
      match m.reply respond with
      | .ok b => ((f b).reply (respond.after (m.trace respond)),
          m.trace respond ++ (f b).trace (respond.after (m.trace respond)))
      | .error e => (.error e, m.trace respond) := by
  rw [run_bind, Routine.run_bind]
  have happend := fun b => (f b).run.run_record_append respond (m.trace respond) []
  simp only [List.append_nil] at happend
  simp only [reply, trace] at happend ⊢
  cases (m.run.run respond.record []).1 with
  | ok b => exact happend b
  | error e => rfl

/-- After a reply the rest is said, to a responder that has heard the first
part. -/
theorem trace_bind_ok (h : m.reply respond = .ok b) :
    (m >>= f).trace respond =
      m.trace respond ++ (f b).trace (respond.after (m.trace respond)) := by
  rw [trace, run_bind_record, h]

theorem trace_bind_error (h : m.reply respond = .error e) :
    (m >>= f).trace respond = m.trace respond := by
  rw [trace, run_bind_record, h]

theorem reply_bind_ok (h : m.reply respond = .ok b) :
    (m >>= f).reply respond = (f b).reply (respond.after (m.trace respond)) := by
  rw [reply, run_bind_record, h]

theorem reply_bind_error (h : m.reply respond = .error e) :
    (m >>= f).reply respond = .error e := by
  rw [reply, run_bind_record, h]

end

-- ---------------------------------------------------------------------------
-- Single calls
-- ---------------------------------------------------------------------------

section
variable {respond : Responses} {c : Call} {f : c.Answer → Attempt α}

theorem trace_ask_bind :
    (Attempt.ask c >>= f).trace respond =
      ⟨c, respond [] c⟩ :: (f (respond [] c)).trace (respond.after [⟨c, respond [] c⟩]) :=
  trace_bind_ok (m := Attempt.ask c) rfl

theorem reply_ask_bind :
    (Attempt.ask c >>= f).reply respond =
      (f (respond [] c)).reply (respond.after [⟨c, respond [] c⟩]) :=
  reply_bind_ok (m := Attempt.ask c) rfl

theorem trace_askLocked_bind :
    (Attempt.askLocked c >>= f).trace respond =
      ⟨c, respond [] c⟩ :: (f (respond [] c)).trace (respond.after [⟨c, respond [] c⟩]) :=
  trace_bind_ok (m := Attempt.askLocked c) rfl

end

-- ---------------------------------------------------------------------------
-- Attempts that may fail
-- ---------------------------------------------------------------------------

section
variable {respond : Responses}

theorem trace_outcome (m : Attempt α) : m.outcome.trace respond = m.trace respond := by
  rw [trace, run_outcome, Routine.run_bind]
  rfl

def orNote (m : Attempt Unit) (e : Event) : Attempt Unit := do
  match ← m.outcome with
  | .ok () => pure ()
  | .error _ => note e

@[simp] theorem trace_orNote (m : Attempt Unit) (e : Event) :
    (m.orNote e).trace respond = m.trace respond := by
  rw [orNote, trace_bind_ok (reply_outcome m), trace_outcome]
  cases m.reply respond <;> exact List.append_nil _

@[simp] theorem reply_orNote (m : Attempt Unit) (e : Event) :
    (m.orNote e).reply respond = .ok () := by
  rw [orNote, reply_bind_ok (reply_outcome m)]
  cases m.reply respond <;> rfl

end

theorem Uses.said {ok : Call → Prop} {m : Attempt α} (h : m.Uses ok) (past : List Exchange) :
    Triple .free m past
      (fun _ now => ∃ said, (∀ x ∈ said, ok x.call) ∧ now = past ++ said)
      (fun _ now => ∃ said, (∀ x ∈ said, ok x.call) ∧ now = past ++ said) := by
  have hfree : Triple .free m past (fun _ _ => True) (fun _ _ => True) :=
    Routine.meets_of_forall (fun _ _ => trivial) fun r _ => by cases r <;> trivial
  refine (hfree.keep h ?_ ⟨[], by simp, by simp⟩).mono (fun _ _ h => h.2) fun _ _ h => h.2
  rintro c _ a _ hc ⟨said, hsaid, rfl⟩ rfl
  refine ⟨said ++ [⟨c, a⟩], fun x hx => ?_, by simp⟩
  rcases List.mem_append.mp hx with hx | hx
  · exact hsaid x hx
  · obtain rfl := List.mem_singleton.mp hx
    exact hc

theorem Obeys.said {ok : Call → Prop} {m : Attempt α} (h : m.Obeys (.only ok))
    (past : List Exchange) :
    Triple .free m past
      (fun _ now => ∃ said, (∀ x ∈ said, ok x.call) ∧ now = past ++ said)
      (fun _ now => ∃ said, (∀ x ∈ said, ok x.call) ∧ now = past ++ said) :=
  Uses.said (h ()) past

-- ---------------------------------------------------------------------------
-- Failures
-- ---------------------------------------------------------------------------

def FailsOnly (ok : Failure → Prop) (m : Attempt α) : Prop :=
  ∀ past, Triple .free m past (fun _ _ => True) (fun f _ => ok f)

namespace FailsOnly

variable {ok : Failure → Prop}

theorem pure : FailsOnly ok (Pure.pure a : Attempt α) := fun _ => trivial

theorem mono {ok' : Failure → Prop} {m : Attempt α} (h : FailsOnly ok m)
    (hok : ∀ f, ok f → ok' f) : FailsOnly ok' m :=
  fun past => (h past).mono (fun _ _ h => h) fun f _ hf => hok f hf

theorem throw (h : ok f) : FailsOnly ok (MonadExcept.throw f : Attempt α) := fun _ => h

theorem note : FailsOnly ok (Attempt.note e) := fun _ => trivial

theorem bind {m : Attempt β} {f : β → Attempt α} (h : FailsOnly ok m)
    (hf : ∀ b, FailsOnly ok (f b)) : FailsOnly ok (m >>= f) :=
  fun past => Triple.bind (h past) fun b now _ => hf b now

theorem ask : FailsOnly ok (Attempt.ask c) := fun _ => ⟨trivial, fun _ _ _ => trivial⟩

theorem askLocked : FailsOnly ok (Attempt.askLocked c) := fun _ => ⟨trivial, fun _ _ _ => trivial⟩

theorem outcome {m : Attempt α} : FailsOnly ok m.outcome :=
  fun past => triple_outcome.mpr (m.uses_all.said past |>.mono (fun _ _ _ => trivial)
    fun _ _ _ => trivial)

theorem reply {m : Attempt α} (h : FailsOnly ok m) (hr : m.reply respond = .error f) : ok f := by
  have hreplied := (h []).replied respond
  rwa [hr] at hreplied

end FailsOnly

-- ---------------------------------------------------------------------------
-- First calls
-- ---------------------------------------------------------------------------

def Starts (m : Attempt α) (c : Call) : Prop := ∃ next, m.run = .call c next

namespace Starts

theorem ask : Starts (Attempt.ask c) c := ⟨_, rfl⟩

theorem bind {m : Attempt β} {f : β → Attempt α} (h : Starts m c) : Starts (m >>= f) c := by
  obtain ⟨next, hrun⟩ := h
  exact ⟨_, by rw [run_bind, hrun]; rfl⟩

theorem trace_eq {m : Attempt α} (h : Starts m c) (respond : Responses) :
    ∃ later, m.trace respond = ⟨c, respond [] c⟩ :: later := by
  obtain ⟨next, hrun⟩ := h
  obtain ⟨later, hlater⟩ := (next (respond [] c)).prefix_run_record respond [⟨c, respond [] c⟩]
  refine ⟨later, ?_⟩
  rw [Attempt.trace, hrun]
  exact hlater.symm

theorem trace_ne_nil {m : Attempt α} (h : Starts m c) : m.trace respond ≠ [] := by
  obtain ⟨later, he⟩ := h.trace_eq respond
  simp [he]

end Starts

end Attempt

end VolumeAgent
