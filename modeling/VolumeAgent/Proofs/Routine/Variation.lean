import VolumeAgent.Proofs.Routine.Reply

/-!
# Two runs side by side

What an attempt says and replies depends on the answers that it gets and on
nothing else. `trace_congr` and `reply_congr`: a responder that gives the
answers of another run, each in its place, brings about the same run. What it
would have answered to any other call, or elsewhere, plays no part.
-/

namespace VolumeAgent

open Host (Call)

namespace Responses

def Gives (respond : Responses) (said : List Exchange) : Prop :=
  ∀ before x after, said = before ++ x :: after → respond before x.call = x.answer

theorem gives_nil (respond : Responses) : respond.Gives [] :=
  fun before x after he => by simp at he

theorem Gives.of_append {respond : Responses} (h : respond.Gives (said ++ more)) :
    respond.Gives said := by
  rintro before x after rfl
  exact h before x (after ++ more) (by simp)

theorem gives_cons {respond : Responses} :
    respond.Gives (x :: said) ↔
      respond [] x.call = x.answer ∧ (respond.after [x]).Gives said := by
  constructor
  · intro h
    refine ⟨h [] x said rfl, ?_⟩
    rintro before y after rfl
    exact h (x :: before) y after rfl
  · rintro ⟨hx, hsaid⟩ before y after he
    cases before with
    | nil =>
      obtain ⟨rfl, -⟩ := List.cons.inj he
      exact hx
    | cons first before =>
      obtain ⟨rfl, hrest⟩ := List.cons.inj he
      exact hsaid before y after hrest

end Responses

theorem Routine.run_record_congr {r : Routine α} {respond respond' : Responses}
    (h : respond'.Gives (r.run respond.record []).2) :
    r.run respond'.record [] = r.run respond.record [] := by
  induction r generalizing respond respond' with
  | done a => rfl
  | call c next ih =>
    have hrun : ∀ respond : Responses, (call c next).run respond.record [] =
        (((next (respond [] c)).run (respond.after [respond.exchange [] c]).record []).1,
          respond.exchange [] c ::
            ((next (respond [] c)).run (respond.after [respond.exchange [] c]).record []).2) :=
      fun respond => (next (respond [] c)).run_record_append respond [respond.exchange [] c] []
    rw [hrun respond] at h
    obtain ⟨hanswer, hlater⟩ := Responses.gives_cons.mp h
    have hsame : respond' [] c = respond [] c := hanswer
    rw [hrun, hrun, Responses.exchange, hsame]
    exact congrArg (fun out => (out.1, respond.exchange [] c :: out.2)) (ih _ hlater)
  | lock next ih => exact ih h
  | unlock next ih => exact ih h
  | report e next ih => exact ih h

namespace Attempt

variable {m : Attempt α} {respond respond' : Responses}

theorem trace_congr (h : respond'.Gives (m.trace respond)) :
    m.trace respond' = m.trace respond :=
  congrArg Prod.snd (Routine.run_record_congr h)

theorem reply_congr (h : respond'.Gives (m.trace respond)) :
    m.reply respond' = m.reply respond :=
  congrArg Prod.fst (Routine.run_record_congr h)

end Attempt

end VolumeAgent
