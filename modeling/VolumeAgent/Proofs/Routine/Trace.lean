import VolumeAgent.Proofs.Routine.Footprint

/-!
# Traces under arbitrary answers

A responder that may look at everything said so far stands for any host at
all: every sequence of answers that the types of the calls admit is given by
one. The trace of a routine against it is the list of its calls with what
they were answered. `Meets.trace`: what a contract on the past allows at
each call holds at each place of the trace.
-/

namespace VolumeAgent

open Host (Call)

structure Exchange where
  call : Call
  answer : call.Answer

/-- Answers to a call after some exchanges, true to no state. -/
abbrev Responses := List Exchange → (c : Call) → c.Answer

namespace Responses

def record (respond : Responses) (c : Call) (past : List Exchange) :
    c.Answer × List Exchange :=
  (respond past c, past ++ [⟨c, respond past c⟩])

end Responses

def Attempt.trace (m : Attempt α) (respond : Responses) : List Exchange :=
  (m.run.run respond.record []).2

def Contract.onTrace (allows : List Exchange → Call → Prop) : Contract (List Exchange) :=
  ⟨allows, fun past c a next => next = past ++ [⟨c, a⟩]⟩

abbrev Contract.free : Contract (List Exchange) := .onTrace fun _ _ => True

/-- Each call of a trace was allowed after what came before it. -/
def Lawful (allows : List Exchange → Call → Prop) (trace : List Exchange) : Prop :=
  ∀ before x after, trace = before ++ x :: after → allows before x.call

theorem Lawful.snoc (h : Lawful allows past) (hx : allows past x.call) :
    Lawful allows (past ++ [x]) := by
  intro before y after he
  -- What is asked about is the new exchange, or has been there before.
  rcases List.eq_nil_or_concat after with rfl | ⟨after, z, rfl⟩
  · obtain ⟨rfl, hy⟩ := List.append_inj' he rfl
    simp only [List.cons.injEq, and_true] at hy
    exact hy ▸ hx
  · have he : past ++ [x] = (before ++ y :: after) ++ [z] := by simpa using he
    exact h before y after (List.append_inj' he rfl).1

theorem Routine.Meets.trace {r : Routine α} (h : r.Meets (.onTrace allows) past Q)
    (hp : Lawful allows past) (respond : Responses) :
    Lawful allows (r.run respond.record past).2 := by
  induction r generalizing past with
  | done a => exact hp
  | call c next ih => exact ih _ (h.2 _ _ rfl) (hp.snoc h.1)
  | lock next ih => exact ih h hp
  | unlock next ih => exact ih h hp
  | report e next ih => exact ih h hp

theorem Triple.trace {m : Attempt α} (h : Triple (.onTrace allows) m [] Q E)
    (respond : Responses) : Lawful allows (m.trace respond) :=
  Routine.Meets.trace h (fun before x after he => by simp at he) respond

theorem Attempt.Obeys.mem_trace {ok : Call → Prop} {m : Attempt α}
    (h : m.Obeys (.onTrace fun _ => ok)) (respond : Responses) (hx : x ∈ m.trace respond) :
    ok x.call := by
  obtain ⟨before, after, he⟩ := List.append_of_mem hx
  exact (h []).trace respond before x after he

end VolumeAgent
