import VolumeAgent.Proofs.Host.Faults
import VolumeAgent.Proofs.Routine.Trace

/-!
# What is said in a run on a host

The exchanges of a run are its calls with what the host has answered. If the
host keeps a contract, each of these calls was allowed; and whatever host it
is, a contract on traces speaks of them.
-/

namespace VolumeAgent

open Host (Call World)

namespace Routine

def exchanges (answer : (c : Call) → σ → c.Answer × σ) : Routine α → σ → List Exchange
  | done _, _ => []
  | call c next, s => ⟨c, (answer c s).1⟩ :: (next (answer c s).1).exchanges answer (answer c s).2
  | lock next, s | unlock next, s | report _ next, s => next.exchanges answer s

theorem Meets.allowed {K : Contract τ} (hk : Keeps K answer view I) (hi : I s) {r : Routine α}
    (h : r.Meets K (view s) Q) (hx : x ∈ r.exchanges answer s) : ∃ t, K.allows t x.call := by
  induction r generalizing s with
  | done a => cases hx
  | call c next ih =>
    rcases List.mem_cons.mp hx with rfl | hx
    · exact ⟨view s, h.1⟩
    · exact ih _ (hk.invariant hi) (h.2 _ _ (hk.answers hi)) hx
  | lock next ih => exact ih hi h hx
  | unlock next ih => exact ih hi h hx
  | report e next ih => exact ih hi h hx

theorem Meets.said {r : Routine α} (h : r.Meets (.onTrace allows) past Q)
    (answer : (c : Call) → σ → c.Answer × σ) (s : σ) :
    Q (r.run answer s).1 (past ++ r.exchanges answer s) := by
  induction r generalizing past s with
  | done a =>
    rw [exchanges, List.append_nil]
    exact h
  | call c next ih =>
    have hnext := ih (answer c s).1 (h.2 _ _ rfl) (answer c s).2
    rwa [List.append_assoc] at hnext
  | lock next ih => exact ih h s
  | unlock next ih => exact ih h s
  | report e next ih => exact ih h s

end Routine

namespace Attempt

def exchangesOn (m : Attempt α) (w : World) : List Exchange := m.run.exchanges World.answer w

end Attempt

theorem Triple.saidOn {m : Attempt α} (h : Triple (.onTrace allows) m [] Q E) (w : World) :
    match (m.runOn w).1 with
    | .ok a => Q a (m.exchangesOn w)
    | .error f => E f (m.exchangesOn w) :=
  Routine.Meets.said h World.answer w

end VolumeAgent
