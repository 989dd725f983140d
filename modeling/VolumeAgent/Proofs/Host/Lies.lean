import VolumeAgent.Proofs.Host.Faults

/-!
# Hosts in memory with faults that lie

A fault answers in the host's place, and what it says need not be true. Fair
faults may say anything but that something is gone. A host whose faults are
fair keeps the contract `lying`: a call is carried out, or changes nothing
and is answered by anything else.
-/

namespace VolumeAgent.Host

def Call.SaysGone : (c : Call) → c.Answer → Prop
  | .pathExists _, a => a = .ok false
  | .removeDir _, a => ∀ e, a = .error e → e.isMissing = true
  | _, _ => False

/-- A fault that leaves it to the host to say that something is gone. -/
def Fault.isFair (f : Fault) : Bool :=
  match f.kind, f.result with
  | .pathExists, .fails _ | .pathExists, .value true => true
  | .pathExists, _ => false
  | .removeDir, .fails e => !e.isMissing
  | .removeDir, _ => false
  | _, _ => true

theorem Fault.not_saysGone {f : Fault} (h : f.isFair = true) (hc : f.covers c = true) :
    ¬ c.SaysGone (f.result.answer c) := by
  obtain ⟨kind, path, skip, times, result⟩ := f
  have hkind : kind = c.kind := by
    simp only [covers, Bool.and_eq_true, beq_iff_eq] at hc
    exact hc.1
  subst hkind
  cases c with
  | pathExists p =>
    cases result with
    | fails e => simp [FaultResult.answer, Call.SaysGone]
    | value b => cases b <;> simp_all [isFair, Call.kind, FaultResult.answer, Call.SaysGone]
    | _ => simp [isFair, Call.kind] at h
  | removeDir p =>
    cases result with
    | fails e => simpa [isFair, Call.kind, FaultResult.answer, Call.SaysGone] using h
    | _ => simp [isFair, Call.kind] at h
  | _ => simp [Call.SaysGone]

namespace World

def lying : Contract World where
  allows _ _ := True
  answers w c a t := perform c w = (a, t) ∨ ¬ c.SaysGone a ∧ t = w

theorem eq_of_lying {w t : World} {a : c.Answer} (hc : c.hasEffect = false)
    (h : lying.answers w c a t) : t = w := by
  rcases h with h | ⟨-, rfl⟩
  · rw [← perform_still (w := w) hc, h]
  · rfl

theorem keeps_lying :
    Routine.Keeps lying answer calm fun w => ∀ f ∈ w.faults, f.isFair = true where
  answers {w c} h := by
    rcases answer_calm c w with hdone | ⟨f, hf, hc, ha, hw⟩
    · exact .inl hdone
    · exact .inr ⟨ha ▸ Fault.not_saysGone (h f hf) hc, hw⟩
  invariant {w c} h := forall_mem_faults_answer (fun _ _ _ hf => hf) h c

end World

end VolumeAgent.Host
