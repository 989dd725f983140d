import VolumeAgent.Proofs.Routine.Contract
import VolumeAgent.Service

/-!
# Laws of mounting under any contract

How the larger routines are put together from smaller ones, stated once for
all contracts.
-/

namespace VolumeAgent.Mount

variable {K : Contract σ} {s : σ} {Q : Unit → σ → Prop} {E : Failure → σ → Prop}

/-- The directory is made, then what a redirect leaves of the source is
mounted on it. -/
theorem triple_mount {R : σ → Prop}
    (hmake : Triple K (makeDir p) s (fun _ => R) E)
    (hallow : ∀ t, R t →
      K.allows t (.mount (o.redirected source fsType).1 p (o.redirected source fsType).2 options))
    (hok : ∀ t u, R t → K.answers t
      (.mount (o.redirected source fsType).1 p (o.redirected source fsType).2 options) (.ok ()) u →
      Q () u)
    (herror : ∀ t u e, R t → K.answers t
      (.mount (o.redirected source fsType).1 p (o.redirected source fsType).2 options) (.error e) u →
      E (.notMounted (o.redirected source fsType).1 p e) u) :
    Triple K (mount o source p fsType options) s Q E := by
  refine Triple.bind hmake ?_
  intro _ t ht
  simp only
  split
  all_goals
    try simp only [triple_bind, triple_note]
    refine Triple.askLocked (hallow t ht) ?_
    rintro (e | ⟨⟨⟩⟩) u hu
    · exact herror t u e ht hu
    · exact hok t u ht hu

end VolumeAgent.Mount
