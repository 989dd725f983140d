import VolumeAgent.Proofs.Volume.Descriptor
import VolumeAgent.Proofs.Volume.Interpolation
import VolumeAgent.Service

/-!
# What resolution reads of a context

Interpolation looks up the placeholders whose tokens stand in the template,
and no others (`expandFrom_congr`). `resolve_relevant`: contexts that give
alike the server, the sub-directory and what the placeholders in it stand
for are resolved alike, report included. Neither their other entries nor the
case and the order of their names play a part.
-/

namespace VolumeAgent.Volume

/-- The same value, or none, is given under the name, in whatever case it is
written. -/
def Context.Alike (pairs pairs' : List (String × String)) (name : String) : Prop :=
  ∀ value, Gives pairs name value ↔ Gives pairs' name value

theorem Context.alike_iff {name : String} (hu : Unambiguous pairs) (hu' : Unambiguous pairs') :
    Alike pairs pairs' name ↔ (ofList pairs).get? name = (ofList pairs').get? name := by
  constructor
  · intro h
    apply Option.ext
    intro value
    rw [get?_ofList hu, get?_ofList hu']
    exact h value
  · intro h value
    rw [← get?_ofList hu, ← get?_ofList hu', h]

-- ---------------------------------------------------------------------------
-- Templates
-- ---------------------------------------------------------------------------

theorem Context.expandFrom_congr {context other : Context}
    (h : ∀ p ∈ placeholders, p.token.toList <:+: text →
      other.get? p.source = context.get? p.source) :
    other.expandFrom 0 text = context.expandFrom 0 text := by
  obtain ⟨pieces, hreads⟩ := exists_reads context.has text
  induction hreads with
  | done => rfl
  | @value p _ rest hp hset _ ih =>
    obtain ⟨value, hvalue⟩ := has_eq_true.mp hset
    have hother : other.get? p.source = some value :=
      (h p hp (List.prefix_append _ _).isInfix).trans hvalue
    have hrest := ih fun q hq hin => h q hq (hin.trans (List.suffix_append _ _).isInfix)
    rw [expandFrom_token hp hvalue, expandFrom_token hp hother, hrest]
  | @char c _ cs hno _ ih =>
    -- What starts here has the same value in both, so it has none in either.
    have hnone : ∀ p ∈ placeholders, other.has p = true → ¬ p.token.toList <+: c :: cs := by
      intro p hp hset hpre
      rw [has, h p hp hpre.isInfix] at hset
      exact hno p hp hset hpre
    have hrest := ih fun q hq hin => h q hq (hin.trans (List.suffix_cons c cs).isInfix)
    rw [expandFrom_char hno, expandFrom_char hnone, hrest]

theorem Context.interpolate_congr {context other : Context}
    (h : ∀ p ∈ placeholders, p.token.toList <:+: template.toList →
      other.get? p.source = context.get? p.source) :
    other.interpolate template = context.interpolate template := by
  rw [interpolate, interpolate, expandFrom_congr h]

-- ---------------------------------------------------------------------------
-- Resolution
-- ---------------------------------------------------------------------------

theorem resolve_congr (id : String)
    (hserver : (Context.ofList pairs).get? serverKey = (Context.ofList pairs').get? serverKey)
    (hraw : rawSubDir (.ofList pairs) = rawSubDir (.ofList pairs'))
    (hsub : (rawSubDir (.ofList pairs)).map (cleanSubDir (.ofList pairs)) =
      (rawSubDir (.ofList pairs')).map (cleanSubDir (.ofList pairs'))) :
    resolve id pairs = resolve id pairs' := by
  unfold cleanSubDir at hsub
  simp only [resolve, hserver, hsub]
  rw [hraw]

/-- A volume is resolved from what its context gives under the names that
matter: the same volume or failure, with the same report. -/
theorem resolve_relevant (id : String) (hu : Context.Unambiguous pairs)
    (hu' : Context.Unambiguous pairs') (hserver : Context.Alike pairs pairs' serverKey)
    (hsub : Context.Alike pairs pairs' subDirKey)
    (hvalues : ∀ p ∈ placeholders, ∀ template, Context.Gives pairs subDirKey template →
      p.token.toList <:+: template.toList → Context.Alike pairs pairs' p.source) :
    resolve id pairs = resolve id pairs' ∧
      Service.resolve id pairs = Service.resolve id pairs' := by
  have hget := (Context.alike_iff hu hu').mp hsub
  have hraw : rawSubDir (.ofList pairs) = rawSubDir (.ofList pairs') := by
    rw [rawSubDir, hget, ← rawSubDir]
  have hclean : (rawSubDir (.ofList pairs)).map (cleanSubDir (.ofList pairs)) =
      (rawSubDir (.ofList pairs')).map (cleanSubDir (.ofList pairs')) := by
    rw [← hraw]
    refine Option.map_congr fun raw hmem => congrArg Path.cleanSubpath ?_
    obtain ⟨template, hgives, rfl⟩ := (rawSubDir_ofList hu).mp hmem
    refine (Context.interpolate_congr fun p hp hin => ?_).symm
    have htrim : (Text.trimChar '/' template).toList <:+: template.toList := by
      simpa [Text.trimChar] using Text.trim_isInfix (· == '/') template.toList
    exact ((Context.alike_iff hu hu').mp (hvalues p hp template hgives (hin.trans htrim))).symm
  have hresolve := resolve_congr id ((Context.alike_iff hu hu').mp hserver) hraw hclean
  exact ⟨hresolve, by rw [Service.resolve, hresolve, ← Service.resolve]⟩

/-- The directory of a claim, behind which a placeholder for a pod is cut
off. -/
def claimDir : String := "/$\x7bpvc.metadata.name\x7d/$\x7bpod.metadata.name"

def plainNames : List (String × String) :=
  [("mgs-ip-address", "10.0.0.1"), ("sub-dir", claimDir), ("csi.storage.k8s.io/pod.name", "p"),
    ("csi.storage.k8s.io/pvc/name", "c")]

def mixedNames : List (String × String) :=
  [("CSI.Storage.K8s.IO/PVC/Name", "c"), ("Sub-Dir", claimDir), ("pod", "q"),
    ("MGS-IP-Address", "10.0.0.1")]

theorem resolve_relevant_mixedNames :
    Context.Unambiguous plainNames ∧ Context.Unambiguous mixedNames ∧
      resolve "c#fs#10.0.0.2" plainNames = resolve "c#fs#10.0.0.2" mixedNames ∧
      Service.resolve "c#fs#10.0.0.2" plainNames =
        Service.resolve "c#fs#10.0.0.2" mixedNames := by
  have hplain : Context.ofList plainNames =
      ⟨[("csi.storage.k8s.io/pvc/name", "c"), ("csi.storage.k8s.io/pod.name", "p"),
        ("sub-dir", claimDir), ("mgs-ip-address", "10.0.0.1")]⟩ := by decide +kernel
  have hmixed : Context.ofList mixedNames =
      ⟨[("mgs-ip-address", "10.0.0.1"), ("pod", "q"), ("sub-dir", claimDir),
        ("csi.storage.k8s.io/pvc/name", "c")]⟩ := by decide +kernel
  have hu : Context.Unambiguous plainNames := by
    rw [Context.unambiguous_iff, hplain]
    decide
  have hu' : Context.Unambiguous mixedNames := by
    rw [Context.unambiguous_iff, hmixed]
    decide
  have hdir : (Context.ofList plainNames).get? subDirKey = some claimDir := by
    rw [hplain]
    decide +kernel
  refine ⟨hu, hu', resolve_relevant "c#fs#10.0.0.2" hu hu' ?_ ?_ ?_⟩
  · rw [Context.alike_iff hu hu', hplain, hmixed]
    decide +kernel
  · rw [Context.alike_iff hu hu', hdir, hmixed]
    decide +kernel
  · intro p hp template hgives hin
    obtain rfl := Option.some.inj (hdir.symm.trans ((Context.get?_ofList hu).mpr hgives))
    rw [Context.alike_iff hu hu', hplain, hmixed]
    revert p
    decide +kernel

end VolumeAgent.Volume
