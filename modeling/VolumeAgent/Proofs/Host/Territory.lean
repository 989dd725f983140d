import Mathlib.Logic.Function.Basic
import VolumeAgent.Proofs.Host.Agreement
import VolumeAgent.Proofs.Host.Closed

/-!
# Territories

Parts of the keys, each closed downwards and none sharing a key with another,
are held by parties whose calls stay inside their own part. `Divided` relates
such a host to what each party would have alone: in its own part the same,
and at keys that nobody holds only directories, which are made and never
taken away. `Divided.call` is the step; `Divided.unique` says that the host is
known from what the parties would have alone.
-/

namespace VolumeAgent.Host

open VolumeAgent.Path (Key)

variable {ι : Type} {holds : ι → Key → Bool}

structure Territories (holds : ι → Key → Bool) : Prop where
  names_ne_nil : holds i k = true → k.names ≠ []
  below : holds i k = true → j.below k = true → holds i j = true
  apart : holds i k = true → holds i' k = true → i = i'

def Free (holds : ι → Key → Bool) (k : Key) : Prop := ∀ i, holds i k = false

namespace Territories

theorem not_holds (hT : Territories holds) (hk : holds i k = true) (hne : i' ≠ i)
    (hj : j = k ∨ j.below k = true) : holds i' j = false := by
  refine Bool.eq_false_iff.mpr fun h => hne ?_
  rcases hj with rfl | hj
  · exact hT.apart h hk
  · exact hT.apart h (hT.below hk hj)

theorem not_holds_chain (hT : Territories holds) (hk : holds i k = true) (hne : i' ≠ i)
    (hj : j ∈ k.chain) : holds i' j = false := by
  refine Bool.eq_false_iff.mpr fun h => hne ?_
  by_cases he : j = k
  · exact hT.apart (he ▸ h) hk
  · exact hT.apart (hT.below h (Key.below_of_mem_chain_ne hj he)) hk

theorem free_ne (hk : holds i k = true) (hj : Free holds j) : j ≠ k := by
  rintro rfl
  simp [hj i] at hk

theorem free_not_below (hT : Territories holds) (hk : holds i k = true) (hj : Free holds j) :
    ¬ j.below k = true := by
  intro hb
  simpa [hj i] using hT.below hk hb

end Territories

namespace World

/-- What a party knows of its calls: those in its part are carried out. Of
directories elsewhere it learns nothing. -/
def inPart (part : Key → Bool) : Contract World where
  allows _ c := part c.path.key = true ∨ c.kind = .readDir
  answers w c a t := if part c.path.key then perform c w = (a, t) else t = w

/-- The host `s`, where `u` is what each party would have alone, and `w` what
there was at the start. -/
structure Divided (holds : ι → Key → Bool) (w s : World) (u : ι → World) : Prop where
  faults : s.faults = []
  agree : AgreeOn (holds i) s (u i)
  file : Free holds k → (s.nodes.get? k = some .file ↔ w.nodes.get? k = some .file)
  file_alone : Free holds k → ((u i).nodes.get? k = some .file ↔ w.nodes.get? k = some .file)
  directory : Free holds k → (s.nodes.get? k = some .directory ↔
    w.nodes.get? k = some .directory ∨ ∃ i, (u i).nodes.get? k = some .directory)
  mounts : Free holds k → s.mounts.get? k = w.mounts.get? k

theorem Divided.start (hf : w.faults = []) : Divided holds w w fun _ => w where
  faults := hf
  agree := .refl _ w
  file _ := Iff.rfl
  file_alone _ := Iff.rfl
  directory _ := ⟨.inl, fun h => h.elim id fun ⟨_, h⟩ => h⟩
  mounts _ := rfl

theorem directory_apply (hT : Territories holds) (hk : holds i k = true) (hj : Free holds j)
    (w : World) (e : Edit) :
    (e.apply k w).nodes.get? j = some .directory ↔
      e = .makeDirs ∧ j ∈ k.chain ∨ w.nodes.get? j = some .directory := by
  have hne := Territories.free_ne hk hj
  have hbelow := hT.free_not_below hk hj
  cases e with
  | makeDirs => by_cases hmem : j ∈ k.chain <;> simp [Edit.apply, nodes_withDirs, hmem]
  | unmount => simp [Edit.apply, nodes_withoutMount, hbelow]
  | removeNode => simp [Edit.apply, nodes_withoutNode, hne]
  | nothing => simp [Edit.apply]
  | mount m => simp [Edit.apply]

theorem mounts_apply (hk : holds i k = true) (hj : Free holds j) (w : World) (e : Edit) :
    (e.apply k w).mounts.get? j = w.mounts.get? j := by
  have hne := Territories.free_ne hk hj
  cases e with
  | mount m => exact (mounts_withMount w k m j).trans (if_neg hne)
  | unmount => exact (mounts_withoutMount w k j).trans (if_neg hne)
  | nothing | makeDirs | removeNode => rfl

theorem file_perform (hT : Territories holds) (hk : holds i c.path.key = true)
    (hj : Free holds j) (w : World) :
    (perform c w).2.nodes.get? j = some .file ↔ w.nodes.get? j = some .file := by
  have he := perform_effect c w
  refine ⟨he.file, he.keeps_file (P := (· = c.path.key)) (fun _ => rfl) ?_⟩
  rintro _ rfl
  exact hT.free_not_below hk hj

theorem Divided.file_on_way {w s : World} {u : ι → World} (hT : Territories holds)
    (h : Divided holds w s u) (hk : holds i k = true) (hj : j ∈ k.chain) :
    s.nodes.get? j = some .file ↔ (u i).nodes.get? j = some .file := by
  cases hi : holds i j with
  | true => rw [h.agree.get?_node hi]
  | false =>
    have hfree : Free holds j := by
      intro i'
      by_cases hne : i' = i
      · exact hne ▸ hi
      · exact hT.not_holds_chain hk hne hj
    rw [h.file hfree, h.file_alone hfree]

variable [DecidableEq ι]

/-- A call in a party's own part has the answer that it would have alone,
and keeps the host divided. -/
theorem Divided.call {w s : World} {u : ι → World} (hT : Territories holds)
    (h : Divided holds w s u) (hk : holds i c.path.key = true) :
    (answer c s).1 = (perform c (u i)).1 ∧
      Divided holds w (answer c s).2 (Function.update u i (perform c (u i)).2) := by
  obtain ⟨hans, e, hs, hu⟩ := (h.agree (i := i)).perform hk (hT.names_ne_nil hk)
    (fun j hj => hT.below hk hj) fun j hj => h.file_on_way hT hk hj
  have hcalm := faults_answer h.faults c
  rw [answer_of_calm h.faults] at hcalm ⊢
  refine ⟨hans, hcalm, ?agree, ?file, ?file_alone, ?directory, ?mounts⟩
  case agree =>
    intro i'
    by_cases hne : i' = i
    · subst hne
      rw [Function.update_self, hs, hu]
      exact h.agree.apply _ e
    · -- In another's part nothing has changed.
      rw [Function.update_of_ne hne, hs]
      exact h.agree.frame (hT.not_holds hk hne (.inl rfl))
        (fun j hj => hT.not_holds hk hne (.inr hj))
        (fun j hj => hT.not_holds_chain hk hne hj) e
  case file =>
    intro k hfree
    exact (file_perform hT hk hfree s).trans (h.file hfree)
  case file_alone =>
    intro k i' hfree
    by_cases hne : i' = i
    · subst hne
      rw [Function.update_self]
      exact (file_perform hT hk hfree (u i')).trans (h.file_alone hfree)
    · rw [Function.update_of_ne hne]
      exact h.file_alone hfree
  case directory =>
    -- The same directories are made on the host and in the caller's own view.
    intro k hfree
    have hothers := Function.exists_update_iff (a := i) (b := u i) u
      fun _ v => v.nodes.get? k = some .directory
    rw [Function.update_eq_self] at hothers
    rw [hs, hu, directory_apply hT hk hfree, h.directory hfree, hothers,
      Function.exists_update_iff u fun _ v => v.nodes.get? k = some .directory,
      directory_apply hT hk hfree]
    simp only [or_assoc, or_left_comm]
  case mounts =>
    intro k hfree
    rw [hs, mounts_apply hk hfree]
    exact h.mounts hfree

theorem Divided.step {w s : World} {u : ι → World} (hT : Territories holds)
    (h : Divided holds w s u) (hc : (inPart (holds i)).allows (u i) c) :
    ∃ t, (inPart (holds i)).answers (u i) c (answer c s).1 t ∧
      Divided holds w (answer c s).2 (Function.update u i t) := by
  cases hk : holds i c.path.key with
  | true =>
    obtain ⟨ha, hdivided⟩ := h.call hT hk
    exact ⟨(perform c (u i)).2, by simp [inPart, hk, ha], hdivided⟩
  | false =>
    have hread : c.kind = .readDir := hc.resolve_left (by simp [hk])
    have hstill : c.hasEffect = false := by
      cases c <;> simp_all [Call.kind, Call.hasEffect]
    refine ⟨u i, by simp [inPart, hk], ?_⟩
    rwa [Function.update_eq_self, answer_of_calm h.faults, perform_still hstill]

/-- The same nodes and the same mounts, in whatever order they are kept. -/
structure Same (w v : World) : Prop where
  nodes : ∀ k, w.nodes.get? k = v.nodes.get? k
  mounts : ∀ k, w.mounts.get? k = v.mounts.get? k

omit [DecidableEq ι] in
theorem Divided.unique {w s t : World} {u : ι → World} (hs : Divided holds w s u)
    (ht : Divided holds w t u) : s.Same t := by
  have hheld : ∀ k, ¬ Free holds k → ∃ i, holds i k = true := by
    intro k hk
    simpa [Free] using hk
  constructor
  · intro k
    by_cases hk : Free holds k
    · refine Option.ext fun node => ?_
      cases node with
      | directory => rw [hs.directory hk, ht.directory hk]
      | file => rw [hs.file hk, ht.file hk]
    · obtain ⟨i, hi⟩ := hheld k hk
      rw [hs.agree.get?_node hi, ht.agree.get?_node hi]
  · intro k
    by_cases hk : Free holds k
    · rw [hs.mounts hk, ht.mounts hk]
    · obtain ⟨i, hi⟩ := hheld k hk
      rw [Table.get?_of_within hs.agree.mounts hi, Table.get?_of_within ht.agree.mounts hi]

end World

end VolumeAgent.Host
