import Mathlib.Data.List.Basic
import VolumeAgent.Proofs.Mount.Evidence

/-!
# What a removal rests on

A cleanup asks for the removal of the directory in three situations: nothing
was mounted, a forced unmount was checked, or the target could not be looked
at and was unmounted all the same. `cleanup_verifies_iff`: the check between
the unmount and the removal is made exactly where the target could be looked
at. Inside another routine, a cleanup answers to a responder that has heard
what was said before, so this covers it there.
-/

namespace VolumeAgent

open Host (Call)

/-- What comes of a look at a mount point. An error that a broken mount gives
counts as a mount, one that says that nothing is there counts as none. -/
inductive Exchange.Shows (p : Path) : Bool → Exchange → Prop where
  | answer : Shows p mounted ⟨.isMountPoint p, .ok mounted⟩
  | missing (h : e.isMissing = true) : Shows p false ⟨.isMountPoint p, .error e⟩
  | broken (h : e.isBrokenMount = true) : Shows p true ⟨.isMountPoint p, .error e⟩

namespace Mount

inductive BeforeRemoval (p : Path) (ms : Nat) : List Exchange → Prop where
  | unmounted (hx : x.Shows p false) : BeforeRemoval p ms [⟨.pathExists p, .ok true⟩, x]
  | checked (hx : x.Shows p true) (hy : y.Shows p false) :
    BeforeRemoval p ms [⟨.pathExists p, .ok true⟩, x, ⟨.forceUnmount p ms, .ok ()⟩, y]
  | unchecked (he : e.isBrokenMount = true) :
    BeforeRemoval p ms [⟨.pathExists p, .error e⟩, ⟨.forceUnmount p ms, .ok ()⟩]

def RemovesAfter (p : Path) (ms : Nat) (past : List Exchange) : Call → Prop
  | .removeDir q => q = p ∧ BeforeRemoval p ms past
  | _ => True

section
variable {past : List Exchange} {allows : List Exchange → Call → Prop}

theorem isMountedForCleanup_shows (h : allows past (.isMountPoint p)) :
    Triple (.onTrace allows) (isMountedForCleanup p) past
      (fun mounted now => ∃ x : Exchange, x.Shows p mounted ∧ now = past ++ [x])
      (fun _ _ => True) := by
  refine Triple.ask h ?_
  rintro (e | mounted) now rfl
  · simp only
    split
    · exact ⟨_, .missing ‹_›, rfl⟩
    · split
      · exact ⟨_, .broken ‹_›, rfl⟩
      · trivial
  · exact ⟨_, .answer, rfl⟩

theorem forceUnmount_shows (h : allows past (.forceUnmount p ms)) :
    Triple (.onTrace allows) (forceUnmount p ms) past
      (fun _ now => now = past ++ [⟨.forceUnmount p ms, .ok ()⟩]) (fun _ _ => True) := by
  refine Triple.askLocked h ?_
  rintro (e | ⟨⟨⟩⟩) now rfl
  · trivial
  · rfl

theorem removeDir_shows (h : allows past (.removeDir p)) :
    Triple (.onTrace allows) (removeDir p) past (fun _ _ => True) (fun _ _ => True) := by
  refine Triple.ask h ?_
  rintro (e | ⟨⟨⟩⟩) now rfl
  · simp only
    split <;> trivial
  · trivial

theorem cleanup_removes (o : Options) (p : Path) :
    Triple (.onTrace (RemovesAfter p o.cleanupMs)) (cleanup o p) [] (fun _ _ => True)
      (fun _ _ => True) := by
  refine Triple.ask trivial ?_
  rintro (e | ⟨_ | _⟩) now rfl
  · simp only
    split
    · simp only [triple_bind, triple_note]
      refine (forceUnmount_shows trivial).mono ?_ fun _ _ h => h
      rintro _ _ rfl
      exact removeDir_shows ⟨rfl, .unchecked ‹_›⟩
    · trivial
  · trivial
  · refine Triple.bind (isMountedForCleanup_shows trivial) ?_
    rintro mounted _ ⟨x, hx, rfl⟩
    cases mounted with
    | false => exact removeDir_shows ⟨rfl, .unmounted hx⟩
    | true =>
      refine Triple.bind (forceUnmount_shows trivial) ?_
      rintro _ _ rfl
      refine Triple.bind (isMountedForCleanup_shows trivial) ?_
      rintro mounted _ ⟨y, hy, rfl⟩
      cases mounted with
      | false => exact removeDir_shows ⟨rfl, .checked hx hy⟩
      | true => trivial

end

theorem BeforeRemoval.split
    (h : BeforeRemoval p timeout (before ++ ⟨.forceUnmount p ms, .ok ()⟩ :: between)) :
    (∃ x y : Exchange, before = [⟨.pathExists p, .ok true⟩, x] ∧ between = [y] ∧ y.Shows p false) ∨
      ∃ e : Host.IoError, e.isBrokenMount = true ∧ before = [⟨.pathExists p, .error e⟩] ∧
        between = [] := by
  have hne : ∀ {mounted} {x : Exchange}, x.Shows p mounted →
      (⟨.forceUnmount p ms, .ok ()⟩ : Exchange) ≠ x := by
    rintro mounted _ hx rfl
    cases hx
  generalize hpast : before ++ _ = past at h
  -- The unmount is none of the looks, so there is one place for it at most.
  cases h with
  | @unmounted x hx =>
    have hmem : (⟨.forceUnmount p ms, .ok ()⟩ : Exchange) ∈ [⟨.pathExists p, .ok true⟩, x] := by
      simp [← hpast]
    simp [hne hx] at hmem
  | @checked x y hx hy =>
    have hsplit : [⟨.pathExists p, .ok true⟩, x] ++ ⟨.forceUnmount p timeout, .ok ()⟩ :: [y] =
        before ++ ⟨.forceUnmount p ms, .ok ()⟩ :: between := hpast.symm
    rw [List.append_cons_inj_of_notMem (by simp [hne hx]) (by simp [hne hy])] at hsplit
    obtain ⟨rfl, -, rfl⟩ := hsplit
    exact .inl ⟨x, y, rfl, rfl, hy⟩
  | @unchecked e he =>
    have hsplit : [⟨.pathExists p, .error e⟩] ++ ⟨.forceUnmount p timeout, .ok ()⟩ :: [] =
        before ++ ⟨.forceUnmount p ms, .ok ()⟩ :: between := hpast.symm
    rw [List.append_cons_inj_of_notMem (by simp) (by simp)] at hsplit
    obtain ⟨rfl, -, rfl⟩ := hsplit
    exact .inr ⟨e, he, rfl, rfl⟩

/-- Whatever the host answers: between a forced unmount that works and the
removal a cleanup has seen that nothing is mounted exactly if it could look
at the target at first. Where that look failed as on a broken mount, nothing
is asked in between. -/
theorem cleanup_verifies_iff (h : (cleanup o p).trace respond =
    before ++ ⟨.forceUnmount p ms, .ok ()⟩ :: between ++ ⟨.removeDir p, answer⟩ :: after) :
    (∃ x ∈ between, x.Shows p false) ↔ ⟨.pathExists p, .ok true⟩ ∈ before := by
  have hbefore := ((cleanup_removes o p).trace respond _ _ after h).2
  rcases hbefore.split with ⟨x, y, rfl, rfl, hy⟩ | ⟨e, he, rfl, rfl⟩
  · simp [hy]
  · simp

def yieldingHost : Responses
  | past, .isMountPoint _ => .ok (past.length < 2)
  | past, c => Service.staleHost past c

theorem cleanup_verifies_iff_yieldingHost :
    (cleanup {} ⟨"/a"⟩).trace yieldingHost =
        [⟨.pathExists ⟨"/a"⟩, .ok true⟩, ⟨.isMountPoint ⟨"/a"⟩, .ok true⟩] ++
          ⟨.forceUnmount ⟨"/a"⟩ 10000, .ok ()⟩ :: [⟨.isMountPoint ⟨"/a"⟩, .ok false⟩] ++
          [⟨.removeDir ⟨"/a"⟩, .ok ()⟩] ∧
      ∃ x ∈ [(⟨.isMountPoint ⟨"/a"⟩, .ok false⟩ : Exchange)], x.Shows ⟨"/a"⟩ false := by
  have h : (cleanup {} ⟨"/a"⟩).trace yieldingHost =
      [⟨.pathExists ⟨"/a"⟩, .ok true⟩, ⟨.isMountPoint ⟨"/a"⟩, .ok true⟩] ++
        ⟨.forceUnmount ⟨"/a"⟩ 10000, .ok ()⟩ :: [⟨.isMountPoint ⟨"/a"⟩, .ok false⟩] ++
        [⟨.removeDir ⟨"/a"⟩, .ok ()⟩] := rfl
  exact ⟨h, (cleanup_verifies_iff h).mpr (by simp)⟩

def disconnectedHost : Responses
  | _, .pathExists _ => .error (.os 107)
  | past, c => Service.staleHost past c

/-- Its directory is removed without a look after the unmount. -/
theorem cleanup_removes_unverified :
    ¬ ∀ (o : Options) (p : Path) (respond : Responses) (ms : Nat) (before between after)
      (answer : Except Host.IoError Unit),
      (cleanup o p).trace respond =
        before ++ ⟨.forceUnmount p ms, .ok ()⟩ :: between ++ ⟨.removeDir p, answer⟩ :: after →
      ∃ x ∈ between, x.Shows p false := by
  intro h
  obtain ⟨x, hx, -⟩ := h {} ⟨"/a"⟩ disconnectedHost 10000
    [⟨.pathExists ⟨"/a"⟩, .error (.os 107)⟩] [] [] (.ok ()) rfl
  cases hx

end Mount

end VolumeAgent
