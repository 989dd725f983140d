import Mathlib.Data.List.Basic
import Mathlib.Data.List.Find
import VolumeAgent.Proofs.Host.World

/-!
# Hosts that agree on a part of the keys

A call reads and writes little of a host. `AgreeOn.perform`: on hosts that
agree on all that lies at or below a call's path, and about files on the way
to it, the call gives one answer and makes one change. A change is known by
the place it is made at, so what it does to another part is nothing.
-/

namespace VolumeAgent.Host

open VolumeAgent.Path (Key)

namespace Table

def within (t : Table α) (part : Key → Bool) : Table α := t.dropWhere fun k => !part k

variable {t t' : Table α} {part : Key → Bool}

theorem get?_of_within (h : t.within part = t'.within part) (hk : part k = true) :
    t.get? k = t'.get? k := by
  have hget := congrArg (·.get? k) h
  simpa [within, get?_dropWhere, hk] using hget

theorem within_dropWhere (t : Table α) (part gone : Key → Bool) :
    (t.dropWhere gone).within part = (t.within part).dropWhere gone := by
  simp only [within, dropWhere, List.filter_filter, Bool.and_comm]

theorem within_dropWhere_of_not (h : ∀ k, part k = true → gone k = false) :
    (t.dropWhere gone).within part = t.within part := by
  simp only [within, dropWhere, List.filter_filter, Bool.not_not]
  refine List.filter_congr fun e _ => ?_
  cases hp : part e.1 <;> simp [h _, hp]

theorem within_set_of_not (h : part k = false) (a : α) :
    (t.set k a).within part = t.within part := by
  have herase : (t.erase k).within part = t.within part :=
    within_dropWhere_of_not fun j hj => by
      have hne : j ≠ k := fun he => by simp [he, h] at hj
      simpa using hne
  rw [← herase]
  simp [set, within, dropWhere, h]

theorem within_set_congr (h : t.within part = t'.within part) (k : Key) (a : α) :
    (t.set k a).within part = (t'.set k a).within part := by
  have herase : (t.erase k).within part = (t'.erase k).within part := by
    simp only [erase, within_dropWhere, h]
  cases hk : part k with
  | false => rw [within_set_of_not hk, within_set_of_not hk, h]
  | true =>
    have hcons : ∀ t : Table α, (t.set k a).within part = (k, a) :: (t.erase k).within part := by
      intro t
      simp [set, within, dropWhere, hk]
    rw [hcons, hcons, herase]

theorem within_foldl_set_of_not (ks : List Key) (h : ∀ k ∈ ks, part k = false) (t : Table α)
    (a : α) : (ks.foldl (fun t k => t.set k a) t).within part = t.within part := by
  induction ks generalizing t with
  | nil => rfl
  | cons k ks ih =>
    obtain ⟨hk, hks⟩ := List.forall_mem_cons.mp h
    exact (ih hks _).trans (within_set_of_not hk a)

theorem within_foldl_set_congr (ks : List Key) (h : t.within part = t'.within part) (a : α) :
    (ks.foldl (fun t k => t.set k a) t).within part =
      (ks.foldl (fun t k => t.set k a) t').within part := by
  induction ks generalizing t t' with
  | nil => exact h
  | cons k ks ih => exact ih (within_set_congr h k a)

end Table

-- ---------------------------------------------------------------------------
-- Changes
-- ---------------------------------------------------------------------------

inductive Edit where
  | nothing
  | mount (m : Mounted)
  | unmount
  | makeDirs
  | removeNode

def Edit.apply (k : Key) (w : World) : Edit → World
  | nothing => w
  | mount m => w.withMount k m
  | unmount => w.withoutMount k
  | makeDirs => w.withDirs k
  | removeNode => w.withoutNode k

namespace World

structure AgreeOn (part : Key → Bool) (w v : World) : Prop where
  overlay : w.overlay = v.overlay
  nodes : w.nodes.within part = v.nodes.within part
  mounts : w.mounts.within part = v.mounts.within part

variable {part : Key → Bool} {w v : World} {k : Key}

theorem AgreeOn.refl (part : Key → Bool) (w : World) : AgreeOn part w w := ⟨rfl, rfl, rfl⟩

theorem AgreeOn.apply (h : AgreeOn part w v) (k : Key) (e : Edit) :
    AgreeOn part (e.apply k w) (e.apply k v) := by
  obtain ⟨hoverlay, hnodes, hmounts⟩ := h
  cases e with
  | nothing => exact ⟨hoverlay, hnodes, hmounts⟩
  | mount m => exact ⟨hoverlay, hnodes, Table.within_set_congr hmounts k m⟩
  | unmount =>
    refine ⟨hoverlay, ?_, ?_⟩
    · simp only [Edit.apply, withoutMount, hoverlay]
      split
      · simp only [Table.within_dropWhere, hnodes]
      · exact hnodes
    · simp only [Edit.apply, withoutMount, Table.erase, Table.within_dropWhere, hmounts]
  | makeDirs => exact ⟨hoverlay, Table.within_foldl_set_congr _ hnodes _, hmounts⟩
  | removeNode =>
    refine ⟨hoverlay, ?_, hmounts⟩
    simp only [Edit.apply, withoutNode, Table.erase, Table.within_dropWhere, hnodes]

theorem AgreeOn.frame (h : AgreeOn part w v) (hself : part k = false)
    (hbelow : ∀ j, j.below k = true → part j = false) (hchain : ∀ j ∈ k.chain, part j = false)
    (e : Edit) : AgreeOn part (e.apply k w) v := by
  obtain ⟨hoverlay, hnodes, hmounts⟩ := h
  have herase : ∀ {α : Type} (t : Table α), (t.erase k).within part = t.within part := by
    intro α t
    refine Table.within_dropWhere_of_not fun j hj => ?_
    have hne : j ≠ k := fun he => by simp [he, hself] at hj
    simpa using hne
  cases e with
  | nothing => exact ⟨hoverlay, hnodes, hmounts⟩
  | mount m => exact ⟨hoverlay, hnodes, (Table.within_set_of_not hself m).trans hmounts⟩
  | unmount =>
    refine ⟨hoverlay, ?_, (herase w.mounts).trans hmounts⟩
    simp only [Edit.apply, withoutMount]
    split
    · refine Eq.trans (Table.within_dropWhere_of_not fun j hj => ?_) hnodes
      exact Bool.eq_false_iff.mpr fun hb => by simp [hbelow j hb] at hj
    · exact hnodes
  | makeDirs =>
    exact ⟨hoverlay, (Table.within_foldl_set_of_not _ hchain _ _).trans hnodes, hmounts⟩
  | removeNode => exact ⟨hoverlay, (herase w.nodes).trans hnodes, hmounts⟩

-- ---------------------------------------------------------------------------
-- Calls
-- ---------------------------------------------------------------------------

section
variable (h : AgreeOn part w v) (hk : part k = true)
include h hk

theorem AgreeOn.has_mount : w.mounts.has k = v.mounts.has k := by
  simp only [Table.has, Table.get?_of_within h.mounts hk]

theorem AgreeOn.get?_node : w.nodes.get? k = v.nodes.get? k :=
  Table.get?_of_within h.nodes hk

end

theorem AgreeOn.node? (h : AgreeOn part w v) {p : Path} (hp : part p.key = true)
    (hne : p.key.names ≠ []) : w.node? p = v.node? p := by
  rw [w.node?_eq hne, v.node?_eq hne, h.get?_node hp]

theorem children_within (hbelow : ∀ j, j.below k = true → part j = true) (w : World) :
    ({ w with nodes := w.nodes.within part } : World).children k = w.children k := by
  simp only [children, Table.within, Table.dropWhere, List.filterMap_filter]
  refine List.filterMap_congr fun e _ => ?_
  -- An entry outside the part is no child.
  cases hp : part e.1 with
  | true => simp
  | false =>
    by_cases hc : e.1.absolute = k.absolute ∧ e.1.names.dropLast = k.names
    · have hnil : e.1.names = [] := by
        refine Classical.byContradiction fun hne => ?_
        simp [hbelow _ (Key.below_of_child hc.1 hc.2 hne)] at hp
      simp [hnil]
    · simp [hc]

theorem AgreeOn.children (h : AgreeOn part w v) (hbelow : ∀ j, j.below k = true → part j = true) :
    w.children k = v.children k := by
  have hw := children_within hbelow w
  rw [h.nodes] at hw
  exact hw.symm.trans (children_within hbelow v)

theorem AgreeOn.perform (h : AgreeOn part w v) (hc : part c.path.key = true)
    (hne : c.path.key.names ≠ []) (hbelow : ∀ j, j.below c.path.key = true → part j = true)
    (hfile : ∀ j ∈ c.path.key.chain,
      w.nodes.get? j = some .file ↔ v.nodes.get? j = some .file) :
    (perform c w).1 = (perform c v).1 ∧ ∃ e : Edit,
      (perform c w).2 = e.apply c.path.key w ∧ (perform c v).2 = e.apply c.path.key v := by
  have hnode := h.node? hc hne
  have hmount := h.has_mount hc
  have hkids := h.children hbelow
  cases c with
  | mount source p fsType options => exact ⟨rfl, .mount _, rfl, rfl⟩
  | unmount p | forceUnmount p ms =>
    simp only [Call.path] at hmount
    simp only [World.perform, unmounted, hmount]
    split
    · exact ⟨rfl, .unmount, rfl, rfl⟩
    · exact ⟨rfl, .nothing, rfl, rfl⟩
  | isMountPoint p =>
    simp only [Call.path] at hnode hmount
    exact ⟨by simp only [World.perform, hnode, hmount], .nothing, rfl, rfl⟩
  | createDirAll p mode =>
    have hfind : p.key.chain.find? (fun j => w.nodes.get? j == some .file) =
        p.key.chain.find? (fun j => v.nodes.get? j == some .file) := by
      refine List.find?_congr fun j hj => ?_
      rw [Bool.eq_iff_iff, beq_iff_eq, beq_iff_eq]
      exact hfile j hj
    simp only [World.perform, createdDirs, hfind]
    split
    · exact ⟨rfl, .nothing, rfl, rfl⟩
    · exact ⟨rfl, .makeDirs, rfl, rfl⟩
  | readDir p =>
    simp only [Call.path] at hnode hkids
    exact ⟨by simp only [World.perform, hnode, hkids], .nothing, rfl, rfl⟩
  | stat p =>
    simp only [Call.path] at hnode
    exact ⟨by simp only [World.perform, hnode], .nothing, rfl, rfl⟩
  | pathExists p =>
    simp only [Call.path] at hnode
    exact ⟨by simp only [World.perform, hnode], .nothing, rfl, rfl⟩
  | removeDir p =>
    simp only [Call.path] at hnode hmount hkids
    simp only [World.perform, removedDir, hnode, hmount, hkids]
    split
    · exact ⟨rfl, .nothing, rfl, rfl⟩
    · exact ⟨rfl, .nothing, rfl, rfl⟩
    · split
      · exact ⟨rfl, .nothing, rfl, rfl⟩
      · split
        · exact ⟨rfl, .nothing, rfl, rfl⟩
        · exact ⟨rfl, .removeNode, rfl, rfl⟩
  | capacity p =>
    simp only [Call.path] at hnode
    exact ⟨by simp only [World.perform, hnode], .nothing, rfl, rfl⟩

end World

end VolumeAgent.Host
