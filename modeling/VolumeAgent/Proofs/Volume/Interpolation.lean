import VolumeAgent.Volume.Interpolation

/-!
# How a template is read

`Reads` takes a template apart from left to right, one character at a time:
where a placeholder starts that has a value, the placeholder is one piece,
and else the character is. It asks which placeholders have values and never
what those are. `interpolate_reads`: each template reads in exactly one way,
and interpolation puts the values into what was read.
-/

namespace VolumeAgent.Volume

def Context.has (context : Context) (p : Placeholder) : Bool :=
  (context.get? p.source).isSome

inductive Piece where
  | char (c : Char)
  | value (p : Placeholder)
deriving DecidableEq, Repr

def Piece.expanded (context : Context) : Piece → List Char
  | .char c => [c]
  | .value p => ((context.get? p.source).getD "").toList

/-- How a text reads where the placeholders `has` holds of have values. -/
inductive Reads (has : Placeholder → Bool) : List Char → List Piece → Prop
  | done : Reads has [] []
  | value (rest : List Char) :
      p ∈ placeholders → has p = true → Reads has rest pieces →
      Reads has (p.token.toList ++ rest) (.value p :: pieces)
  | char (cs : List Char) :
      (∀ p ∈ placeholders, has p = true → ¬ p.token.toList <+: c :: cs) → Reads has cs pieces →
      Reads has (c :: cs) (.char c :: pieces)

-- ---------------------------------------------------------------------------
-- Tokens
-- ---------------------------------------------------------------------------

theorem exists_token_eq : ∀ p ∈ placeholders, ∃ name, p.token.toList = '$' :: '\x7b' :: name := by
  have hopens : ∀ p ∈ placeholders, ['$', '\x7b'] <+: p.token.toList := by decide
  intro p hp
  obtain ⟨name, hname⟩ := hopens p hp
  exact ⟨name, hname.symm⟩

theorem eq_of_token_of_token :
    ∀ p ∈ placeholders, ∀ q ∈ placeholders, p.token.toList <+: q.token.toList → p = q := by
  decide

theorem eq_of_tokens (hp : p ∈ placeholders) (hq : q ∈ placeholders)
    (hpre : p.token.toList <+: text) (hpre' : q.token.toList <+: text) : p = q := by
  rcases List.prefix_or_prefix_of_prefix hpre hpre' with h | h
  · exact eq_of_token_of_token p hp q hq h
  · exact (eq_of_token_of_token q hq p hp h).symm

-- ---------------------------------------------------------------------------
-- Readings
-- ---------------------------------------------------------------------------

theorem exists_reads (has : Placeholder → Bool) (text : List Char) :
    ∃ pieces, Reads has text pieces := by
  -- By the length of what is left, which a placeholder shortens by its token.
  induction hn : text.length using Nat.strongRecOn generalizing text with
  | ind n ih =>
    cases text with
    | nil => exact ⟨[], .done⟩
    | cons c cs =>
      by_cases hstarts : ∃ p ∈ placeholders, has p = true ∧ p.token.toList <+: c :: cs
      · obtain ⟨p, hp, hset, rest, htext⟩ := hstarts
        obtain ⟨name, hname⟩ := exists_token_eq p hp
        have hshorter : rest.length < n := by
          rw [← hn, ← htext, hname]
          simp only [List.cons_append, List.length_cons, List.length_append]
          omega
        obtain ⟨pieces, hpieces⟩ := ih _ hshorter rest rfl
        exact ⟨.value p :: pieces, htext ▸ .value rest hp hset hpieces⟩
      · have hshorter : cs.length < n := by simp [← hn]
        obtain ⟨pieces, hpieces⟩ := ih _ hshorter cs rfl
        have hno : ∀ p ∈ placeholders, has p = true → ¬ p.token.toList <+: c :: cs :=
          fun p hp hset hpre => hstarts ⟨p, hp, hset, hpre⟩
        exact ⟨.char c :: pieces, .char cs hno hpieces⟩

theorem Reads.unique (h : Reads has text pieces) (h' : Reads has text pieces') :
    pieces' = pieces := by
  induction h generalizing pieces' with
  | done =>
    generalize htext : ([] : List Char) = text at h'
    cases h' with
    | done => rfl
    | value rest hp _ _ =>
      obtain ⟨name, hname⟩ := exists_token_eq _ hp
      simp [hname] at htext
    | char => cases htext
  | @value p pieces rest hp hset _ ih =>
    generalize htext : p.token.toList ++ rest = text at h'
    cases h' with
    | done =>
      obtain ⟨name, hname⟩ := exists_token_eq p hp
      simp [hname] at htext
    | value rest' hq _ hrest' =>
      obtain rfl := eq_of_tokens hp hq ⟨rest, htext⟩ ⟨rest', rfl⟩
      obtain rfl := List.append_cancel_left htext
      rw [ih hrest']
    | char _ hno _ => exact absurd ⟨rest, htext⟩ (hno p hp hset)
  | @char c pieces cs hno _ ih =>
    generalize htext : c :: cs = text at h'
    cases h' with
    | done => cases htext
    | value rest' hq hset' _ => exact absurd ⟨rest', htext.symm⟩ (hno _ hq hset')
    | char _ _ hcs =>
      obtain ⟨rfl, rfl⟩ := List.cons.inj htext
      rw [ih hcs]

-- ---------------------------------------------------------------------------
-- Expansion, piece by piece
-- ---------------------------------------------------------------------------

section
variable {context : Context}

theorem Context.has_eq_true : context.has p = true ↔ ∃ value, context.get? p.source = some value :=
  Option.isSome_iff_exists

theorem Context.placeholderAt_eq_none
    (h : ∀ p ∈ placeholders, context.has p = true → ¬ p.token.toList <+: text) :
    context.placeholderAt text = none := by
  rw [placeholderAt, List.findSome?_eq_none_iff]
  intro p hp
  split
  · rename_i hpre
    have hunset : ¬ context.has p = true :=
      fun hset => h p hp hset (List.isPrefixOf_iff_prefix.mp hpre)
    simpa [has] using hunset
  · rfl

theorem Context.placeholderAt_token (hp : p ∈ placeholders)
    (hvalue : context.get? p.source = some value) (rest : List Char) :
    context.placeholderAt (p.token.toList ++ rest) = some (p.token.length, value.toList) := by
  cases hat : context.placeholderAt (p.token.toList ++ rest) with
  | none =>
    rw [placeholderAt, List.findSome?_eq_none_iff] at hat
    simpa [hvalue] using hat p hp
  | some found =>
    obtain ⟨q, hq, hfound⟩ := List.exists_of_findSome?_eq_some hat
    split at hfound
    · rename_i hpre
      -- Whatever comes first in the table is the placeholder that starts here.
      obtain rfl := eq_of_tokens hp hq ⟨rest, rfl⟩ (List.isPrefixOf_iff_prefix.mp hpre)
      rw [← hfound, hvalue]
      rfl
    · cases hfound

theorem Context.expandFrom_skip (context : Context) (skip : Nat) (text : List Char) :
    context.expandFrom skip text = context.expandFrom 0 (text.drop skip) := by
  induction text generalizing skip with
  | nil => simp [expandFrom]
  | cons c cs ih =>
    cases skip with
    | zero => rfl
    | succ skip => rw [expandFrom, List.drop_succ_cons, ih]

theorem Context.expandFrom_token (hp : p ∈ placeholders)
    (hvalue : context.get? p.source = some value) (rest : List Char) :
    context.expandFrom 0 (p.token.toList ++ rest) =
      value.toList ++ context.expandFrom 0 rest := by
  have hat := placeholderAt_token hp hvalue rest
  obtain ⟨name, hname⟩ := exists_token_eq p hp
  have hlength : p.token.length = name.length + 2 := by
    rw [← String.length_toList, hname]
    rfl
  rw [hname] at hat
  rw [hname, List.cons_append, expandFrom, if_pos (by simp), ← List.cons_append, hat, hlength]
  simp only
  rw [expandFrom_skip]
  simp

theorem Context.expandFrom_char
    (h : ∀ p ∈ placeholders, context.has p = true → ¬ p.token.toList <+: c :: cs) :
    context.expandFrom 0 (c :: cs) = c :: context.expandFrom 0 cs := by
  rw [expandFrom]
  split
  · rename_i hopens
    obtain ⟨rest, hrest⟩ := List.isPrefixOf_iff_prefix.mp hopens
    obtain ⟨rfl, rfl⟩ := List.cons.inj hrest
    rw [placeholderAt_eq_none h]
    simp [expandFrom_skip context 1, expandFrom]
  · rfl

theorem Reads.expandFrom_eq (h : Reads has text pieces)
    (hhas : ∀ p ∈ placeholders, context.has p = has p) :
    context.expandFrom 0 text = pieces.flatMap (Piece.expanded context) := by
  induction h with
  | done => rfl
  | @value p pieces rest hp hset _ ih =>
    obtain ⟨value, hvalue⟩ := Context.has_eq_true.mp ((hhas p hp).trans hset)
    rw [Context.expandFrom_token hp hvalue, ih, List.flatMap_cons, Piece.expanded, hvalue]
    rfl
  | @char c pieces cs hno _ ih =>
    have hno' : ∀ p ∈ placeholders, context.has p = true → ¬ p.token.toList <+: c :: cs :=
      fun p hp hset => hno p hp (hhas p hp ▸ hset)
    rw [Context.expandFrom_char hno', ih]
    rfl

end

/-- A template reads in one way, and every context that has values for the
same placeholders puts its own in their places. -/
theorem interpolate_reads (context : Context) (template : String) :
    ∃ pieces, (∀ read, Reads context.has template.toList read ↔ read = pieces) ∧
      context.interpolate template = String.ofList (pieces.flatMap (Piece.expanded context)) ∧
      ∀ other : Context, (∀ p ∈ placeholders, other.has p = context.has p) →
        other.interpolate template = String.ofList (pieces.flatMap (Piece.expanded other)) := by
  obtain ⟨pieces, hreads⟩ := exists_reads context.has template.toList
  have hexpands : ∀ other : Context, (∀ p ∈ placeholders, other.has p = context.has p) →
      other.interpolate template = String.ofList (pieces.flatMap (Piece.expanded other)) := by
    intro other hhas
    rw [Context.interpolate, hreads.expandFrom_eq hhas]
  refine ⟨pieces, fun read => ⟨hreads.unique, ?_⟩, hexpands context fun _ _ => rfl, hexpands⟩
  rintro rfl
  exact hreads

def claimKey : String := "csi.storage.k8s.io/pvc/name"

def claimNamed (value : String) : Context := .ofList [(claimKey, value)]

theorem get?_claimNamed (value name : String) :
    (claimNamed value).get? name =
      if Text.lowercase name == Text.lowercase claimKey then some value else none := by
  simp only [claimNamed, Context.get?, Context.ofList, List.map_cons, List.map_nil,
    List.reverse_singleton, List.lookup_cons, List.lookup_nil]
  split <;> simp_all

theorem has_claimNamed (value value' : String) :
    (claimNamed value).has p = (claimNamed value').has p := by
  rw [Context.has, Context.has, get?_claimNamed, get?_claimNamed]
  split <;> rfl

theorem interpolate_reads_nested :
    ∃ pieces,
      Reads (claimNamed "c").has
        "$\x7b$\x7bpvc.metadata.name\x7d$\x7bpvc.metadata.name".toList pieces ∧
      String.ofList (pieces.flatMap (Piece.expanded (claimNamed "$\x7bpv.metadata.name\x7d"))) =
        "$\x7b$\x7bpv.metadata.name\x7d$\x7bpvc.metadata.name" := by
  obtain ⟨pieces, hread, -, hother⟩ := interpolate_reads (claimNamed "c")
    "$\x7b$\x7bpvc.metadata.name\x7d$\x7bpvc.metadata.name"
  refine ⟨pieces, (hread pieces).mpr rfl, ?_⟩
  rw [← hother _ fun _ _ => has_claimNamed _ _]
  decide +kernel

end VolumeAgent.Volume
