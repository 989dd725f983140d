import VolumeAgent.Proofs.Text.Encoding

/-!
# Escapes are undone

`unescapeText_undoes`: whichever bytes of a text are written as escapes, as
long as every backslash is among them, reading gives the text back. What is
written is a text again exactly if of each character all bytes were chosen or
none; the bytes read the same where it is not.
-/

namespace VolumeAgent.Text

variable {b : UInt8} {bs : List UInt8} {marks rest : List (UInt8 × Bool)}

-- ---------------------------------------------------------------------------
-- Where forms begin
-- ---------------------------------------------------------------------------

def Continues (b : UInt8) : Prop := 0x80 ≤ b.toNat ∧ b.toNat < 0xc0

/-- How many bytes a form has behind its first. -/
def following (b : UInt8) : Nat :=
  if b.toNat < 0x80 then 0 else if b.toNat < 0xe0 then 1 else if b.toNat < 0xf0 then 2 else 3

def IsForm : List UInt8 → Prop
  | [] => False
  | b :: tail => ¬ Continues b ∧ tail.length = following b ∧ ∀ d ∈ tail, Continues d

theorem isForm_cons (ks : List Nat) (hn : n < 256) (hfirst : n < 0x80 ∨ 0xc0 ≤ n)
    (hlength : ks.length =
      if n < 0x80 then 0 else if n < 0xe0 then 1 else if n < 0xf0 then 2 else 3) :
    IsForm (UInt8.ofNat n :: ks.map fun k => UInt8.ofNat (0x80 + k % 64)) := by
  refine ⟨?_, ?_, ?_⟩
  · rw [Continues, toNat_ofNat_byte hn]
    omega
  · rw [List.length_map, following, toNat_ofNat_byte hn, hlength]
  · rintro d hd
    obtain ⟨k, -, rfl⟩ := List.mem_map.mp hd
    rw [Continues, toNat_ofNat_byte (by omega)]
    omega

theorem isForm_encodeChar (c : Char) : IsForm (encodeChar c) := by
  have hvalid : c.toNat < 0xd800 ∨ 0xdfff < c.toNat ∧ c.toNat < 0x110000 := c.valid
  unfold encodeChar
  simp only
  generalize c.toNat = n at hvalid
  split
  · exact isForm_cons [] (by omega) (by omega) (by grind)
  · split
    · exact isForm_cons [n / 1] (by omega) (by omega) (by grind)
    · split
      · exact isForm_cons [n / 64, n / 1] (by omega) (by omega) (by grind)
      · exact isForm_cons [n / 4096, n / 64, n / 1] (by omega) (by omega) (by grind)

def IsText (bs : List UInt8) : Prop := ∃ cs, encode cs = bs

theorem isText_encodeChar_append (c : Char) (h : IsText bs) : IsText (encodeChar c ++ bs) := by
  obtain ⟨cs, rfl⟩ := h
  exact ⟨c :: cs, rfl⟩

theorem isText_cons (h : IsText (b :: bs)) :
    ∃ tail after, bs = tail ++ after ∧ IsForm (b :: tail) ∧ IsText after := by
  obtain ⟨cs, hcs⟩ := h
  cases cs with
  | nil => simp [encode] at hcs
  | cons c cs =>
    have hform := isForm_encodeChar c
    rw [encode, List.flatMap_cons] at hcs
    cases hc : encodeChar c with
    | nil => rw [hc] at hform; exact hform.elim
    | cons first tail =>
      rw [hc, List.cons_append, List.cons.injEq] at hcs
      obtain ⟨rfl, rfl⟩ := hcs
      exact ⟨tail, _, rfl, hc ▸ hform, cs, rfl⟩

theorem isText_cons_plain (hb : b.toNat < 0x80) : IsText (b :: bs) ↔ IsText bs := by
  constructor
  · intro h
    obtain ⟨tail, after, rfl, ⟨-, hlength, -⟩, hafter⟩ := isText_cons h
    rw [following, if_pos hb, List.length_eq_zero_iff] at hlength
    rwa [hlength]
  · intro h
    have hchar : encodeChar (Char.ofNat b.toNat) = [b] := by
      have hvalid : b.toNat.isValidChar := .inl (by omega)
      have hn : (Char.ofNat b.toNat).toNat = b.toNat := by
        rw [Char.ofNat, dif_pos hvalid]
        rfl
      rw [encodeChar, hn, if_pos hb, UInt8.ofNat_toNat]
    simpa [hchar] using isText_encodeChar_append (Char.ofNat b.toNat) h

theorem octalDigit_lt (n : Nat) : (octalDigit n).toNat < 0x80 := by
  rw [octalDigit, toNat_ofNat_byte (by omega)]
  omega

theorem isText_octalEscape_append : IsText (octalEscape b ++ bs) ↔ IsText bs := by
  simp only [octalEscape, List.cons_append, List.nil_append]
  rw [isText_cons_plain (by decide), isText_cons_plain (octalDigit_lt _),
    isText_cons_plain (octalDigit_lt _), isText_cons_plain (octalDigit_lt _)]

-- ---------------------------------------------------------------------------
-- Choices that write a text
-- ---------------------------------------------------------------------------

theorem escapeMarked_cons (b : UInt8) (marked : Bool) (marks : List (UInt8 × Bool)) :
    escapeMarked ((b, marked) :: marks) =
      (if marked then octalEscape b else [b]) ++ escapeMarked marks := rfl

theorem escapeMarked_append (marks rest : List (UInt8 × Bool)) :
    escapeMarked (marks ++ rest) = escapeMarked marks ++ escapeMarked rest := List.flatMap_append

/-- The bytes of characters, each marked as its character is. -/
def markBytes (choice : List (Char × Bool)) : List (UInt8 × Bool) :=
  choice.flatMap fun (c, marked) => (encodeChar c).map (·, marked)

theorem isText_escapeMarked_map (bs : List UInt8) (h : IsText (escapeMarked rest)) :
    IsText (escapeMarked (bs.map (·, true) ++ rest)) := by
  induction bs with
  | nil => exact h
  | cons b bs ih => exact isText_octalEscape_append.mpr ih

theorem isText_escapeMarked_markBytes (choice : List (Char × Bool)) :
    IsText (escapeMarked (markBytes choice)) := by
  induction choice with
  | nil => exact ⟨[], rfl⟩
  | cons p choice ih =>
    obtain ⟨c, marked⟩ := p
    cases marked with
    | true => exact isText_escapeMarked_map (encodeChar c) ih
    | false =>
      have hplain : escapeMarked ((encodeChar c).map (·, false)) = encodeChar c := by
        simp [escapeMarked, List.flatMap_map]
      rw [markBytes, List.flatMap_cons, escapeMarked_append, hplain]
      exact isText_encodeChar_append c ih

/-- Behind a first byte that is written as it is, an escape would break off
the form. -/
theorem unmarked_of_continues {tail after : List UInt8}
    (h : escapeMarked (marks ++ rest) = tail ++ after) (hlength : tail.length = marks.length)
    (htail : ∀ d ∈ tail, Continues d) :
    (∀ p ∈ marks, p.2 = false) ∧ escapeMarked rest = after := by
  induction marks generalizing tail with
  | nil =>
    obtain rfl := List.length_eq_zero_iff.mp hlength
    exact ⟨List.forall_mem_nil _, h⟩
  | cons p marks ih =>
    obtain ⟨b, marked⟩ := p
    obtain ⟨d, tail, rfl⟩ := List.exists_cons_of_length_eq_add_one hlength
    obtain ⟨hd, htail⟩ := List.forall_mem_cons.mp htail
    rw [List.cons_append, escapeMarked_cons] at h
    cases marked with
    | true =>
      -- The backslash of the escape stands where a byte has to continue.
      obtain rfl : backslash = d := (List.cons.inj h).1
      exact absurd hd.1 (by decide)
    | false =>
      obtain ⟨hmarks, hrest⟩ := ih (List.cons.inj h).2 (by simpa using hlength) htail
      exact ⟨List.forall_mem_cons.mpr ⟨rfl, hmarks⟩, hrest⟩

/-- Behind an escaped first byte, one that is written as it is would continue
nothing. -/
theorem marked_of_continues (hbytes : ∀ d ∈ marks.map Prod.fst, Continues d)
    (h : IsText (escapeMarked (marks ++ rest))) :
    (∀ p ∈ marks, p.2 = true) ∧ IsText (escapeMarked rest) := by
  induction marks with
  | nil => exact ⟨List.forall_mem_nil _, h⟩
  | cons p marks ih =>
    obtain ⟨b, marked⟩ := p
    rw [List.map_cons, List.forall_mem_cons] at hbytes
    rw [List.cons_append, escapeMarked_cons] at h
    cases marked with
    | true =>
      obtain ⟨hmarks, hrest⟩ := ih hbytes.2 (isText_octalEscape_append.mp h)
      exact ⟨List.forall_mem_cons.mpr ⟨rfl, hmarks⟩, hrest⟩
    | false =>
      obtain ⟨-, -, -, ⟨hfirst, -⟩, -⟩ := isText_cons h
      exact absurd hbytes.1 hfirst

theorem exists_mark_of_isText (hform : IsForm (marks.map Prod.fst))
    (h : IsText (escapeMarked (marks ++ rest))) :
    ∃ marked, (∀ p ∈ marks, p.2 = marked) ∧ IsText (escapeMarked rest) := by
  cases marks with
  | nil => exact hform.elim
  | cons p marks =>
    obtain ⟨b, marked⟩ := p
    obtain ⟨-, hlength, hcontinue⟩ := hform
    rw [List.cons_append, escapeMarked_cons] at h
    refine ⟨marked, ?_⟩
    cases marked with
    | true =>
      obtain ⟨hmarks, hrest⟩ := marked_of_continues hcontinue (isText_octalEscape_append.mp h)
      exact ⟨List.forall_mem_cons.mpr ⟨rfl, hmarks⟩, hrest⟩
    | false =>
      obtain ⟨tail, after, htail, ⟨-, hlength', hcontinue'⟩, hafter⟩ := isText_cons h
      have hsame : tail.length = marks.length := by simpa [hlength'] using hlength.symm
      obtain ⟨hmarks, rfl⟩ := unmarked_of_continues htail hsame hcontinue'
      exact ⟨List.forall_mem_cons.mpr ⟨rfl, hmarks⟩, hafter⟩

theorem eq_map_of_marks {marked : Bool} (h : ∀ p ∈ marks, p.2 = marked) :
    marks = (marks.map Prod.fst).map (·, marked) := by
  calc marks = marks.map id := (List.map_id marks).symm
    _ = (marks.map Prod.fst).map (·, marked) := by
      rw [List.map_map]
      exact List.map_congr_left fun p hp => Prod.ext rfl (h p hp)

theorem exists_choice_of_isText {cs : List Char} (hbytes : marks.map Prod.fst = encode cs)
    (h : IsText (escapeMarked marks)) :
    ∃ choice, choice.map Prod.fst = cs ∧ marks = markBytes choice := by
  induction cs generalizing marks with
  | nil => exact ⟨[], rfl, List.map_eq_nil_iff.mp hbytes⟩
  | cons c cs ih =>
    obtain ⟨form, rest, rfl, hform, hrest⟩ := List.map_eq_append_iff.mp hbytes
    obtain ⟨marked, hmarks, htext⟩ := exists_mark_of_isText (hform ▸ isForm_encodeChar c) h
    obtain ⟨choice, hcs, rfl⟩ := ih hrest htext
    refine ⟨(c, marked) :: choice, by rw [List.map_cons, hcs], ?_⟩
    rw [eq_map_of_marks hmarks, hform]
    rfl

-- ---------------------------------------------------------------------------
-- Reading
-- ---------------------------------------------------------------------------

/-- The marks say which bytes of a text are written as escapes. A text with
these bytes reads as the first one; there is one exactly if characters were
chosen whole. The bytes read back in any case, and no escape takes anything
from what is behind it, whatever byte it writes. -/
theorem unescapeText_undoes {s : String} {marks : List (UInt8 × Bool)}
    (hbytes : marks.map Prod.fst = s.toUTF8.data.toList)
    (hslash : ∀ p ∈ marks, p.1 = backslash → p.2 = true) :
    (∀ t : String, t.toUTF8.data.toList = escapeMarked marks →
        unescapeText t.toList = s.toList) ∧
      ((∃ t : String, t.toUTF8.data.toList = escapeMarked marks) ↔
        ∃ choice, choice.map Prod.fst = s.toList ∧ marks = markBytes choice) ∧
      decodeLossy (unescape (escapeMarked marks)) = s.toList ∧
      ∀ b plain rest, backslash ∉ plain →
        unescape (octalEscape b ++ plain ++ rest) = b :: plain ++ unescape rest := by
  rw [← encode_toList] at hbytes
  have hread : decodeLossy (unescape (escapeMarked marks)) = s.toList := by
    rw [unescape_escapeMarked hslash, hbytes, decodeLossy_encode]
  refine ⟨?_, ?_, hread, ?_⟩
  · intro t ht
    rw [unescapeText, encode_toList, ht, hread]
  · constructor
    · rintro ⟨t, ht⟩
      exact exists_choice_of_isText hbytes ⟨t.toList, (encode_toList t).trans ht⟩
    · rintro ⟨choice, -, rfl⟩
      obtain ⟨cs, hcs⟩ := isText_escapeMarked_markBytes choice
      exact ⟨String.ofList cs, by rw [← encode_toList, String.toList_ofList, hcs]⟩
  · intro b plain rest hplain
    rw [List.append_assoc, unescape_octalEscape, unescape_append_plain hplain, List.cons_append]

def lookalike : List (UInt8 × Bool) :=
  markBytes [('\\', true), ('0', false), ('4', false), ('0', false), ('é', true), ('7', false)]

theorem unescapeText_undoes_lookalike :
    lookalike.map Prod.fst = "\\040é7".toUTF8.data.toList ∧
      (∀ p ∈ lookalike, p.1 = backslash → p.2 = true) ∧
      "\\134040\\303\\2517".toUTF8.data.toList = escapeMarked lookalike ∧
      unescapeText "\\134040\\303\\2517".toList = "\\040é7".toList := by
  have hbytes : lookalike.map Prod.fst = "\\040é7".toUTF8.data.toList := by decide +kernel
  have hslash : ∀ p ∈ lookalike, p.1 = backslash → p.2 = true := by decide +kernel
  have htext : "\\134040\\303\\2517".toUTF8.data.toList = escapeMarked lookalike := by
    decide +kernel
  exact ⟨hbytes, hslash, htext, (unescapeText_undoes hbytes hslash).1 _ htext⟩

end VolumeAgent.Text
