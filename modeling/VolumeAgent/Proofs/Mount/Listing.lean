import Mathlib.Data.List.Basic
import Mathlib.Data.List.TakeWhile
import VolumeAgent.Mount.Info
import VolumeAgent.Proofs.Text.Encoding

/-!
# Listings of the kernel

The kernel separates fields by spaces and escapes four characters in a path;
the agent separates them at any blank. `mountPoints_listing_iff`: the mount
points of a listing come back in order and as they were written exactly if
none of them has a blank that the kernel does not escape. One that has is
cut short there.
-/

namespace VolumeAgent

-- ---------------------------------------------------------------------------
-- Words and lines
-- ---------------------------------------------------------------------------

namespace Text

section
variable {b c d : Char} {cs ds f : List Char}

theorem words_cons (c : Char) (cs : List Char) :
    words (c :: cs) =
      if isBlank c then words cs
      else
        match cs, words cs with
        | d :: _, w :: ws => if isBlank d then [c] :: w :: ws else (c :: w) :: ws
        | _, ws => [c] :: ws := rfl

theorem words_end (hc : isBlank c = false) (hb : isBlank b = true) (cs : List Char) :
    words (c :: b :: cs) = [c] :: words cs := by
  have hrest : words (b :: cs) = words cs := by rw [words_cons, if_pos hb]
  rw [words_cons, hrest]
  cases words cs <;> simp [hc, hb]

theorem words_letter (hc : isBlank c = false) (hd : isBlank d = false)
    (hw : words (d :: ds) = w :: ws) : words (c :: d :: ds) = (c :: w) :: ws := by
  rw [words_cons, hw]
  simp [hc, hd]

theorem words_append_blank (hne : f ≠ []) (hf : ∀ c ∈ f, isBlank c = false)
    (hb : isBlank b = true) (rest : List Char) : words (f ++ b :: rest) = f :: words rest := by
  induction f with
  | nil => exact absurd rfl hne
  | cons c cs ih =>
    obtain ⟨hc, hcs⟩ := List.forall_mem_cons.mp hf
    cases cs with
    | nil => exact words_end hc hb rest
    | cons d ds => exact words_letter hc (hcs d (by simp)) (ih (by simp) hcs)

theorem head?_words_cons (hc : isBlank c = false) (cs : List Char) :
    (words (c :: cs)).head? = some ((c :: cs).takeWhile fun c => !isBlank c) := by
  induction cs generalizing c with
  | nil => simp [words, hc]
  | cons d ds ih =>
    cases hd : isBlank d with
    | true => simp [words_end hc hd, hc, hd]
    | false =>
      obtain ⟨ws, hw⟩ := List.head?_eq_some_iff.mp (ih hd)
      simp [words_letter hc hd hw, hc]

theorem head?_words (hne : cs ≠ []) (h : ∀ c ∈ cs.head?, isBlank c = false) :
    (words cs).head? = some (cs.takeWhile fun c => !isBlank c) := by
  cases cs with
  | nil => exact absurd rfl hne
  | cons c cs => exact head?_words_cons (h c rfl) cs

theorem words_concat_blank (hb : isBlank b = true) (cs : List Char) :
    words (cs ++ [b]) = words cs := by
  induction cs with
  | nil => rw [List.nil_append, words_cons, if_pos hb]
  | cons c cs ih =>
    rw [List.cons_append, words_cons, words_cons, ih]
    cases cs with
    | nil => simp [words]
    | cons d ds => cases words (d :: ds) <;> rfl

end

theorem joined_cons (sep : Char) (f : List Char) (fs : List (List Char)) :
    ∃ after, joined sep (f :: fs) = f ++ after ∧ ∀ c ∈ after.head?, c = sep := by
  cases fs with
  | nil => exact ⟨[], by simp [joined], by simp⟩
  | cons g gs => exact ⟨_, rfl, by simp⟩

theorem mem_joined {fs : List (List Char)} (h : c ∈ joined sep fs) :
    c = sep ∨ ∃ f ∈ fs, c ∈ f := by
  induction fs with
  | nil => simp [joined] at h
  | cons f fs ih =>
    cases fs with
    | nil => exact .inr ⟨f, by simp, h⟩
    | cons g gs =>
      rcases List.mem_append.mp h with h | h
      · exact .inr ⟨f, by simp, h⟩
      · rcases List.mem_cons.mp h with rfl | h
        · exact .inl rfl
        · rcases ih h with hsep | ⟨f, hf, hc⟩
          · exact .inl hsep
          · exact .inr ⟨f, List.mem_cons_of_mem _ hf, hc⟩

theorem fields_ended {ls : List (List Char)} (h : ∀ l ∈ ls, '\n' ∉ l) :
    fields '\n' (ls.flatMap (· ++ ['\n'])) = ls ++ [[]] := by
  induction ls with
  | nil => rfl
  | cons l ls ih =>
    obtain ⟨hl, hls⟩ := List.forall_mem_cons.mp h
    rw [List.flatMap_cons, List.append_assoc, List.singleton_append, fields_append_sep,
      fields_of_not_mem hl, ih hls]
    rfl

/-- Lines that end in a line feed have their words; a carriage return before
it is dropped, but is a blank anyway. -/
theorem words_lines {ls : List (List Char)} (h : ∀ l ∈ ls, '\n' ∉ l) :
    (lines (ls.flatMap (· ++ ['\n']))).map words = ls.map words := by
  have hdrop : ∀ l : List Char,
      words (if l.getLast? = some '\r' then l.dropLast else l) = words l := by
    intro l
    split
    · rename_i hl
      obtain ⟨before, rfl⟩ := List.getLast?_eq_some_iff.mp hl
      rw [List.dropLast_concat, words_concat_blank (by decide)]
    · rfl
  simp [lines, fields_ended h, hdrop]

end Text

-- ---------------------------------------------------------------------------
-- What the kernel writes
-- ---------------------------------------------------------------------------

namespace Mount

/-- The characters of a path that the kernel writes as a backslash and three
octal digits. All others it writes as they are. -/
def mangled : List Char := [' ', '\t', '\n', '\\']

def escapeChar (c : Char) : List Char :=
  if c ∈ mangled then
    ['\\', .ofNat (0x30 + c.toNat / 64 % 8), .ofNat (0x30 + c.toNat / 8 % 8),
      .ofNat (0x30 + c.toNat % 8)]
  else [c]

def escape (cs : List Char) : List Char := cs.flatMap escapeChar

def Without (kind : Char → Bool) (s : String) : Prop := ∀ c ∈ s.toList, kind c = false

instance : Decidable (Without kind s) := List.decidableBAll _ _

/-- A blank that the kernel does not escape. -/
def isBare (c : Char) : Bool := Text.isBlank c && !mangled.contains c

/-- One mount, as a line of the listing names it: three fields before its root
and its mount point, and any number of fields behind them. -/
structure Record where
  id : String
  parent : String
  device : String
  root : String
  point : String
  rest : List String
  lead_word : ∀ f ∈ [id, parent, device], f ≠ "" ∧ Without Text.isBlank f
  rest_unbroken : ∀ f ∈ rest, Without Text.isBlank f
  root_ne : root ≠ ""
  point_ne : point ≠ ""

def Record.line (r : Record) : List Char :=
  Text.joined ' ' ([r.id.toList, r.parent.toList, r.device.toList, escape r.root.toList,
    escape r.point.toList] ++ r.rest.map String.toList)

def listing (rs : List Record) : String :=
  String.ofList (rs.flatMap fun r => r.line ++ ['\n'])

-- ---------------------------------------------------------------------------
-- What is read back
-- ---------------------------------------------------------------------------

theorem isBlank_of_bare (h : isBare c = true) : Text.isBlank c = true ∧ c ∉ mangled := by
  simpa [isBare] using h

theorem escapeChar_of_bare (h : isBare c = true) : escapeChar c = [c] := by
  rw [escapeChar, if_neg (isBlank_of_bare h).2]

theorem not_isBlank_of_mem_escapeChar (h : isBare c = false) (hd : d ∈ escapeChar c) :
    Text.isBlank d = false := by
  by_cases hc : c ∈ mangled
  · have hall : (mangled.all fun c => (escapeChar c).all fun d => !Text.isBlank d) = true := by
      decide
    simpa using List.all_eq_true.mp (List.all_eq_true.mp hall c hc) d hd
  · rw [escapeChar, if_neg hc, List.mem_singleton] at hd
    subst hd
    simpa [isBare, hc] using h

theorem escapeChar_ne_nil (c : Char) : escapeChar c ≠ [] := by
  unfold escapeChar
  split <;> simp

theorem encode_escapeChar (c : Char) :
    Text.encode (escapeChar c) =
      Text.escapeMarked ((Text.encodeChar c).map (·, decide (c ∈ mangled))) := by
  by_cases hc : c ∈ mangled
  · have hall : (mangled.all fun c => Text.encode (escapeChar c) ==
        Text.escapeMarked ((Text.encodeChar c).map (·, true))) = true := by decide
    simpa [hc] using List.all_eq_true.mp hall c hc
  · rw [escapeChar, if_neg hc]
    simp [Text.encode, Text.escapeMarked, hc, List.flatMap_map]

theorem unescapeText_escape (cs : List Char) : Text.unescapeText (escape cs) = cs := by
  have hmarked : Text.encode (escape cs) = Text.escapeMarked
      (cs.flatMap fun c => (Text.encodeChar c).map (·, decide (c ∈ mangled))) := by
    unfold escape
    induction cs with
    | nil => rfl
    | cons c cs ih =>
      simp only [Text.encode, Text.escapeMarked, List.flatMap_cons, List.flatMap_append] at ih ⊢
      rw [ih]
      congr 1
      exact encode_escapeChar c
  have hslash : ∀ p ∈ cs.flatMap fun c => (Text.encodeChar c).map (·, decide (c ∈ mangled)),
      p.1 = Text.backslash → p.2 = true := by
    intro p hp hb
    obtain ⟨c, -, hp⟩ := List.mem_flatMap.mp hp
    obtain ⟨b, hmem, rfl⟩ := List.mem_map.mp hp
    obtain rfl : b = Text.backslash := hb
    obtain rfl := Text.backslash_mem_encodeChar hmem
    decide
  rw [Text.unescapeText, hmarked, Text.unescape_escapeMarked hslash, List.map_flatMap]
  simp only [List.map_map, Function.comp_def, List.map_id']
  exact Text.decodeLossy_encode cs

theorem escape_ne_nil (h : cs ≠ []) : escape cs ≠ [] := by
  cases cs with
  | nil => exact absurd rfl h
  | cons c cs => simp [escape, escapeChar_ne_nil]

theorem not_isBlank_of_mem_escape (h : ∀ c ∈ cs, isBare c = false) (hd : d ∈ escape cs) :
    Text.isBlank d = false := by
  obtain ⟨c, hc, hd⟩ := List.mem_flatMap.mp hd
  exact not_isBlank_of_mem_escapeChar (h c hc) hd

def visible (cs : List Char) : List Char := cs.takeWhile fun c => !isBare c

theorem takeWhile_escape (cs : List Char) {after : List Char}
    (h : ∀ c ∈ after.head?, Text.isBlank c = true) :
    (escape cs ++ after).takeWhile (fun c => !Text.isBlank c) = escape (visible cs) := by
  unfold escape visible
  induction cs with
  | nil =>
    cases after with
    | nil => rfl
    | cons c after => simp [h c rfl]
  | cons c cs ih =>
    cases hc : isBare c with
    | true => simp [escapeChar_of_bare hc, isBlank_of_bare hc, hc]
    | false =>
      have hplain : ∀ d ∈ escapeChar c, (!Text.isBlank d) = true := by
        intro d hd
        simp [not_isBlank_of_mem_escapeChar hc hd]
      rw [List.flatMap_cons, List.append_assoc, List.takeWhile_append_of_pos hplain, ih]
      simp [hc]

theorem newline_not_mem_escape (cs : List Char) : '\n' ∉ escape cs := by
  intro h
  obtain ⟨c, -, hd⟩ := List.mem_flatMap.mp h
  by_cases hc : c ∈ mangled
  · have hall : (mangled.all fun c => !(escapeChar c).contains '\n') = true := by decide
    exact absurd hd (by simpa using List.all_eq_true.mp hall c hc)
  · rw [escapeChar, if_neg hc, List.mem_singleton] at hd
    subst hd
    exact hc (by decide)

namespace Record

variable {r : Record}

theorem newline_not_mem_line (r : Record) : '\n' ∉ r.line := by
  have hplain : ∀ f : String, (∀ c ∈ f.toList, Text.isBlank c = false) → '\n' ∉ f.toList :=
    fun f hf hn => nomatch hf '\n' hn
  intro h
  rcases Text.mem_joined h with hsep | ⟨f, hf, hc⟩
  · exact absurd hsep (by decide)
  · rcases List.mem_append.mp hf with hf | hf
    · have hlead := r.lead_word
      simp only [List.mem_cons, List.not_mem_nil, or_false, forall_eq_or_imp, forall_eq] at hf hlead
      obtain ⟨⟨-, hid⟩, ⟨-, hparent⟩, -, hdevice⟩ := hlead
      rcases hf with rfl | rfl | rfl | rfl | rfl
      · exact hplain _ hid hc
      · exact hplain _ hparent hc
      · exact hplain _ hdevice hc
      · exact newline_not_mem_escape _ hc
      · exact newline_not_mem_escape _ hc
    · obtain ⟨g, hg, rfl⟩ := List.mem_map.mp hf
      exact hplain g (r.rest_unbroken g hg) hc

theorem words_line (h : Without isBare r.root) :
    Text.words r.line = [r.id.toList, r.parent.toList, r.device.toList, escape r.root.toList] ++
      Text.words (Text.joined ' ' (escape r.point.toList :: r.rest.map String.toList)) := by
  have hlead := r.lead_word
  simp only [List.mem_cons, List.not_mem_nil, or_false, forall_eq_or_imp, forall_eq] at hlead
  obtain ⟨⟨hid, hid'⟩, ⟨hparent, hparent'⟩, hdevice, hdevice'⟩ := hlead
  have hroot : r.root.toList ≠ [] := by simpa using r.root_ne
  have hspace : Text.isBlank ' ' = true := by decide
  simp only [line, List.cons_append, List.nil_append, Text.joined]
  rw [Text.words_append_blank (by simpa using hid) hid' hspace,
    Text.words_append_blank (by simpa using hparent) hparent' hspace,
    Text.words_append_blank (by simpa using hdevice) hdevice' hspace,
    Text.words_append_blank (escape_ne_nil hroot)
      (fun c hc => not_isBlank_of_mem_escape h hc) hspace]

theorem mountPointOfLine_line (h : Without isBare r.root)
    (hpoint : ∀ c ∈ r.point.toList.head?, isBare c = false) :
    mountPointOfLine r.line = some (String.ofList (visible r.point.toList)) := by
  obtain ⟨after, hjoined, hafter⟩ :=
    Text.joined_cons ' ' (escape r.point.toList) (r.rest.map String.toList)
  have hne : r.point.toList ≠ [] := by simpa using r.point_ne
  have hblank : ∀ c ∈ after.head?, Text.isBlank c = true := by
    intro c hc
    rw [hafter c hc]
    decide
  have hhead : ∀ d ∈ (escape r.point.toList ++ after).head?, Text.isBlank d = false := by
    obtain ⟨c, cs, hcs⟩ := List.exists_cons_of_ne_nil hne
    obtain ⟨e, es, hes⟩ := List.exists_cons_of_ne_nil (escapeChar_ne_nil c)
    have hc : isBare c = false := hpoint c (by simp [hcs])
    have he : e ∈ escapeChar c := by simp [hes]
    simp [hcs, escape, hes, not_isBlank_of_mem_escapeChar hc he]
  have hfirst := Text.head?_words (by simp [escape_ne_nil hne]) hhead
  rw [takeWhile_escape _ hblank, ← hjoined, List.head?_eq_getElem?] at hfirst
  rw [mountPointOfLine, words_line h]
  simp only [List.cons_append, List.nil_append, List.getElem?_cons_succ, hfirst, Option.map_some,
    unescapeText_escape]

end Record

theorem mountPoints_listing {rs : List Record} (hroot : ∀ r ∈ rs, Without isBare r.root)
    (hpoint : ∀ r ∈ rs, ∀ c ∈ r.point.toList.head?, isBare c = false) :
    mountPoints (listing rs) = rs.map fun r => String.ofList (visible r.point.toList) := by
  have hlines : ∀ l ∈ rs.map Record.line, '\n' ∉ l := by
    intro l hl
    obtain ⟨r, -, rfl⟩ := List.mem_map.mp hl
    exact r.newline_not_mem_line
  have hwords := Text.words_lines hlines
  rw [List.flatMap_map, List.map_map] at hwords
  calc mountPoints (listing rs)
      = ((Text.lines (rs.flatMap fun r => r.line ++ ['\n'])).map Text.words).filterMap
          fun ws => ws[4]?.map fun f => String.ofList (Text.unescapeText f) := by
        rw [mountPoints, listing, String.toList_ofList, List.filterMap_map]
        rfl
    _ = rs.filterMap fun r => mountPointOfLine r.line := by
        rw [hwords, List.filterMap_map]
        rfl
    _ = rs.map fun r => String.ofList (visible r.point.toList) := by
        rw [← List.filterMap_eq_map]
        exact List.filterMap_congr fun r hr =>
          Record.mountPointOfLine_line (hroot r hr) (hpoint r hr)

theorem visible_eq_self_iff {p : String} :
    String.ofList (visible p.toList) = p ↔ Without isBare p := by
  have hp : String.ofList (visible p.toList) = p ↔ visible p.toList = p.toList := by
    rw [← String.toList_inj, String.toList_ofList]
  rw [hp, visible, List.takeWhile_eq_self_iff]
  simp [Without]

/-- Where no root has a bare blank and no mount point begins with one, a
listing gives back its mount points, in order and unescaped, exactly if no
mount point has a bare blank at all. -/
theorem mountPoints_listing_iff {rs : List Record} (hroot : ∀ r ∈ rs, Without isBare r.root)
    (hpoint : ∀ r ∈ rs, ∀ c ∈ r.point.toList.head?, isBare c = false) :
    mountPoints (listing rs) = rs.map (·.point) ↔ ∀ r ∈ rs, Without isBare r.point := by
  rw [mountPoints_listing hroot hpoint, List.map_inj_left]
  exact forall₂_congr fun r _ => visible_eq_self_iff

def bindRecord (root point : String) (hroot : root ≠ "") (hpoint : point ≠ "") : Record where
  id := "36"
  parent := "22"
  device := "0:32"
  root := root
  point := point
  rest := ["rw,relatime", "shared:20", "-", "lustre", "10.0.0.1@tcp:/fs1", "rw"]
  lead_word := by decide +kernel
  rest_unbroken := by decide +kernel
  root_ne := hroot
  point_ne := hpoint

def escapedRecords : List Record :=
  [bindRecord "/team a\\b" "/mnt/my vol\tx\n" (by decide) (by decide),
    bindRecord "/" "/mnt/\\040é😀" (by decide) (by decide)]

theorem mountPoints_listing_iff_escapedRecords :
    (∀ r ∈ escapedRecords, Without isBare r.root) ∧
      (∀ r ∈ escapedRecords, ∀ c ∈ r.point.toList.head?, isBare c = false) ∧
      mountPoints (listing escapedRecords) = ["/mnt/my vol\tx\n", "/mnt/\\040é😀"] := by
  have hroot : ∀ r ∈ escapedRecords, Without isBare r.root := by decide +kernel
  have hpoint : ∀ r ∈ escapedRecords, ∀ c ∈ r.point.toList.head?, isBare c = false := by
    have hslash : isBare '/' = false := by decide
    simp [escapedRecords, bindRecord, hslash]
  exact ⟨hroot, hpoint, (mountPoints_listing_iff hroot hpoint).mpr (by decide +kernel)⟩

/-- A no-break space ends the field, and the mount point is not found. -/
theorem mountPoints_listing_noBreakSpace :
    ¬ ∀ rs, mountPoints (listing rs) = rs.map (·.point) := by
  intro h
  have hlisted := h [bindRecord "/" "/mnt/a\u00a0b" (by decide) (by decide)]
  have hcut : mountPoints (listing [bindRecord "/" "/mnt/a\u00a0b" (by decide) (by decide)]) =
      ["/mnt/a"] := by decide +kernel
  rw [hcut] at hlisted
  exact absurd hlisted (by decide)

end Mount

end VolumeAgent
