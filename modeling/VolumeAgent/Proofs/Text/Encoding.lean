import VolumeAgent.Text.Octal

/-!
# Text comes back from its bytes

`decodeLossy_encode`: the bytes of characters read as those characters.
`encode_toList`: they are the bytes of a string in UTF-8.
`unescape_escapeMarked`: escapes are read back, whichever bytes they were
chosen for, as long as every backslash is among them.
-/

namespace VolumeAgent.Text

-- ---------------------------------------------------------------------------
-- Forms of characters
-- ---------------------------------------------------------------------------

theorem toNat_ofNat_byte (h : n < 256) : (UInt8.ofNat n).toNat = n := by
  simp [UInt8.toNat_ofNat', Nat.mod_eq_of_lt h]

theorem leading_one (h : n < 0x80) : leading n = ([Char.ofNat n], none) := by
  simp [leading, h]

theorem leading_two (h : 2 ≤ k) (h' : k < 32) :
    leading (0xc0 + k) = ([], some ⟨0x80, 0xbf, 0, k⟩) := by
  unfold leading
  grind

/-- Shorter forms of the same value, and values between the two ranges of
characters, are kept out by the bounds of the second byte. -/
theorem leading_three (h : k < 16) :
    leading (0xe0 + k) =
      ([], some ⟨if k = 0 then 0xa0 else 0x80, if k = 13 then 0x9f else 0xbf, 1, k⟩) := by
  unfold leading
  grind

theorem leading_four (h : k < 5) :
    leading (0xf0 + k) =
      ([], some ⟨if k = 0 then 0x90 else 0x80, if k = 4 then 0x8f else 0xbf, 2, k⟩) := by
  unfold leading
  grind

section
variable {bs : List UInt8} {low high more value : Nat}

theorem decodeFrom_leading (hn : n < 256) (h : leading n = (out, next)) :
    decodeFrom none (UInt8.ofNat n :: bs) = out ++ decodeFrom next bs := by
  simp [decodeFrom, toNat_ofNat_byte hn, h]

theorem decodeFrom_more (hm : m < 64) (hlow : low ≤ 0x80 + m) (hhigh : 0x80 + m ≤ high) :
    decodeFrom (some ⟨low, high, more + 1, value⟩) (UInt8.ofNat (0x80 + m) :: bs) =
      decodeFrom (some ⟨0x80, 0xbf, more, value * 64 + m⟩) bs := by
  have hmod : (0x80 + m) % 256 = 0x80 + m := Nat.mod_eq_of_lt (by omega)
  simp [decodeFrom, hmod, hlow, hhigh]

theorem decodeFrom_last (hm : m < 64) (hlow : low ≤ 0x80 + m) (hhigh : 0x80 + m ≤ high) :
    decodeFrom (some ⟨low, high, 0, value⟩) (UInt8.ofNat (0x80 + m) :: bs) =
      Char.ofNat (value * 64 + m) :: decodeFrom none bs := by
  have hmod : (0x80 + m) % 256 = 0x80 + m := Nat.mod_eq_of_lt (by omega)
  simp [decodeFrom, hmod, hlow, hhigh]

theorem decodeFrom_two (h : 0x80 ≤ n) (h' : n < 0x800) :
    decodeFrom none (UInt8.ofNat (0xc0 + n / 64) :: UInt8.ofNat (0x80 + n / 1 % 64) :: bs) =
      Char.ofNat n :: decodeFrom none bs := by
  have hvalue : n / 64 * 64 + n / 1 % 64 = n := by omega
  rw [decodeFrom_leading (by omega) (leading_two (by omega) (by omega)), List.nil_append,
    decodeFrom_last (by omega) (by omega) (by omega), hvalue]

theorem decodeFrom_three (h : 0x800 ≤ n) (h' : n < 0xd800 ∨ 0xdfff < n ∧ n < 0x10000) :
    decodeFrom none (UInt8.ofNat (0xe0 + n / 4096) :: UInt8.ofNat (0x80 + n / 64 % 64) ::
      UInt8.ofNat (0x80 + n / 1 % 64) :: bs) = Char.ofNat n :: decodeFrom none bs := by
  have hvalue : (n / 4096 * 64 + n / 64 % 64) * 64 + n / 1 % 64 = n := by omega
  rw [decodeFrom_leading (by omega) (leading_three (by omega)), List.nil_append,
    decodeFrom_more (by omega) (by split <;> omega) (by split <;> omega),
    decodeFrom_last (by omega) (by omega) (by omega), hvalue]

theorem decodeFrom_four (h : 0x10000 ≤ n) (h' : n < 0x110000) :
    decodeFrom none (UInt8.ofNat (0xf0 + n / 262144) :: UInt8.ofNat (0x80 + n / 4096 % 64) ::
      UInt8.ofNat (0x80 + n / 64 % 64) :: UInt8.ofNat (0x80 + n / 1 % 64) :: bs) =
        Char.ofNat n :: decodeFrom none bs := by
  have hvalue : ((n / 262144 * 64 + n / 4096 % 64) * 64 + n / 64 % 64) * 64 + n / 1 % 64 = n := by
    omega
  rw [decodeFrom_leading (by omega) (leading_four (by omega)), List.nil_append,
    decodeFrom_more (by omega) (by split <;> omega) (by split <;> omega),
    decodeFrom_more (by omega) (by omega) (by omega),
    decodeFrom_last (by omega) (by omega) (by omega), hvalue]

end

theorem decodeFrom_encodeChar (c : Char) (bs : List UInt8) :
    decodeFrom none (encodeChar c ++ bs) = c :: decodeFrom none bs := by
  have hvalid : c.toNat < 0xd800 ∨ 0xdfff < c.toNat ∧ c.toNat < 0x110000 := c.valid
  have hchar : Char.ofNat c.toNat = c := Char.ofNat_toNat c
  unfold encodeChar
  simp only
  generalize c.toNat = n at hvalid hchar
  subst hchar
  split
  · rename_i h
    rw [List.singleton_append, decodeFrom_leading (by omega) (leading_one h),
      List.singleton_append]
  · split
    · exact decodeFrom_two (by omega) (by omega)
    · split
      · exact decodeFrom_three (by omega) (by omega)
      · exact decodeFrom_four (by omega) (by omega)

theorem decodeLossy_encode (cs : List Char) : decodeLossy (encode cs) = cs := by
  unfold decodeLossy encode
  induction cs with
  | nil => rfl
  | cons c cs ih => rw [List.flatMap_cons, decodeFrom_encodeChar, ih]

theorem encodeChar_eq_utf8EncodeChar (c : Char) : encodeChar c = String.utf8EncodeChar c := by
  have hvalid : c.toNat < 0xd800 ∨ 0xdfff < c.toNat ∧ c.toNat < 0x110000 := c.valid
  unfold encodeChar String.utf8EncodeChar
  simp only [← Char.toNat_val] at *
  generalize c.val.toNat = n at *
  grind

theorem encode_toList (s : String) : encode s.toList = s.toUTF8.data.toList := by
  have hbytes : s.toUTF8 = s.toList.utf8Encode := by
    rw [String.toUTF8_eq_toByteArray, ← String.toByteArray_ofList, String.ofList_toList]
  rw [hbytes, List.utf8Encode, List.data_toByteArray, encode]
  congr 1
  exact funext encodeChar_eq_utf8EncodeChar

-- ---------------------------------------------------------------------------
-- Escapes
-- ---------------------------------------------------------------------------

theorem octalValue_octalDigit (n : Nat) : octalValue (octalDigit n) = some (n % 8) := by
  have hdigit : (octalDigit n).toNat = 0x30 + n % 8 := toNat_ofNat_byte (by omega)
  have hrange : 0x30 ≤ 0x30 + n % 8 ∧ 0x30 + n % 8 ≤ 0x37 := by omega
  simp [octalValue, hdigit, hrange]

theorem guard_pos [Decidable p] (h : p) : (guard p : Option Unit) = some () := if_pos h

theorem guard_neg [Decidable p] (h : ¬ p) : (guard p : Option Unit) = none := if_neg h

theorem escapedByte_octalEscape (b : UInt8) :
    escapedByte backslash (octalDigit (b.toNat / 64)) (octalDigit (b.toNat / 8))
      (octalDigit b.toNat) = some b := by
  have hbound := b.toNat_lt
  have hvalue : b.toNat / 64 % 8 * 64 + b.toNat / 8 % 8 * 8 + b.toNat % 8 = b.toNat := by omega
  rw [escapedByte, guard_pos rfl, octalValue_octalDigit, octalValue_octalDigit,
    octalValue_octalDigit]
  show (guard (b.toNat / 64 % 8 * 64 + b.toNat / 8 % 8 * 8 + b.toNat % 8 < 256) >>= fun _ =>
    pure (UInt8.ofNat (b.toNat / 64 % 8 * 64 + b.toNat / 8 % 8 * 8 + b.toNat % 8))) = some b
  rw [hvalue, guard_pos hbound, UInt8.ofNat_toNat]
  rfl

theorem unescape_octalEscape (b : UInt8) (rest : List UInt8) :
    unescape (octalEscape b ++ rest) = b :: unescape rest := by
  simp [octalEscape, unescape, escapedByte_octalEscape]

theorem unescape_cons (h : b ≠ backslash) (rest : List UInt8) :
    unescape (b :: rest) = b :: unescape rest := by
  rcases rest with _ | ⟨x, _ | ⟨y, _ | ⟨z, rest⟩⟩⟩
  · rfl
  · rfl
  · rfl
  · have hplain : escapedByte b x y z = none := by
      rw [escapedByte, guard_neg h]
      rfl
    rw [unescape, hplain]

theorem unescape_append_plain {plain : List UInt8} (h : backslash ∉ plain) (rest : List UInt8) :
    unescape (plain ++ rest) = plain ++ unescape rest := by
  induction plain with
  | nil => rfl
  | cons b plain ih =>
    obtain ⟨hb, hplain⟩ : backslash ≠ b ∧ backslash ∉ plain := by simpa using h
    rw [List.cons_append, unescape_cons hb.symm, ih hplain, List.cons_append]

theorem high_of_mem_encodeChar (h : 0x80 ≤ c.toNat) (hb : b ∈ encodeChar c) : 0x80 ≤ b.toNat := by
  have hvalid : c.toNat < 0xd800 ∨ 0xdfff < c.toNat ∧ c.toNat < 0x110000 := c.valid
  have hbyte : ∀ n, 0x80 ≤ n → n < 256 → 0x80 ≤ (UInt8.ofNat n).toNat :=
    fun n hlow hn => (toNat_ofNat_byte hn).symm ▸ hlow
  unfold encodeChar at hb
  simp only at hb
  generalize c.toNat = n at h hvalid hb
  rw [if_neg (by omega)] at hb
  split at hb
  · simp only [List.mem_cons, List.not_mem_nil, or_false] at hb
    rcases hb with rfl | rfl <;> exact hbyte _ (by omega) (by omega)
  · split at hb
    · simp only [List.mem_cons, List.not_mem_nil, or_false] at hb
      rcases hb with rfl | rfl | rfl <;> exact hbyte _ (by omega) (by omega)
    · simp only [List.mem_cons, List.not_mem_nil, or_false] at hb
      rcases hb with rfl | rfl | rfl | rfl <;> exact hbyte _ (by omega) (by omega)

theorem backslash_mem_encodeChar (h : backslash ∈ encodeChar c) : c = '\\' := by
  by_cases hc : c.toNat < 0x80
  · have hbyte := toNat_ofNat_byte (n := c.toNat) (by omega)
    rw [encodeChar, if_pos hc, List.mem_singleton] at h
    rw [← Char.ofNat_toNat c, ← hbyte, ← h]
    rfl
  · have hhigh := high_of_mem_encodeChar (by omega) h
    exact absurd hhigh (by decide)

theorem unescape_escapeMarked {bs : List (UInt8 × Bool)}
    (h : ∀ p ∈ bs, p.1 = backslash → p.2 = true) :
    unescape (escapeMarked bs) = bs.map Prod.fst := by
  induction bs with
  | nil => rfl
  | cons p bs ih =>
    obtain ⟨⟨b, marked⟩, hbs⟩ := p, List.forall_mem_cons.mp h
    obtain ⟨hb, hbs⟩ := hbs
    have hrest := ih hbs
    simp only [escapeMarked, List.flatMap_cons, List.map_cons] at hrest ⊢
    cases marked with
    | true => rw [if_pos rfl, unescape_octalEscape, hrest]
    | false =>
      have hne : b ≠ backslash := fun he => nomatch hb he
      simp [unescape_cons hne, hrest]

end VolumeAgent.Text
