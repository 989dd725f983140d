import VolumeAgent.Path.Internal

/-!
# The places that paths name

The key of a joined path has the names of both parts, so the internal path
of a target has the names of the working directory and then the target's.
Keys are compared by the names on the way to them.
-/

namespace VolumeAgent.Path

-- ---------------------------------------------------------------------------
-- Keys
-- ---------------------------------------------------------------------------

namespace Key

theorem mem_chain {j k : Key} :
    j ∈ k.chain ↔ j.absolute = k.absolute ∧ j.names <+: k.names ∧ j.names ≠ [] := by
  obtain ⟨absolute, names⟩ := j
  simp only [chain, List.mem_map, List.mem_range, Key.mk.injEq]
  constructor
  · rintro ⟨n, hn, rfl, rfl⟩
    refine ⟨rfl, List.take_prefix _ _, ?_⟩
    have hne : k.names ≠ [] := List.length_pos_iff.mp (by omega)
    simpa using hne
  · rintro ⟨rfl, hpre, hne⟩
    have hlen := hpre.length_le
    have hpos := List.length_pos_iff.mpr hne
    refine ⟨names.length - 1, by omega, rfl, ?_⟩
    rw [Nat.sub_add_cancel hpos]
    exact (List.prefix_iff_eq_take.mp hpre).symm

theorem mem_chain_self {k : Key} (h : k.names ≠ []) : k ∈ k.chain :=
  mem_chain.mpr ⟨rfl, List.prefix_refl _, h⟩

theorem below_iff {j k : Key} :
    j.below k = true ↔ j.absolute = k.absolute ∧ k.names <+: j.names ∧ k.names ≠ j.names := by
  simp [below, and_assoc]

theorem mem_chain_trans {i j k : Key} (hj : j ∈ i.chain) (hi : i ∈ k.chain) : j ∈ k.chain := by
  obtain ⟨habs, hpre, hne⟩ := mem_chain.mp hj
  obtain ⟨habs', hpre', -⟩ := mem_chain.mp hi
  exact mem_chain.mpr ⟨habs.trans habs', hpre.trans hpre', hne⟩

theorem below_of_mem_chain {i j k : Key} (hj : j ∈ i.chain) (h : j.below k = true) :
    i.below k = true := by
  obtain ⟨habs, hpre, -⟩ := mem_chain.mp hj
  obtain ⟨habs', hpre', hne⟩ := below_iff.mp h
  refine below_iff.mpr ⟨habs.symm.trans habs', hpre'.trans hpre, fun he => hne ?_⟩
  exact hpre'.eq_of_length_le (he ▸ hpre.length_le)

theorem below_of_mem_chain_ne {j k : Key} (hj : j ∈ k.chain) (hne : j ≠ k) :
    k.below j = true := by
  obtain ⟨habs, hpre, -⟩ := mem_chain.mp hj
  refine below_iff.mpr ⟨habs.symm, hpre, fun hnames => hne ?_⟩
  cases j
  cases k
  simp_all

theorem below_of_child {j k : Key} (habs : j.absolute = k.absolute)
    (hnames : j.names.dropLast = k.names) (hne : j.names ≠ []) : j.below k = true := by
  refine below_iff.mpr ⟨habs, hnames ▸ List.dropLast_prefix _, fun he => ?_⟩
  have hlen := congrArg List.length (hnames.trans he)
  have hpos := List.length_pos_iff.mpr hne
  rw [List.length_dropLast] at hlen
  omega

theorem not_below_self {k : Key} : ¬ k.below k = true := fun h => (below_iff.mp h).2.2 rfl

theorem not_below_of_mem_chain {j k : Key} (hj : j ∈ k.chain) : ¬ j.below k = true := by
  intro h
  obtain ⟨-, hpre, -⟩ := mem_chain.mp hj
  obtain ⟨-, hpre', hne⟩ := below_iff.mp h
  exact hne (hpre'.eq_of_length_le hpre.length_le)

theorem exists_child_mem_chain {i j : Key} (hj : j ∈ i.chain) (hne : j ≠ i) :
    ∃ m ∈ i.chain, m.absolute = j.absolute ∧ m.names.dropLast = j.names ∧ m.names ≠ [] := by
  obtain ⟨habs, ⟨rest, hrest⟩, -⟩ := mem_chain.mp hj
  cases rest with
  | nil =>
    refine absurd ?_ hne
    obtain ⟨absolute, names⟩ := i
    obtain ⟨absolute', names'⟩ := j
    simp_all
  | cons x xs =>
    -- One name more than `j`, the first of the rest.
    have hpre : j.names ++ [x] <+: i.names := ⟨xs, by simpa using hrest⟩
    exact ⟨⟨i.absolute, j.names ++ [x]⟩, mem_chain.mpr ⟨rfl, hpre, by simp⟩, habs.symm,
      by simp, by simp⟩

theorem mem_chain_or_below {j k l : Key} (habs : k.absolute = l.absolute)
    (hpre : k.names <+: l.names) (hj : j ∈ l.chain) : j ∈ k.chain ∨ j.below k = true := by
  obtain ⟨habs', hpre', hne⟩ := mem_chain.mp hj
  rcases List.prefix_or_prefix_of_prefix hpre' hpre with h | h
  · exact .inl (mem_chain.mpr ⟨habs'.trans habs.symm, h, hne⟩)
  · by_cases he : k.names = j.names
    · exact .inl (mem_chain.mpr ⟨habs'.trans habs.symm, he ▸ List.prefix_refl _, hne⟩)
    · exact .inr (below_iff.mpr ⟨habs'.trans habs.symm, h, he⟩)

/-- Neither of two places is on the way to the other. -/
def Apart (j k : Key) : Prop := ¬ j.names <+: k.names ∧ ¬ k.names <+: j.names

instance (j k : Key) : Decidable (j.Apart k) := by
  unfold Apart
  infer_instance

theorem Apart.ne {j k : Key} (h : j.Apart k) : j ≠ k := fun he => h.1 (he ▸ List.prefix_refl _)

theorem Apart.names_ne_nil {j k : Key} (h : j.Apart k) : j.names ≠ [] :=
  fun hnil => h.1 (hnil ▸ List.nil_prefix)

theorem Apart.not_below_self {j k : Key} (h : j.Apart k) : ¬ j.below k = true :=
  fun hb => h.2 (below_iff.mp hb).2.1

theorem Apart.not_below {i j k : Key} (h : j.Apart k) (hi : i ∈ j.chain) :
    ¬ i.below k = true := by
  intro hb
  obtain ⟨-, hpre, -⟩ := mem_chain.mp hi
  obtain ⟨-, hpre', -⟩ := below_iff.mp hb
  exact h.2 (hpre'.trans hpre)

theorem Apart.symm {j k : Key} (h : j.Apart k) : k.Apart j := ⟨h.2, h.1⟩

theorem Apart.clash {j k l : Key} (h : j.Apart k) (hj : j.names <+: l.names)
    (hk : k.names <+: l.names) : False :=
  (List.prefix_or_prefix_of_prefix hj hk).elim h.1 h.2

theorem Apart.beyond {j k l : Key} (h : j.Apart k) (hk : k.names <+: l.names) : j.Apart l :=
  ⟨fun hj => h.clash hj hk, fun hj => h.2 (hk.trans hj)⟩

theorem Apart.append {j k l : Key} (h : j.Apart k) (hl : l.names = k.names ++ j.names) :
    j.Apart l :=
  h.beyond (hl ▸ List.prefix_append _ _)

theorem Apart.copy {i j k l m : Key} (h : j.Apart k) (hl : l.names = i.names ++ j.names)
    (hm : m.names = i.names ++ k.names) : l.Apart m := by
  unfold Apart
  rwa [hl, hm, List.prefix_append_right_inj, List.prefix_append_right_inj]

end Key

-- ---------------------------------------------------------------------------
-- Names of texts
-- ---------------------------------------------------------------------------

theorem key_absolute (p : Path) : p.key.absolute = p.isAbsolute := rfl

@[simp] theorem names_empty : (key ⟨""⟩).names = [] := by
  simp [key, segments, Text.split, Text.fields, isStill]

theorem names_append_slash (a b : List Char) :
    (key ⟨String.ofList (a ++ '/' :: b)⟩).names =
      (key ⟨String.ofList a⟩).names ++ (key ⟨String.ofList b⟩).names := by
  simp [key, segments, Text.split, Text.fields_append_sep]

theorem names_joined (a b : String) :
    (key ⟨a ++ "/" ++ b⟩).names = (key ⟨a⟩).names ++ (key ⟨b⟩).names := by
  simpa [String.append_assoc] using names_append_slash a.toList b.toList

theorem names_dropSlashes (s : List Char) :
    (key ⟨String.ofList (s.dropWhile (· == '/'))⟩).names = (key ⟨String.ofList s⟩).names := by
  induction s with
  | nil => rfl
  | cons c cs ih =>
    by_cases hc : c = '/'
    · subst hc
      have h := names_append_slash [] cs
      simpa [ih] using h.symm
    · simp [hc]

theorem names_slashes {rest : List Char} (h : ∀ c ∈ rest, c = '/') (a : List Char) :
    (key ⟨String.ofList (a ++ rest)⟩).names = (key ⟨String.ofList a⟩).names := by
  induction rest generalizing a with
  | nil => simp
  | cons c cs ih =>
    obtain rfl := h c (by simp)
    have hcs := ih (fun c hc => h c (by simp [hc])) []
    simp only [List.nil_append, String.ofList_nil, names_empty] at hcs
    rw [names_append_slash, hcs, List.append_nil]

theorem names_trimSlashes (s : String) : (key ⟨Text.trimChar '/' s⟩).names = (key ⟨s⟩).names := by
  obtain ⟨rest, hs, hrest⟩ :=
    Text.exists_append_trimEnd (· == '/') (s.toList.dropWhile (· == '/'))
  have h := names_slashes (fun c (hc : c ∈ rest) => by simpa using hrest c hc)
    (Text.trimEnd (· == '/') (s.toList.dropWhile (· == '/')))
  rw [← hs, names_dropSlashes] at h
  simpa [Text.trimChar, Text.trim] using h.symm

-- ---------------------------------------------------------------------------
-- Joined paths
-- ---------------------------------------------------------------------------

theorem names_join (p : Path) {tail : String} (h : tail.toList.head? ≠ some '/') :
    (p.join tail).key.names = p.key.names ++ (key ⟨tail⟩).names := by
  obtain ⟨text⟩ := p
  unfold join
  simp only [beq_iff_eq, h, if_false, isEmpty, Bool.or_eq_true, String.isEmpty_iff]
  split
  · rename_i hlast
    rcases hlast with rfl | hlast
    · simp
    · obtain ⟨front, hfront⟩ := List.getLast?_eq_some_iff.mp hlast
      have htext : text = String.ofList (front ++ ['/']) := by simp [← hfront]
      have hpre := names_append_slash front []
      have hall := names_append_slash front tail.toList
      simp only [String.ofList_nil, names_empty, List.append_nil] at hpre
      rw [htext, hpre]
      simpa [String.append_assoc] using hall
  · exact names_joined text tail

theorem isAbsolute_join (p : Path) {tail : String} (h : tail.toList.head? ≠ some '/') :
    (p.join tail).isAbsolute = p.isAbsolute := by
  unfold join
  simp only [beq_iff_eq, h, if_false, isEmpty, Bool.or_eq_true, String.isEmpty_iff]
  obtain ⟨text⟩ := p
  by_cases hp : text = ""
  · subst hp
    simpa [isAbsolute] using h
  · obtain ⟨c, cs, hcs⟩ := List.exists_cons_of_ne_nil (by simpa using hp : text.toList ≠ [])
    split <;> simp [isAbsolute, hcs]

theorem ne_empty_of_names {p : Path} (h : p.key.names ≠ []) : p.isEmpty = false := by
  cases he : p.isEmpty with
  | false => rfl
  | true =>
    obtain ⟨text⟩ := p
    obtain rfl : text = "" := by simpa [isEmpty] using he
    simp at h

-- ---------------------------------------------------------------------------
-- Strict sub-paths and internal paths
-- ---------------------------------------------------------------------------

theorem depthFrom_still {ss : List String} (h : ss.filter (!isStill ·) = []) :
    depthFrom depth ss = some depth := by
  induction ss with
  | nil => rfl
  | cons s rest ih =>
    simp only [List.filter_eq_nil_iff, List.mem_cons, forall_eq_or_imp, Bool.not_eq_true'] at h ih
    simp [depthFrom, h.1, ih h.2]

theorem names_ne_nil_of_isStrictSubpath (h : isStrictSubpath s = true) : (key ⟨s⟩).names ≠ [] := by
  intro hnil
  simp only [isStrictSubpath, Bool.and_eq_true] at h
  rw [depthFrom_still (by simpa [key] using hnil)] at h
  simp at h

theorem head?_of_isStrictSubpath (h : isStrictSubpath s = true) : s.toList.head? ≠ some '/' := by
  intro hs
  simp [isStrictSubpath, isAbsolute, hs] at h

theorem internal_ok (h : internal work target = .ok p) :
    isStrictSubpath (Text.trimChar '/' target.text) = true ∧
      p = work.join (Text.trimChar '/' target.text) := by
  unfold internal at h
  simp only at h
  split at h
  · exact ⟨‹_›, by simpa using h.symm⟩
  · cases h

theorem internal_error (h : internal work target = .error f) :
    f = .targetNotInternal (Text.trimChar '/' target.text) := by
  unfold internal at h
  simp only at h
  split at h
  · cases h
  · exact (Except.error.inj h).symm

theorem names_internal (h : internal work target = .ok p) :
    p.key.names = work.key.names ++ target.key.names := by
  obtain ⟨hstrict, rfl⟩ := internal_ok h
  rw [names_join work (head?_of_isStrictSubpath hstrict), names_trimSlashes]

theorem prefix_internal (h : internal work target = .ok p) : work.key.names <+: p.key.names :=
  names_internal h ▸ List.prefix_append _ _

theorem internal_ne (h : internal work target = .ok p) (hapart : target.key.Apart work.key) :
    p.key ≠ target.key :=
  (hapart.append (names_internal h)).ne.symm

theorem not_below_internal (h : internal work target = .ok p) :
    ¬ target.key.below p.key = true := by
  intro hb
  obtain ⟨-, hpre, hne⟩ := Key.below_iff.mp hb
  refine hne (hpre.eq_of_length_le ?_)
  simp [names_internal h]

theorem internal_names_ne_nil (h : internal work target = .ok p) : p.key.names ≠ [] := by
  obtain ⟨hstrict, rfl⟩ := internal_ok h
  rw [names_join work (head?_of_isStrictSubpath hstrict)]
  simp [names_ne_nil_of_isStrictSubpath hstrict]

theorem mem_foldSegment (h : x ∈ foldSegment kept s) : x ∈ kept ∨ x = s ∧ isStill s = false := by
  unfold foldSegment at h
  split at h
  · exact .inl h
  · rename_i hs
    have hs : isStill s = false := by simpa using hs
    split at h
    · rename_i hdots
      obtain rfl : s = ".." := by simpa using hdots
      cases kept with
      | nil => exact .inr ⟨by simpa using h, hs⟩
      | cons last rest =>
        simp only at h
        split at h
        · rcases List.mem_cons.mp h with rfl | h
          · exact .inr ⟨rfl, hs⟩
          · exact .inl h
        · exact .inl (List.mem_cons_of_mem _ h)
    · rcases List.mem_cons.mp h with rfl | h
      · exact .inr ⟨rfl, hs⟩
      · exact .inl h

theorem mem_cleanSegments (h : x ∈ cleanSegments ss) : x ∈ ss ∧ isStill x = false := by
  -- Generalized over the segments kept so far.
  suffices hfold : ∀ kept, x ∈ ss.foldl foldSegment kept →
      x ∈ kept ∨ x ∈ ss ∧ isStill x = false by
    simpa using hfold [] (List.mem_reverse.mp h)
  clear h
  induction ss with
  | nil => exact fun kept h => .inl h
  | cons s rest ih =>
    intro kept h
    rcases ih _ h with h | ⟨h, hx⟩
    · rcases mem_foldSegment h with h | ⟨rfl, hx⟩
      · exact .inl h
      · exact .inr ⟨by simp, hx⟩
    · exact .inr ⟨by simp [h], hx⟩

theorem head?_cleanSubpath (s : String) : (cleanSubpath s).toList.head? ≠ some '/' := by
  unfold cleanSubpath Text.join
  cases hc : cleanSegments (segments ⟨s⟩) with
  | nil => simp [Text.joined]
  | cons x rest =>
    obtain ⟨hmem, hx⟩ := mem_cleanSegments (hc ▸ List.mem_cons_self : x ∈ cleanSegments (segments ⟨s⟩))
    have hslash : '/' ∉ x.toList := by
      obtain ⟨f, hf, rfl⟩ := List.mem_map.mp hmem
      simpa using Text.sep_not_mem_of_mem_fields hf
    cases hx' : x.toList with
    | nil =>
      obtain rfl : x = "" := by simpa using hx'
      simp [isStill] at hx
    | cons c cs =>
      rw [hx'] at hslash
      have hne : c ≠ '/' := by
        rintro rfl
        simp at hslash
      cases rest <;> simp [Text.joined, hx', hne]

theorem internalVolume_ok (h : internalVolume work target subDir = .ok d) :
    ∃ p, internal work target = .ok p ∧ isStrictSubpath subDir = true ∧
      d = p.join (cleanSubpath subDir) := by
  unfold internalVolume at h
  cases hp : internal work target with
  | error e => simp [hp, bind, Except.bind] at h
  | ok p =>
    simp only [hp, bind, Except.bind] at h
    split at h
    · exact ⟨p, rfl, ‹_›, by simpa using h.symm⟩
    · cases h

theorem key_internalVolume (hi : internal work target = .ok p)
    (hd : internalVolume work target subDir = .ok d) :
    p.key.absolute = d.key.absolute ∧ p.key.names <+: d.key.names := by
  obtain ⟨q, hq, -, hjoin⟩ := internalVolume_ok hd
  obtain rfl := Except.ok.inj (hi.symm.trans hq)
  rw [hjoin, key_absolute, key_absolute, isAbsolute_join p (head?_cleanSubpath subDir),
    names_join p (head?_cleanSubpath subDir)]
  exact ⟨rfl, List.prefix_append _ _⟩

theorem internalVolume_error (hi : internal work target = .ok p)
    (h : internalVolume work target subDir = .error f) : f = .subDirNotStrict subDir := by
  simp only [internalVolume, hi, bind, Except.bind] at h
  split at h
  · cases h
  · exact (Except.error.inj h).symm

theorem prefix_internalVolume (hd : internalVolume work target subDir = .ok d) :
    work.key.names <+: d.key.names := by
  obtain ⟨p, hi, -, -⟩ := internalVolume_ok hd
  exact (prefix_internal hi).trans (key_internalVolume hi hd).2

theorem internalVolume_of_internal (h : internal work target = .ok p)
    (hs : isStrictSubpath subDir = true) :
    internalVolume work target subDir = .ok (p.join (cleanSubpath subDir)) := by
  simp [internalVolume, h, hs, bind, Except.bind]

end VolumeAgent.Path
