import VolumeAgent.Proofs.Path.Normal
import VolumeAgent.Proofs.Text.Cut
import VolumeAgent.Proofs.Volume.Descriptor

/-!
# Which filesystem an identifier names

`Addresses` is the form `server:/filesystem` of an identifier, with anything
behind a further slash. `filesystemOfId_cases`: an identifier names what it
addresses, or itself if it is a word, and else gets the default.
`resolve_export_iff`: all that resolves is on a server and has a cleaned
sub-directory, and its filesystem is one segment of a path, which leads down
unless the identifier addresses `.` or `..`.
-/

namespace VolumeAgent.Volume

/-- The identifier is of the form `server:/segment`, where slashes may be
repeated and more may follow behind a further one. The server ends where
`:/` stands first. -/
def Addresses (id segment : String) : Prop :=
  '#' ∉ id.toList ∧ ∃ server slashes rest,
    id.toList = server ++ [':', '/'] ++ (slashes ++ segment.toList ++ rest) ∧
      ¬ [':', '/'] <:+: server ∧ (∀ c ∈ slashes, c = '/') ∧ segment ≠ "" ∧
      '/' ∉ segment.toList ∧ ∀ c ∈ rest.head?, c = '/'

section
variable {id segment : String} {server path : List Char}

theorem mark_infix_concat (server : List Char) :
    [':', '/'] <:+: server ++ [':', '/'].dropLast ↔ [':', '/'] <:+: server := by
  rw [show [':', '/'].dropLast = [':'] from rfl, List.infix_concat_iff, or_iff_right]
  rw [List.suffix_concat_iff]
  rintro (h | ⟨front, h, -⟩)
  · cases h
  · have hlast := congrArg List.getLast? h
    simp at hlast

theorem cutAt_mark_iff {text : List Char} :
    Text.cutAt [':', '/'] text = some (server, path) ↔
      text = server ++ [':', '/'] ++ path ∧ ¬ [':', '/'] <:+: server := by
  rw [Text.cutAt_eq_some_iff (by simp), mark_infix_concat]

theorem filesystemOfId_of_hash (h : '#' ∈ id.toList) : filesystemOfId id = defaultFilesystem := by
  simp [filesystemOfId, h]

theorem filesystemOfId_of_cut (hid : '#' ∉ id.toList)
    (hcut : Text.cutAt [':', '/'] id.toList = some (server, path)) :
    filesystemOfId id = (((Text.fields '/' path).find? (!·.isEmpty)).map String.ofList).getD
      defaultFilesystem := by
  simp [filesystemOfId, hid, hcut]

theorem filesystemOfId_of_no_cut (hid : '#' ∉ id.toList)
    (hcut : Text.cutAt [':', '/'] id.toList = none) :
    (filesystemOfId id = id ∧ id ≠ "" ∧ ∀ c ∈ id.toList, isWordChar c = true) ∨
      filesystemOfId id = defaultFilesystem := by
  by_cases hword : id ≠ "" ∧ ∀ c ∈ id.toList, isWordChar c = true
  · have hall : id.toList.all isWordChar = true := List.all_eq_true.mpr hword.2
    exact .inl ⟨by simp [filesystemOfId, hid, hcut, hword.1, hall], hword⟩
  · exact .inr (by simp [filesystemOfId, hid, hcut, hword])

theorem Addresses.filesystemOfId_eq (h : Addresses id segment) : filesystemOfId id = segment := by
  obtain ⟨hid, server, slashes, rest, htext, hserver, hslashes, hne, hsegment, hrest⟩ := h
  have hne : segment.toList ≠ [] := by simpa using hne
  rw [filesystemOfId_of_cut hid (cutAt_mark_iff.mpr ⟨htext, hserver⟩),
    Text.find?_fields hslashes hne hsegment hrest]
  simp

theorem filesystemOfId_cases (id : String) :
    Addresses id (filesystemOfId id) ∨
      (filesystemOfId id = id ∧ id ≠ "" ∧ ∀ c ∈ id.toList, isWordChar c = true) ∨
      filesystemOfId id = defaultFilesystem := by
  by_cases hid : '#' ∈ id.toList
  · exact .inr (.inr (filesystemOfId_of_hash hid))
  cases hcut : Text.cutAt [':', '/'] id.toList with
  | none => exact .inr (filesystemOfId_of_no_cut hid hcut)
  | some cut =>
    obtain ⟨server, path⟩ := cut
    obtain ⟨htext, hserver⟩ := cutAt_mark_iff.mp hcut
    by_cases hslashes : ∀ c ∈ path, c = '/'
    · refine .inr (.inr ?_)
      rw [filesystemOfId_of_cut hid hcut, Text.find?_fields_eq_none hslashes]
      rfl
    · obtain ⟨slashes, segment, rest, rfl, hslashes, hne, hsegment, hrest⟩ :=
        Text.exists_first_field hslashes
      have haddresses : Addresses id (String.ofList segment) :=
        ⟨hid, server, slashes, rest, by simpa using htext, hserver, hslashes, by simpa using hne,
          by simpa using hsegment, hrest⟩
      rw [haddresses.filesystemOfId_eq]
      exact .inl haddresses

-- ---------------------------------------------------------------------------
-- One segment
-- ---------------------------------------------------------------------------

theorem ne_of_isWordChar (h : isWordChar c = true) : c ≠ '/' ∧ c ≠ '#' ∧ c ≠ '.' := by
  refine ⟨?_, ?_, ?_⟩ <;> rintro rfl <;> revert h <;> decide

theorem filesystemOfId_unbroken (id : String) :
    filesystemOfId id ≠ "" ∧ '/' ∉ (filesystemOfId id).toList ∧
      '#' ∉ (filesystemOfId id).toList := by
  rcases filesystemOfId_cases id with ⟨hid, server, slashes, rest, htext, -, -, hne, hslash, -⟩ |
    ⟨hself, hne, hword⟩ | hdefault
  · refine ⟨hne, hslash, fun hhash => hid ?_⟩
    rw [htext]
    simp [hhash]
  · rw [hself]
    exact ⟨hne, fun h => (ne_of_isWordChar (hword _ h)).1 rfl,
      fun h => (ne_of_isWordChar (hword _ h)).2.1 rfl⟩
  · rw [hdefault]
    decide

theorem filesystem_of_resolve (h : resolve id pairs = .ok ⟨v, mismatch⟩) :
    v.filesystem = filesystemOfId id := by
  obtain ⟨-, _, -, -, hresolution⟩ := resolve_eq_ok_iff.mp h
  obtain ⟨rfl, -⟩ := Resolution.mk.inj hresolution
  rfl

theorem plain_iff_of_ne_empty (hne : s ≠ "") : Path.Plain s ↔ s ≠ "." ∧ s ≠ ".." := by
  simp [Path.Plain, Path.isStill, hne]

theorem plain_filesystemOfId_iff (id : String) :
    Path.Plain (filesystemOfId id) ↔ ¬ Addresses id "." ∧ ¬ Addresses id ".." := by
  have hdot : '.' ∈ (filesystemOfId id).toList → Addresses id (filesystemOfId id) := by
    intro hmem
    rcases filesystemOfId_cases id with haddresses | ⟨hself, -, hword⟩ | hdefault
    · exact haddresses
    · exact absurd rfl (ne_of_isWordChar (hword '.' (hself ▸ hmem))).2.2
    · rw [hdefault] at hmem
      exact absurd hmem (by decide)
  have haddresses : ∀ dots : String, '.' ∈ dots.toList →
      (filesystemOfId id = dots ↔ Addresses id dots) := by
    intro dots hmem
    constructor
    · rintro rfl
      exact hdot hmem
    · exact Addresses.filesystemOfId_eq
  rw [plain_iff_of_ne_empty (filesystemOfId_unbroken id).1, ne_eq, haddresses "." (by decide),
    ne_eq, haddresses ".." (by decide)]

-- ---------------------------------------------------------------------------
-- Exports
-- ---------------------------------------------------------------------------

def address (v : Volume) : String :=
  if v.server.toList.contains '@' then v.server else v.server ++ "@tcp"

theorem source_eq (v : Volume) (h : '/' ∉ v.filesystem.toList) :
    v.source = v.address ++ ":/" ++ v.filesystem := by
  have hslashes : v.filesystem.toList.dropWhile (· == '/') = v.filesystem.toList :=
    List.dropWhile_beq_eq_self_of_head?_ne fun hhead => h (List.mem_of_head? hhead)
  rw [source, hslashes, String.ofList_toList, ← address]

/-- What resolves is on a server, has a cleaned sub-directory if it has one,
and its source is an address and one segment. This segment leads down, and so
names an export, exactly if the identifier does not address a dot or two. -/
theorem resolve_export_iff (h : resolve id pairs = .ok ⟨v, mismatch⟩) :
    v.server ≠ "" ∧
      (∀ subDir ∈ v.subDir, Path.cleanSubpath subDir = subDir) ∧
      v.source = v.address ++ ":/" ++ v.filesystem ∧
      v.filesystem ≠ "" ∧ '/' ∉ v.filesystem.toList ∧ '#' ∉ v.filesystem.toList ∧
      (Path.Plain v.filesystem ↔ ¬ Addresses id "." ∧ ¬ Addresses id "..") := by
  obtain ⟨hserver, hsubDir⟩ := volume_of_resolve h
  have hunbroken := filesystemOfId_unbroken id
  have hplain := plain_filesystemOfId_iff id
  rw [← filesystem_of_resolve h] at hunbroken hplain
  obtain ⟨hne, hslash, hhash⟩ := hunbroken
  refine ⟨hserver, ?_, source_eq v hslash, hne, hslash, hhash, hplain⟩
  intro subDir hsub
  obtain ⟨raw, -, rfl⟩ := Option.map_eq_some_iff.mp (hsubDir.symm.trans hsub)
  exact Path.cleanSubpath_cleanSubpath _

def foldedDir : List (String × String) :=
  [("mgs-ip-address", "10.0.0.1"), ("sub-dir", "/a/../$\x7bpod.metadata.name\x7d//../../b/")]

theorem resolve_export_iff_dottedName :
    resolve "10.0.0.2:///..a:/../." foldedDir =
        .ok ⟨⟨"", "10.0.0.2:///..a:/../.", "10.0.0.1", "..a:", some "../b"⟩, false⟩ ∧
      Path.Plain "..a:" ∧ ¬ Addresses "10.0.0.2:///..a:/../." ".." := by
  have h : resolve "10.0.0.2:///..a:/../." foldedDir =
      .ok ⟨⟨"", "10.0.0.2:///..a:/../.", "10.0.0.1", "..a:", some "../b"⟩, false⟩ := by
    decide +kernel
  have hplain : Path.Plain "..a:" := by
    rw [Path.Plain]
    decide
  obtain ⟨-, -, -, -, -, -, hiff⟩ := resolve_export_iff h
  exact ⟨h, hplain, (hiff.mp hplain).2⟩

/-- The directory above the filesystem's root is taken for a filesystem. -/
theorem resolve_export_above :
    ¬ ∀ id pairs v mismatch, resolve id pairs = .ok ⟨v, mismatch⟩ → Path.Plain v.filesystem := by
  intro h
  have hresolve : resolve "10.0.0.1:/.." [("mgs-ip-address", "10.0.0.1")] =
      .ok ⟨⟨"", "10.0.0.1:/..", "10.0.0.1", "..", none⟩, false⟩ := by decide +kernel
  exact (h _ _ _ _ hresolve).2 rfl

end

end VolumeAgent.Volume
