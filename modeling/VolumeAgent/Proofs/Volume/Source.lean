import VolumeAgent.Proofs.Volume.Filesystem
import VolumeAgent.Proofs.Volume.Identifier

/-!
# Sources read as identifiers

A source is of the form `server:/filesystem` itself, and what is published
only has more behind it. `resolve_source`: where neither number signs nor a
`:/` of the server's own get in the way, the source of a volume resolves, as
an identifier, to the same volume but for its name.
-/

namespace VolumeAgent.Volume

section
variable {v : Volume} {id text tail : String}

theorem mark_not_infix_address (h : ¬ [':', '/'] <:+: v.server.toList) :
    ¬ [':', '/'] <:+: v.address.toList := by
  unfold address
  split
  · exact h
  · -- Neither character of the mark is in the network.
    rw [String.toList_append, List.infix_append_iff_ne_nil]
    rintro (hserver | htcp | ⟨front, back, -, hne, hmark, -, hback⟩)
    · exact h hserver
    · exact absurd (htcp.mem List.mem_cons_self) (by decide)
    · obtain ⟨c, cs, rfl⟩ := List.exists_cons_of_ne_nil hne
      obtain ⟨rfl, -⟩ := List.cons_prefix_cons.mp hback
      have hmem : '@' ∈ front ++ '@' :: cs := by simp
      exact absurd (hmark ▸ hmem) (by decide)

theorem hash_not_mem_source (h : '#' ∉ v.server.toList) (hfilesystem : '#' ∉ v.filesystem.toList)
    (hslash : '/' ∉ v.filesystem.toList) : '#' ∉ v.source.toList := by
  rw [source_eq v hslash, address]
  split <;> simp [h, hfilesystem]

theorem exists_publishSource_tail (v : Volume) :
    ∃ tail : String, v.publishSource = v.source ++ tail ∧ ∀ c ∈ tail.toList.head?, c = '/' := by
  unfold publishSource
  cases v.subDir with
  | none => exact ⟨"", by simp, by simp⟩
  | some subDir => exact ⟨"/" ++ subDir, by simp [String.append_assoc], by simp⟩

theorem addresses_source (hmark : ¬ [':', '/'] <:+: v.server.toList) (hne : v.filesystem ≠ "")
    (hslash : '/' ∉ v.filesystem.toList) (hhash : '#' ∉ (v.source ++ tail).toList)
    (htail : ∀ c ∈ tail.toList.head?, c = '/') : Addresses (v.source ++ tail) v.filesystem := by
  refine ⟨hhash, v.address.toList, [], tail.toList, ?_, mark_not_infix_address hmark, by simp, hne,
    hslash, htail⟩
  rw [source_eq v hslash]
  simp

theorem hash_not_mem_publishSource (h : '#' ∉ v.source.toList)
    (hsub : ∀ subDir ∈ v.subDir, '#' ∉ subDir.toList) : '#' ∉ v.publishSource.toList := by
  unfold publishSource
  cases hsubDir : v.subDir with
  | none => exact h
  | some subDir => simpa [h] using hsub subDir hsubDir

/-- The context gives all but name and filesystem, so an identifier that names
the filesystem, and has no fields that could disagree, is as good as the one
it was resolved from. -/
theorem resolve_again (h : resolve id pairs = .ok ⟨v, mismatch⟩) (htext : '#' ∉ text.toList)
    (hfilesystem : filesystemOfId text = v.filesystem) :
    resolve text pairs = .ok ⟨{ v with name := "", id := text }, false⟩ := by
  obtain ⟨hraw, server, hserver, hne, hresolution⟩ := resolve_eq_ok_iff.mp h
  obtain ⟨rfl, -⟩ := Resolution.mk.inj hresolution
  rw [resolve_eq text hraw hserver hne, described, disagrees, ofId?_of_not_mem htext, hfilesystem]
  rfl

/-- Where the server has neither a number sign nor a `:/` and the sub-directory
no number sign, the source of a volume, with or without the sub-directory,
resolves to the same filesystem and the same sources, and nothing is
reported. -/
theorem resolve_source (h : resolve id pairs = .ok ⟨v, mismatch⟩)
    (hserver : '#' ∉ v.server.toList ∧ ¬ [':', '/'] <:+: v.server.toList)
    (hsub : ∀ subDir ∈ v.subDir, '#' ∉ subDir.toList)
    (htext : text = v.source ∨ text = v.publishSource) :
    ∃ again, resolve text pairs = .ok ⟨again, false⟩ ∧ again.filesystem = v.filesystem ∧
      again.source = v.source ∧ again.publishSource = v.publishSource := by
  have hunbroken := filesystemOfId_unbroken id
  rw [← filesystem_of_resolve h] at hunbroken
  obtain ⟨hne, hslash, hhash⟩ := hunbroken
  have hsource := hash_not_mem_source hserver.1 hhash hslash
  -- Both are the source of the root and no more than a path behind it.
  obtain ⟨tail, rfl, htail, hunsigned⟩ : ∃ tail, text = v.source ++ tail ∧
      (∀ c ∈ tail.toList.head?, c = '/') ∧ '#' ∉ text.toList := by
    rcases htext with rfl | rfl
    · exact ⟨"", by simp, by simp, hsource⟩
    · obtain ⟨tail, hpublish, htail⟩ := exists_publishSource_tail v
      exact ⟨tail, hpublish, htail, hash_not_mem_publishSource hsource hsub⟩
  have haddresses := addresses_source hserver.2 hne hslash hunsigned htail
  exact ⟨_, resolve_again h hunsigned haddresses.filesystemOfId_eq, rfl, rfl, rfl⟩

/-- A server that ends in a colon, a filesystem with a colon, and a
sub-directory that has a `:/` and begins with `..`. -/
def colons : List (String × String) :=
  [("mgs-ip-address", "10.0.0.1@tcp:"), ("sub-dir", "a/../..//d:/x y")]

theorem resolve_source_colons :
    resolve "h://fs:1/" colons =
        .ok ⟨⟨"", "h://fs:1/", "10.0.0.1@tcp:", "fs:1", some "../d:/x y"⟩, false⟩ ∧
      ∃ again, resolve "10.0.0.1@tcp::/fs:1/../d:/x y" colons = .ok ⟨again, false⟩ ∧
        again.filesystem = "fs:1" ∧ again.source = "10.0.0.1@tcp::/fs:1" ∧
        again.publishSource = "10.0.0.1@tcp::/fs:1/../d:/x y" := by
  have h : resolve "h://fs:1/" colons =
      .ok ⟨⟨"", "h://fs:1/", "10.0.0.1@tcp:", "fs:1", some "../d:/x y"⟩, false⟩ := by
    decide +kernel
  exact ⟨h, resolve_source h (by decide +kernel) (by decide +kernel) (.inr (by decide +kernel))⟩

end

end VolumeAgent.Volume
