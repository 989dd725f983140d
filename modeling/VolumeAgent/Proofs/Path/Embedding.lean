import VolumeAgent.Proofs.Path.Normal

/-!
# Targets copied below the working directory

`internal_embeds`: below the working directory the internal paths repeat the
order of their targets. What a target is cleaned to comes back behind the
working directory, in whatever way that is written, so internal paths meet
only where targets do, and contain each other only where targets do. A
directory made for a volume lies inside the internal path.
-/

namespace VolumeAgent.Path

def cleaned (p : Path) : Path := ⟨cleanSubpath p.text⟩

theorem names_cleaned (p : Path) : p.cleaned.key.names = cleanSegments p.segments :=
  names_cleanSubpath p.text

theorem absolute_cleaned (p : Path) : p.cleaned.key.absolute = false := by
  simpa [cleaned, key, isAbsolute] using head?_cleanSubpath p.text

theorem cleaned_eq_iff (p q : Path) :
    p.cleaned = q.cleaned ↔ cleanSegments p.segments = cleanSegments q.segments := by
  rw [cleaned, cleaned, mk.injEq]
  exact cleanSubpath_eq_iff

theorem below_cleaned_iff (p q : Path) :
    p.cleaned.key.below q.cleaned.key = true ↔
      cleanSegments q.segments <+: cleanSegments p.segments ∧
        cleanSegments q.segments ≠ cleanSegments p.segments := by
  rw [Key.below_iff, names_cleaned, names_cleaned, absolute_cleaned, absolute_cleaned]
  exact and_iff_right rfl

theorem cleanSegments_trimSlashes (s : String) :
    cleanSegments (segments ⟨Text.trimChar '/' s⟩) = cleanSegments (segments ⟨s⟩) := by
  rw [← cleanSegments_names, names_trimSlashes, cleanSegments_names]

section
variable {work target p : Path}

theorem exists_internal_iff :
    (∃ p, internal work target = .ok p) ↔
      isStrictSubpath (Text.trimChar '/' target.text) = true := by
  constructor
  · rintro ⟨p, h⟩
    exact (internal_ok h).1
  · intro h
    exact ⟨work.join (Text.trimChar '/' target.text), by simp [internal, h]⟩

theorem cleanSegments_target (h : internal work target = .ok p) :
    cleanSegments target.segments ≠ [] ∧ (∀ s ∈ cleanSegments target.segments, Plain s) ∧
      target.cleaned.segments = cleanSegments target.segments := by
  obtain ⟨hne, hplain, -⟩ := cleanSegments_strict (internal_ok h).1
  rw [cleanSegments_trimSlashes] at hne hplain
  exact ⟨hne, hplain, segments_cleanSubpath hne⟩

/-- An internal path leads to the names of its target, from where the working
directory leads. -/
theorem resolved_internal (h : internal work target = .ok p) :
    p.key.resolved = ⟨work.isAbsolute, work.key.resolved.names ++ cleanSegments target.segments⟩ := by
  obtain ⟨hstrict, rfl⟩ := internal_ok h
  obtain ⟨hne, hplain, hbase⟩ := cleanSegments_strict hstrict
  have hhead := head?_of_isStrictSubpath hstrict
  rw [Key.resolved_append (absolute_join work hhead) ?_ hne hplain, cleanSegments_trimSlashes]
  · rfl
  · rw [names_join work hhead, cleanSegments_append_names, hbase]

theorem resolved_target (h : internal work target = .ok p) :
    target.key.resolved = ⟨target.isAbsolute, cleanSegments target.segments⟩ := by
  obtain ⟨hne, hplain, -⟩ := cleanSegments_target h
  rw [@Key.resolved_append _ target.key ⟨target.isAbsolute, []⟩ rfl (cleanSegments_names target)
    hne hplain]
  cases target.isAbsolute <;> rfl

end

/-- Where internal paths lead, and how they compare: as the cleaned targets
do, and, as only their names come back, as the targets themselves do if both
are absolute or both relative. -/
theorem internal_embeds (work target target₁ target₂ : Path) (subDir : String) :
    ((∃ p, internal work target = .ok p) ↔
      isStrictSubpath (Text.trimChar '/' target.text) = true) ∧
    (∀ p, internal work target = .ok p →
      p.key.resolved =
          ⟨work.isAbsolute, work.key.resolved.names ++ target.cleaned.segments⟩ ∧
        target.cleaned.segments ≠ [] ∧ (∀ s ∈ target.cleaned.segments, Plain s) ∧
        p.key.resolved.below work.key.resolved = true) ∧
    (∀ p₁ p₂, internal work target₁ = .ok p₁ → internal work target₂ = .ok p₂ →
      (p₁.key.resolved = p₂.key.resolved ↔ target₁.cleaned = target₂.cleaned) ∧
        (p₁.key.resolved.below p₂.key.resolved = true ↔
          target₁.cleaned.key.below target₂.cleaned.key = true) ∧
        (target₁.isAbsolute = target₂.isAbsolute →
          (p₁.key.resolved = p₂.key.resolved ↔ target₁.key.resolved = target₂.key.resolved) ∧
            (p₁.key.resolved.below p₂.key.resolved = true ↔
              target₁.key.resolved.below target₂.key.resolved = true))) ∧
    (∀ d, internalVolume work target subDir = .ok d →
      ∃ p, internal work target = .ok p ∧ d = p.join (cleanSubpath subDir) ∧
        d.key.resolved.below p.key.resolved = true) := by
  refine ⟨exists_internal_iff, ?_, ?_, ?_⟩
  · intro p h
    obtain ⟨hne, hplain, hsegments⟩ := cleanSegments_target h
    rw [hsegments]
    exact ⟨resolved_internal h, hne, hplain, internal_below h⟩
  · intro p₁ p₂ h₁ h₂
    -- The names of the working directory stand before both.
    have heq : p₁.key.resolved = p₂.key.resolved ↔
        cleanSegments target₁.segments = cleanSegments target₂.segments := by
      simp [resolved_internal h₁, resolved_internal h₂]
    have hbelow : p₁.key.resolved.below p₂.key.resolved = true ↔
        cleanSegments target₂.segments <+: cleanSegments target₁.segments ∧
          cleanSegments target₂.segments ≠ cleanSegments target₁.segments := by
      simp [Key.below_iff, resolved_internal h₁, resolved_internal h₂]
    refine ⟨heq.trans (cleaned_eq_iff _ _).symm, hbelow.trans (below_cleaned_iff _ _).symm, ?_⟩
    intro habs
    rw [heq, hbelow, Key.below_iff, resolved_target h₁, resolved_target h₂, habs]
    simp
  · intro d hd
    obtain ⟨p, hp, -, hjoin⟩ := internalVolume_ok hd
    exact ⟨p, hp, hjoin, internalVolume_below hp hd⟩

theorem internal_embeds_detours :
    internal ⟨"../w//./x/.."⟩ ⟨"//a/./b/../c/"⟩ = .ok ⟨"../w//./x/../a/./b/../c"⟩ ∧
      (key ⟨"../w//./x/../a/./b/../c"⟩).resolved = ⟨false, ["..", "w", "a", "c"]⟩ ∧
      (key ⟨"../w//./x/../a/c/./d"⟩).resolved.below
        (key ⟨"../w//./x/../a/./b/../c"⟩).resolved = true ∧
      (key ⟨"../w//./x/../a/./b/../c/e"⟩).resolved.below
        (key ⟨"../w//./x/../a/./b/../c"⟩).resolved = true := by
  have hi : internal ⟨"../w//./x/.."⟩ ⟨"//a/./b/../c/"⟩ = .ok ⟨"../w//./x/../a/./b/../c"⟩ := rfl
  have hi' : internal ⟨"../w//./x/.."⟩ ⟨"/a/c/./d"⟩ = .ok ⟨"../w//./x/../a/c/./d"⟩ := rfl
  have hd : internalVolume ⟨"../w//./x/.."⟩ ⟨"//a/./b/../c/"⟩ "d/../e" =
      .ok ⟨"../w//./x/../a/./b/../c/e"⟩ := rfl
  obtain ⟨-, hresolved, hcompare, hvolume⟩ := internal_embeds ⟨"../w//./x/.."⟩ ⟨"//a/./b/../c/"⟩
    ⟨"/a/c/./d"⟩ ⟨"//a/./b/../c/"⟩ "d/../e"
  have hcleaned : (cleaned ⟨"//a/./b/../c/"⟩).segments = ["a", "c"] := by decide +kernel
  have hwork : (key ⟨"../w//./x/.."⟩).resolved.names = ["..", "w"] := by decide +kernel
  refine ⟨hi, ?_, ?_, ?_⟩
  · rw [(hresolved _ hi).1, hcleaned, hwork]
    rfl
  · exact (hcompare _ _ hi' hi).2.1.mpr (by decide +kernel)
  · obtain ⟨p, hp, -, hbelow⟩ := hvolume _ hd
    obtain rfl := Except.ok.inj (hi.symm.trans hp)
    exact hbelow

end VolumeAgent.Path
