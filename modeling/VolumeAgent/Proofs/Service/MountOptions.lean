import VolumeAgent.Request

/-!
# What becomes of the flags of a request

The request's own `ro` stands in front and is not said twice; all other
flags are kept as they come, in order and as often as they are given.
`mountOptions_eq_iff`: this is all there is to the options of a request, and
to whether its mount is read-only.
-/

namespace VolumeAgent

theorem mountOptions_true (flags : List String) :
    mountOptions true flags = ("ro" :: flags.filter (· != "ro"), true) := rfl

theorem mountOptions_false (flags : List String) :
    mountOptions false flags = (flags, flags.contains "ro") := rfl

theorem readOnly_mountOptions (readonly : Bool) (flags : List String) :
    (mountOptions readonly flags).2 = true ↔ readonly = true ∨ "ro" ∈ flags := by
  simp [mountOptions]

theorem ro_mem_mountOptions (readonly : Bool) (flags : List String) :
    "ro" ∈ (mountOptions readonly flags).1 ↔ (mountOptions readonly flags).2 = true := by
  cases readonly with
  | true => simp [mountOptions_true]
  | false => simp [mountOptions_false]

theorem count_ro_mountOptions (flags : List String) :
    (mountOptions true flags).1.count "ro" = 1 := by
  have hrest : (flags.filter (· != "ro")).count "ro" = 0 := by simp [List.count_eq_zero]
  rw [mountOptions_true, List.count_cons_self, hrest]

theorem filter_mountOptions (readonly : Bool) (flags : List String) :
    (mountOptions readonly flags).1.filter (· != "ro") = flags.filter (· != "ro") := by
  cases readonly with
  | true => simp [mountOptions_true]
  | false => rfl

theorem eq_cons_filter {word : String} {words : List String} (hhead : words.head? = some word)
    (hcount : words.count word = 1) : words = word :: words.filter (· != word) := by
  obtain ⟨rest, rfl⟩ := List.head?_eq_some_iff.mp hhead
  rw [List.count_cons_self, Nat.add_eq_right, List.count_eq_zero] at hcount
  have hrest : rest.filter (· != word) = rest := by
    rw [List.filter_eq_self]
    exact fun flag hflag => bne_iff_ne.mpr fun h => hcount (h ▸ hflag)
  simp [hrest]

/-- A mount is read-only exactly if the request or a flag says so, and then
its options say it: once and in front if the request does, and else where
the flags do. The other options are the other flags, in their order and
number. No other answer has all of this. -/
theorem mountOptions_eq_iff (readonly : Bool) (flags options : List String) (ro : Bool) :
    mountOptions readonly flags = (options, ro) ↔
      (ro = true ↔ readonly = true ∨ "ro" ∈ flags) ∧
      ("ro" ∈ options ↔ ro = true) ∧
      (readonly = true → options.head? = some "ro" ∧ options.count "ro" = 1) ∧
      (readonly = false → options = flags) ∧
      options.filter (· != "ro") = flags.filter (· != "ro") := by
  constructor
  · intro h
    obtain rfl : (mountOptions readonly flags).1 = options := congrArg Prod.fst h
    obtain rfl : (mountOptions readonly flags).2 = ro := congrArg Prod.snd h
    refine ⟨readOnly_mountOptions readonly flags, ro_mem_mountOptions readonly flags, ?_, ?_,
      filter_mountOptions readonly flags⟩
    · rintro rfl
      exact ⟨rfl, count_ro_mountOptions flags⟩
    · rintro rfl
      rfl
  · rintro ⟨hro, -, hfront, hkept, hothers⟩
    cases readonly with
    | true =>
      obtain ⟨hhead, hcount⟩ := hfront rfl
      rw [mountOptions_true, ← hothers, ← eq_cons_filter hhead hcount, hro.mpr (.inl rfl)]
    | false =>
      have hflags : flags.contains "ro" = ro := by
        rw [Bool.eq_iff_iff, hro]
        simp
      rw [mountOptions_false, hkept rfl, hflags]

end VolumeAgent
