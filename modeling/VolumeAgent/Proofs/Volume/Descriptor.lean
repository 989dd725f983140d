import VolumeAgent.Volume.Descriptor

/-!
# What a context gives, and what is resolved from it

Where no two names of a context differ only in case, a name is looked up to
the one value that is given under it (`get?_ofList`). `resolve_cases` reads
off how an identifier and a context resolve, `resolve_eq_ok_iff` to what.
-/

namespace VolumeAgent.Volume

namespace Context

def Unambiguous (pairs : List (String × String)) : Prop :=
  (pairs.map fun pair => Text.lowercase pair.1).Nodup

instance (pairs : List (String × String)) : Decidable (Unambiguous pairs) := by
  unfold Unambiguous
  infer_instance

def Gives (pairs : List (String × String)) (name value : String) : Prop :=
  ∃ key, (key, value) ∈ pairs ∧ Text.lowercase key = Text.lowercase name

theorem unambiguous_iff : Unambiguous pairs ↔ ((ofList pairs).entries.map Prod.fst).Nodup := by
  rw [ofList, List.map_reverse, (List.reverse_perm _).nodup_iff, List.map_map]
  rfl

theorem get?_ofList {name : String} (hu : Unambiguous pairs) :
    (ofList pairs).get? name = some value ↔ Gives pairs name value := by
  have hmem : (Text.lowercase name, value) ∈ (ofList pairs).entries ↔ Gives pairs name value := by
    simp [ofList, Gives]
  rw [← hmem, get?, List.lookup_eq_some_iff]
  constructor
  · rintro ⟨before, after, hentries, -⟩
    simp [hentries]
  · intro h
    obtain ⟨before, after, hentries⟩ := List.append_of_mem h
    refine ⟨before, after, hentries, fun pair hpair => bne_iff_ne.mpr fun heq => ?_⟩
    -- The same name twice would be two names that differ only in case.
    have hkeys := unambiguous_iff.mp hu
    rw [hentries, List.map_append, List.nodup_append] at hkeys
    exact hkeys.2.2 _ (List.mem_map_of_mem hpair) _ (by simp) heq.symm

end Context

section
variable {pairs : List (String × String)}

theorem rawSubDir_ofList (hu : Context.Unambiguous pairs) :
    rawSubDir (.ofList pairs) = some raw ↔
      ∃ value, Context.Gives pairs subDirKey value ∧ Text.trimChar '/' value = raw := by
  simp [rawSubDir, Context.get?_ofList hu]

/-- The sub-directory that a context asks for: cleaned once its placeholders
have been replaced. -/
def cleanSubDir (context : Context) (raw : String) : String :=
  Path.cleanSubpath (context.interpolate raw)

def described (id server : String) (context : Context) : Volume where
  name := ((ofId? id).map (·.name)).getD ""
  id := id
  server := server
  filesystem := filesystemOfId id
  subDir := (rawSubDir context).map (cleanSubDir context)

/-- The identifier gives another server, or another sub-directory than the
one that is written. -/
def disagrees (id server : String) (raw : Option String) : Bool :=
  (ofId? id).any fun v => v.server != server || v.subDir != raw

theorem resolve_eq (id : String) {server : String}
    (hraw : rawSubDir (.ofList pairs) ≠ some "")
    (hserver : (Context.ofList pairs).get? serverKey = some server) (hne : server ≠ "") :
    resolve id pairs = .ok ⟨described id server (.ofList pairs),
      disagrees id server (rawSubDir (.ofList pairs))⟩ := by
  simp [resolve, hraw, hserver, hne]
  rfl

theorem resolve_cases (id : String) (pairs : List (String × String)) :
    (rawSubDir (.ofList pairs) = some "" ∧ resolve id pairs = .error .subDirEmpty) ∨
      rawSubDir (.ofList pairs) ≠ some "" ∧
        ((∀ server, (Context.ofList pairs).get? serverKey = some server → server = "") ∧
            resolve id pairs = .error .serverMissing ∨
          ∃ server resolution, (Context.ofList pairs).get? serverKey = some server ∧
            server ≠ "" ∧ resolve id pairs = .ok resolution ∧
            resolution.volume.server = server ∧
            resolution.volume.subDir =
              (rawSubDir (.ofList pairs)).map (cleanSubDir (.ofList pairs))) := by
  unfold resolve
  by_cases hraw : rawSubDir (.ofList pairs) = some ""
  · exact .inl ⟨hraw, by simp [hraw]; rfl⟩
  · refine .inr ⟨hraw, ?_⟩
    cases hserver : (Context.ofList pairs).get? serverKey with
    | none => exact .inl ⟨nofun, by simp [hraw, hserver]; rfl⟩
    | some server =>
      by_cases hempty : server = ""
      · exact .inl ⟨by simp [hempty], by simp [hraw, hserver, hempty]; rfl⟩
      · exact .inr ⟨server, _, rfl, hempty, resolve_eq id hraw hserver hempty, rfl, rfl⟩

theorem resolve_eq_ok_iff {id : String} :
    resolve id pairs = .ok resolution ↔
      rawSubDir (.ofList pairs) ≠ some "" ∧
        ∃ server, (Context.ofList pairs).get? serverKey = some server ∧ server ≠ "" ∧
          resolution = ⟨described id server (.ofList pairs),
            disagrees id server (rawSubDir (.ofList pairs))⟩ := by
  constructor
  · intro h
    rcases resolve_cases id pairs with ⟨-, hr⟩ | ⟨hraw, ⟨-, hr⟩ | ⟨server, _, hserver, hne, -⟩⟩
    · cases hr.symm.trans h
    · cases hr.symm.trans h
    · exact ⟨hraw, server, hserver, hne,
        Except.ok.inj (h.symm.trans (resolve_eq id hraw hserver hne))⟩
  · rintro ⟨hraw, server, hserver, hne, rfl⟩
    exact resolve_eq id hraw hserver hne

theorem volume_of_resolve {id : String} (h : resolve id pairs = .ok resolution) :
    resolution.volume.server ≠ "" ∧
      resolution.volume.subDir =
        (rawSubDir (.ofList pairs)).map (cleanSubDir (.ofList pairs)) := by
  obtain ⟨-, server, -, hne, rfl⟩ := resolve_eq_ok_iff.mp h
  exact ⟨hne, rfl⟩

theorem subDir_of_resolve {id : String} (h : resolve id pairs = .ok resolution) :
    resolution.volume.subDir =
      (rawSubDir (.ofList pairs)).map (cleanSubDir (.ofList pairs)) :=
  (volume_of_resolve h).2

end

end VolumeAgent.Volume
