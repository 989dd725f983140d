import VolumeAgent.Proofs.Routine.Contract
import VolumeAgent.Proofs.Text.Cut
import VolumeAgent.Proofs.Volume.Descriptor
import VolumeAgent.Service

/-!
# Identifiers made of fields

An identifier is written as a name, a filesystem, a server and a
sub-directory with number signs between them, and read without regard to how
many there are. So a number sign in the sub-directory cuts it short.
`resolve_identifier_iff`: the identifier gives back its parts, and resolves
without a report in a context with the same server and sub-directory, exactly
if the sub-directory has no number sign.
-/

namespace VolumeAgent.Volume

-- ---------------------------------------------------------------------------
-- The sub-directory of an identifier
-- ---------------------------------------------------------------------------

/-- What an identifier keeps of a sub-directory: what stands before a number
sign, without slashes at its ends, unless that is nothing. -/
def keptSubDir (subDir : String) : Option String :=
  let kept := Text.trimChar '/' (String.ofList (subDir.toList.takeWhile (· != '#')))
  if kept = "" then none else some kept

theorem hash_mem_trimSlashes {s : String} :
    '#' ∈ (Text.trimChar '/' s).toList ↔ '#' ∈ s.toList := by
  rw [Text.trimChar, String.toList_ofList]
  constructor
  · exact fun h => (Text.trim_isInfix _ _).mem h
  · exact fun h => Text.mem_trim h (by decide)

theorem hash_not_mem_takeWhile (cs : List Char) : '#' ∉ cs.takeWhile (· != '#') := by
  intro h
  simpa using List.mem_takeWhile_imp h

theorem keptSubDir_eq_iff {subDir : String} (hne : Text.trimChar '/' subDir ≠ "") :
    keptSubDir subDir = some (Text.trimChar '/' subDir) ↔ '#' ∉ subDir.toList := by
  unfold keptSubDir
  constructor
  · intro h hhash
    simp only [Option.ite_none_left_eq_some, Option.some.injEq] at h
    rw [← hash_mem_trimSlashes, ← h.2, hash_mem_trimSlashes, String.toList_ofList] at hhash
    exact hash_not_mem_takeWhile _ hhash
  · intro hhash
    have hall : subDir.toList.takeWhile (· != '#') = subDir.toList := by
      rw [List.takeWhile_eq_self_iff]
      exact fun c hc => bne_iff_ne.mpr fun h => hhash (h ▸ hc)
    simp [hall, hne]

-- ---------------------------------------------------------------------------
-- Reading an identifier
-- ---------------------------------------------------------------------------

theorem ofId?_of_not_mem {id : String} (h : '#' ∉ id.toList) : ofId? id = none := by
  simp [ofId?, Text.split, Text.fields_of_not_mem h]

section
variable {name filesystem server subDir : String}

def identifier (name filesystem server subDir : String) : String :=
  name ++ "#" ++ filesystem ++ "#" ++ server ++ "#" ++ subDir

theorem split_identifier (hname : '#' ∉ name.toList) (hfilesystem : '#' ∉ filesystem.toList)
    (hserver : '#' ∉ server.toList) :
    Text.split '#' (identifier name filesystem server subDir) =
      name :: filesystem :: server :: Text.split '#' subDir := by
  simp [identifier, Text.split, Text.fields_append_sep, Text.fields_of_not_mem, hname,
    hfilesystem, hserver]

theorem ofId?_identifier (hname : '#' ∉ name.toList) (hfilesystem : '#' ∉ filesystem.toList)
    (hserver : '#' ∉ server.toList) (subDir : String) :
    ofId? (identifier name filesystem server subDir) =
      some ⟨name, identifier name filesystem server subDir, server, defaultFilesystem,
        keptSubDir subDir⟩ := by
  simp [ofId?, split_identifier hname hfilesystem hserver, Text.head?_split, keptSubDir,
    Option.filter]

theorem disagrees_identifier (hname : '#' ∉ name.toList) (hfilesystem : '#' ∉ filesystem.toList)
    (hserver : '#' ∉ server.toList) (subDir given : String) (raw : Option String) :
    disagrees (identifier name filesystem server subDir) given raw = false ↔
      given = server ∧ raw = keptSubDir subDir := by
  simp only [disagrees, ofId?_identifier hname hfilesystem hserver subDir, Option.any_some,
    Bool.or_eq_false_iff, bne_eq_false_iff_eq]
  rw [eq_comm, @eq_comm _ raw]

/-- An identifier made of its parts is read back up to a number sign in its
sub-directory. It resolves to a volume of its name with all else from the
context, and is reported unless the server and the written sub-directory of
the context are what was read back: in a context that it is made from, exactly
if the sub-directory has a number sign. -/
theorem resolve_identifier_iff (hname : '#' ∉ name.toList) (hfilesystem : '#' ∉ filesystem.toList)
    (hserver : '#' ∉ server.toList) (hsub : Text.trimChar '/' subDir ≠ "") :
    ofId? (identifier name filesystem server subDir) =
        some ⟨name, identifier name filesystem server subDir, server, defaultFilesystem,
          keptSubDir subDir⟩ ∧
      (keptSubDir subDir = some (Text.trimChar '/' subDir) ↔ '#' ∉ subDir.toList) ∧
      ∀ pairs given, (Context.ofList pairs).get? serverKey = some given → given ≠ "" →
        rawSubDir (.ofList pairs) ≠ some "" →
        ∃ v mismatch,
          resolve (identifier name filesystem server subDir) pairs = .ok ⟨v, mismatch⟩ ∧
          Service.resolve (identifier name filesystem server subDir) pairs =
            (do if mismatch then Attempt.note .contextMismatch
                pure v) ∧
          v.name = name ∧ v.server = given ∧
          v.subDir = (rawSubDir (.ofList pairs)).map (cleanSubDir (.ofList pairs)) ∧
          (mismatch = false ↔ given = server ∧ rawSubDir (.ofList pairs) = keptSubDir subDir) ∧
          (given = server → (Context.ofList pairs).get? subDirKey = some subDir →
            (mismatch = false ↔ '#' ∉ subDir.toList)) := by
  have hread := ofId?_identifier hname hfilesystem hserver subDir
  refine ⟨hread, keptSubDir_eq_iff hsub, fun pairs given hgiven hne hraw => ?_⟩
  have hresolve := resolve_eq (identifier name filesystem server subDir) hraw hgiven hne
  have hagrees := disagrees_identifier hname hfilesystem hserver subDir given
    (rawSubDir (.ofList pairs))
  refine ⟨_, _, hresolve, ?_, ?_, rfl, rfl, hagrees, ?_⟩
  · rw [Service.resolve, hresolve, Attempt.ofExcept_ok_bind]
  · rw [described, hread]
    rfl
  · intro hsame hdir
    have hwritten : rawSubDir (.ofList pairs) = some (Text.trimChar '/' subDir) := by
      rw [rawSubDir, hdir, Option.map_some]
    rw [hagrees, hwritten, and_iff_right hsame, eq_comm]
    exact keptSubDir_eq_iff hsub

def claimPath : String := "//$\x7bpvc.metadata.name\x7d/../x y/"

def claimPathContext : List (String × String) :=
  [("Sub-Dir", claimPath), ("csi.storage.k8s.io/pvc/name", "a/b"), ("mgs-ip-address", "10.0.0.1")]

theorem resolve_identifier_iff_claimPath :
    Text.trimChar '/' claimPath ≠ "" ∧
      ∃ v, resolve (identifier "v 1" "" "10.0.0.1" claimPath) claimPathContext = .ok ⟨v, false⟩ ∧
        v.name = "v 1" ∧ v.subDir = some "a/x y" := by
  have hsub : Text.trimChar '/' claimPath ≠ "" := by decide +kernel
  have hgiven : (Context.ofList claimPathContext).get? serverKey = some "10.0.0.1" := by
    decide +kernel
  have hdir : (Context.ofList claimPathContext).get? subDirKey = some claimPath := by
    decide +kernel
  have hraw : rawSubDir (.ofList claimPathContext) ≠ some "" := by decide +kernel
  have hclean : (rawSubDir (.ofList claimPathContext)).map
      (cleanSubDir (.ofList claimPathContext)) = some "a/x y" := by decide +kernel
  obtain ⟨-, -, hresolves⟩ := @resolve_identifier_iff "v 1" "" "10.0.0.1" claimPath (by decide)
    (by decide) (by decide) hsub
  obtain ⟨v, mismatch, hresolve, -, hname, -, hsubDir, -, hmatching⟩ :=
    hresolves claimPathContext "10.0.0.1" hgiven (by decide) hraw
  obtain rfl : mismatch = false := (hmatching rfl hdir).mpr (by decide +kernel)
  exact ⟨hsub, v, hresolve, hname, hsubDir.trans hclean⟩

/-- What follows a number sign in the sub-directory is lost, and the identifier
is reported to disagree with the context that it is made from. -/
theorem resolve_identifier_numberSign :
    ¬ ∀ (name filesystem server subDir : String) (v w : Volume) (mismatch : Bool),
      '#' ∉ name.toList → '#' ∉ filesystem.toList → '#' ∉ server.toList → server ≠ "" →
      Text.trimChar '/' subDir ≠ "" → ofId? (identifier name filesystem server subDir) = some v →
      resolve (identifier name filesystem server subDir)
        [(serverKey, server), (subDirKey, subDir)] = .ok ⟨w, mismatch⟩ →
      v.subDir = some (Text.trimChar '/' subDir) ∨ mismatch = false := by
  intro h
  have hread : ofId? (identifier "v1" "lustrefs" "10.0.0.1" "a#b") =
      some ⟨"v1", "v1#lustrefs#10.0.0.1#a#b", "10.0.0.1", "lustrefs", some "a"⟩ := by
    decide +kernel
  have hresolve : resolve (identifier "v1" "lustrefs" "10.0.0.1" "a#b")
      [(serverKey, "10.0.0.1"), (subDirKey, "a#b")] =
      .ok ⟨⟨"v1", "v1#lustrefs#10.0.0.1#a#b", "10.0.0.1", "lustrefs", some "a#b"⟩, true⟩ := by
    decide +kernel
  have hkept := h _ _ _ _ _ _ _ (by decide) (by decide) (by decide) (by decide)
    (by decide +kernel) hread hresolve
  exact absurd hkept (by decide +kernel)

end

end VolumeAgent.Volume
