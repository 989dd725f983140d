import VolumeAgent.Proofs.Mount.Causes
import VolumeAgent.Proofs.Mount.Helper
import VolumeAgent.Proofs.Service.Publish

/-!
# Read-only mounts

A publish decides whether its mount is read-only by looking for a flag `ro`;
the mount helper goes by the last word for it in the options.
`readOnly_agrees_iff`: the two agree, and a sub-directory is left to exist
exactly on a mount that is read-only, unless the last such word in the flags
says otherwise.
-/

namespace VolumeAgent

open Mount.Helper (Access access arguments lastAccess?)

/-- What the flags decide, less those that repeat the request. -/
def flagAccess? (readonly : Bool) (flags : List String) : Option Access :=
  lastAccess? ((if readonly then flags.filter (· != "ro") else flags).flatMap (Text.split ','))

/-- The flags decide, and the request where they say nothing. -/
theorem access_mountOptions (source : String) (target : Path) (fsType : String)
    (readonly : Bool) (flags : List String) :
    access (arguments source target fsType (mountOptions readonly flags).1) =
      (flagAccess? readonly flags).getD (.ofReadonly readonly) := by
  rw [Mount.Helper.access_arguments]
  cases readonly with
  | false => rfl
  | true =>
    have hro : Text.split ',' "ro" = ["ro"] := rfl
    simp [mountOptions, flagAccess?, hro, Mount.Helper.lastAccess?_ro_cons, Access.ofReadonly]

theorem flagAccess?_ne_none (h : "ro" ∈ flags) : flagAccess? false flags ≠ none :=
  Mount.Helper.lastAccess?_ne_none (List.mem_flatMap.mpr ⟨"ro", h, by decide⟩)

theorem access_mountOptions_iff (source : String) (target : Path) (fsType : String)
    (readonly : Bool) (flags : List String) :
    (access (arguments source target fsType (mountOptions readonly flags).1) = .readOnly ↔
        (mountOptions readonly flags).2 = true) ↔
      flagAccess? readonly flags ≠ some (.ofReadonly !(mountOptions readonly flags).2) := by
  rw [access_mountOptions]
  cases readonly with
  | true => rcases flagAccess? true flags with _ | _ | _ <;> simp [mountOptions, Access.ofReadonly]
  | false =>
    by_cases hro : "ro" ∈ flags
    · obtain ⟨flagged, hflagged⟩ := Option.ne_none_iff_exists'.mp (flagAccess?_ne_none hro)
      cases flagged <;> simp [mountOptions, Access.ofReadonly, hro, hflagged]
    · rcases flagAccess? false flags with _ | _ | _ <;>
        simp [mountOptions, Access.ofReadonly, hro]

namespace Service

theorem provision_ne_pure (hs : Path.isStrictSubpath subDir = true) :
    Mount.provision o volume target subDir options ≠ pure () := by
  intro h
  cases hi : Path.internal o.workingDir target with
  | error e =>
    rw [Mount.provision, hi, Attempt.ofExcept_error_bind] at h
    cases h
  | ok internal =>
    obtain ⟨next, hrun⟩ : Attempt.Starts _ _ := Mount.provision_starts hi hs
    rw [h] at hrun
    cases hrun

theorem prepare_eq_pure_iff (hd : volume.subDir = some subDir)
    (hs : Path.isStrictSubpath subDir = true) :
    prepare o request volume = pure () ↔
      (mountOptions request.readonly request.mountFlags).2 = true := by
  cases hr : (mountOptions request.readonly request.mountFlags).2 with
  | true => simp [prepare, prepareSubDir, hd, hs, hr]
  | false => simpa [prepare, prepareSubDir, hd, hs, hr] using provision_ne_pure hs

/-- What the mount helper makes of the options, the flag and the omission of
the sub-directory agree unless the last word of the flags on the matter
contradicts the flag. -/
theorem readOnly_agrees_iff (o : Options) (request : PublishRequest) (source : String)
    (target : Path) (fsType : String) :
    ((access (arguments source target fsType
          (mountOptions request.readonly request.mountFlags).1) = .readOnly ↔
        (mountOptions request.readonly request.mountFlags).2 = true) ↔
      flagAccess? request.readonly request.mountFlags ≠
        some (.ofReadonly !(mountOptions request.readonly request.mountFlags).2)) ∧
    ∀ volume subDir, volume.subDir = some subDir → Path.isStrictSubpath subDir = true →
      ((access (arguments source target fsType
          (mountOptions request.readonly request.mountFlags).1) = .readOnly ↔
        prepare o request volume = pure ()) ↔
      flagAccess? request.readonly request.mountFlags ≠
        some (.ofReadonly !(mountOptions request.readonly request.mountFlags).2)) := by
  have hflag := access_mountOptions_iff source target fsType request.readonly request.mountFlags
  refine ⟨hflag, fun volume subDir hd hs => ?_⟩
  rw [prepare_eq_pure_iff hd hs]
  exact hflag

def tightened : PublishRequest :=
  { PublishRequest.ofSubDir with readonly := true, mountFlags := ["rw", "ro", "noatime,ro"] }

theorem readOnly_agrees_iff_tightened :
    flagAccess? true tightened.mountFlags ≠ some .readWrite ∧
      Path.isStrictSubpath "d" = true ∧
      (access (arguments "10.0.0.1@tcp:/fs1/d" ⟨"/a"⟩ "lustre" ["ro", "rw", "noatime,ro"]) =
          .readOnly ↔
        prepare {} tightened ⟨"", "fs1", "10.0.0.1", "fs1", some "d"⟩ = pure ()) := by
  have hflags : flagAccess? true tightened.mountFlags ≠ some .readWrite := by
    decide +kernel
  have hs : Path.isStrictSubpath "d" = true := by decide +kernel
  have hagrees := readOnly_agrees_iff {} tightened "10.0.0.1@tcp:/fs1/d" ⟨"/a"⟩ "lustre"
  exact ⟨hflags, hs, (hagrees.2 _ _ rfl hs).mpr hflags⟩

/-- A word for writing behind the request's own for reading wins. -/
theorem readOnly_request_writable :
    ¬ ∀ (source : String) (target : Path) (fsType : String) (readonly : Bool) (flags : List String),
      access (arguments source target fsType (mountOptions readonly flags).1) = .readOnly ↔
        (mountOptions readonly flags).2 = true := by
  intro h
  have hwritable : access (arguments "" ⟨"/a"⟩ "" (mountOptions true ["rw"]).1) = .readWrite := by
    decide +kernel
  have hreadOnly := (h "" ⟨"/a"⟩ "" true ["rw"]).mpr rfl
  rw [hwritable] at hreadOnly
  cases hreadOnly

end Service

end VolumeAgent
