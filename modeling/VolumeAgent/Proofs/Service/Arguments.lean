import VolumeAgent.Proofs.Mount.Helper
import VolumeAgent.Proofs.Service.Sources

/-!
# Requests and the options of the mount helper

A source begins with what the server does, and only a server that is given
resolves. `publish_read_iff`: without a redirect the helper reads each mount
of a publish as it is meant exactly if neither the server of the context nor
the path that is mounted on begins with a hyphen. Sub-directories, flags and
filesystem types have no part in that.
-/

namespace VolumeAgent

open Mount.Helper (Operand Item arguments read)

namespace Volume

theorem exists_source_eq (v : Volume) : ∃ rest, v.source = v.server ++ rest := by
  unfold source
  cases v.server.toList.contains '@' with
  | true => exact ⟨_, String.append_assoc⟩
  | false => exact ⟨_, by simp only [Bool.false_eq_true, if_false, String.append_assoc]; rfl⟩

theorem exists_publishSource_eq (v : Volume) : ∃ rest, v.publishSource = v.server ++ rest := by
  obtain ⟨rest, hsource⟩ := v.exists_source_eq
  unfold publishSource
  cases v.subDir with
  | none => exact ⟨rest, hsource⟩
  | some subDir => exact ⟨rest ++ "/" ++ subDir, by simp [hsource, String.append_assoc]⟩

end Volume

namespace Service

section
variable {o : Options} {request : PublishRequest} {respond : Responses}

theorem publish_mounts (hredirect : o.redirect = none)
    (h : ⟨.mount source p fsType options, answer⟩ ∈ (publish o request).trace respond) :
    ∃ resolution, request.resolution? = some resolution ∧
      (source = resolution.volume.publishSource ∧ p = request.target ∨
        source = resolution.volume.source ∧ Path.internal o.workingDir request.target = .ok p) := by
  obtain ⟨resolution, hr, hp⟩ := publish_of_trace (List.ne_nil_of_mem h)
  obtain ⟨rest, htrace, hserves, -⟩ := trace_deliver_eq o request resolution respond
  have hsame : ∀ source fsType, o.redirected source fsType = (source, fsType) := by
    simp [Options.redirected, hredirect]
  refine ⟨resolution, hr, ?_⟩
  rw [hp, htrace] at h
  rcases List.mem_append.mp h with h | h
  · obtain ⟨internal, hi, hm⟩ := prepare_serves.mem_trace respond h rfl
    injection hm with hsource hinternal
    exact .inr ⟨by rw [hsource, hsame], hinternal ▸ hi⟩
  · rcases hserves _ h with hq | hm
    · exact absurd rfl hq.2
    · injection hm with hsource htarget
      exact .inl ⟨by rw [hsource, hsame], htarget⟩

/-- Whatever the host answers and the request asks for: the arguments of a
mount come back as filesystem type, options, source and target exactly if
the server and the path are no options themselves. -/
theorem publish_read_iff (hredirect : o.redirect = none)
    (h : ⟨.mount source p fsType options, answer⟩ ∈ (publish o request).trace respond) :
    ∃ volume, request.volume? = some volume ∧
      (p = request.target ∨ Path.internal o.workingDir request.target = .ok p) ∧
      (read (arguments source p fsType options) =
          (if fsType.isEmpty then [] else [.fsType fsType]) ++
            (if options.isEmpty then [] else [.options (Text.join ',' options)]) ++ [.noMtab] ++
            [.operand source, .operand p.text] ↔
        Operand volume.server ∧ Operand p.text) := by
  obtain ⟨resolution, hr, hmount⟩ := publish_mounts hredirect h
  obtain ⟨pairs, -, hresolve⟩ := resolution?_eq_some hr
  have hserver := (Volume.volume_of_resolve hresolve).1
  refine ⟨resolution.volume, PublishRequest.volume?_eq hr, ?_⟩
  rw [Mount.Helper.read_arguments_iff]
  rcases hmount with ⟨rfl, rfl⟩ | ⟨rfl, hi⟩
  · obtain ⟨rest, hsource⟩ := resolution.volume.exists_publishSource_eq
    rw [hsource, Mount.Helper.operand_append hserver]
    exact ⟨.inl rfl, Iff.rfl⟩
  · obtain ⟨rest, hsource⟩ := resolution.volume.exists_source_eq
    rw [hsource, Mount.Helper.operand_append hserver]
    exact ⟨.inr hi, Iff.rfl⟩

def hyphenated : PublishRequest :=
  { PublishRequest.ofSubDir with
    volumeId := "-o", mountFlags := ["--no-mtab", "-o", "ro"], fsType := "-t" }

theorem publish_read_iff_hyphenated :
    (publish {} hyphenated).trace obligingHost = approach ++
        [⟨.mount "10.0.0.1@tcp:/-o/d" ⟨"/a"⟩ "-t" ["--no-mtab", "-o", "ro"], .ok ()⟩] ∧
      read (arguments "10.0.0.1@tcp:/-o/d" ⟨"/a"⟩ "-t" ["--no-mtab", "-o", "ro"]) =
        [.fsType "-t", .options "--no-mtab,-o,ro", .noMtab, .operand "10.0.0.1@tcp:/-o/d",
          .operand "/a"] := by
  have htrace : (publish {} hyphenated).trace obligingHost = approach ++
      [⟨.mount "10.0.0.1@tcp:/-o/d" ⟨"/a"⟩ "-t" ["--no-mtab", "-o", "ro"], .ok ()⟩] := rfl
  have h : ⟨.mount "10.0.0.1@tcp:/-o/d" ⟨"/a"⟩ "-t" ["--no-mtab", "-o", "ro"], .ok ()⟩ ∈
      (publish {} hyphenated).trace obligingHost := by simp [htrace]
  obtain ⟨volume, hv, -, hread⟩ := publish_read_iff rfl h
  obtain rfl := Option.some.inj hv
  exact ⟨htrace, hread.mpr (by decide +kernel)⟩

def optionServer : PublishRequest where
  volumeId := "fs1"
  target := ⟨"/a"⟩
  context := some [("mgs-ip-address", "-obind")]

/-- The helper is left with an option of the request's making and one operand. -/
theorem publish_source_read_as_option :
    ¬ ∀ (o : Options) (request : PublishRequest) (respond : Responses) (source : String) (p : Path)
      (fsType : String) (options : List String) (answer : Except Host.MountError Unit),
      o.redirect = none →
      ⟨.mount source p fsType options, answer⟩ ∈ (publish o request).trace respond →
      read (arguments source p fsType options) =
        (if fsType.isEmpty then [] else [.fsType fsType]) ++
          (if options.isEmpty then [] else [.options (Text.join ',' options)]) ++ [.noMtab] ++
          [.operand source, .operand p.text] := by
  intro h
  have htrace : (publish {} optionServer).trace obligingHost =
      approach ++ [⟨.mount "-obind@tcp:/fs1" ⟨"/a"⟩ "lustre" [], .ok ()⟩] := rfl
  have hread := h {} optionServer obligingHost "-obind@tcp:/fs1" ⟨"/a"⟩ "lustre" [] (.ok ()) rfl
    (by simp [htrace])
  revert hread
  decide +kernel

end

end Service

end VolumeAgent
