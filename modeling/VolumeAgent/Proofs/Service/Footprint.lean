import VolumeAgent.Proofs.Mount.Evidence
import VolumeAgent.Proofs.Mount.Places
import VolumeAgent.Proofs.Path.Resolution

/-!
# Where requests have effects

`effects_in_place`: in whatever way the host answers, and however the paths
of a request are written, a publish changes nothing but its target and, for
a sub-directory that it creates, the internal path and the directory in it.
Both lead below the working directory. An unpublish changes nothing but its
target, and looks at no more than the target and its directory.
-/

namespace VolumeAgent

open Host (Call)

namespace Mount

theorem permits_onTrace {ok : Call → Prop} (h : ∀ c, c.path = p → ok c) :
    Permits (.onTrace fun _ => ok) p where
  call hc _ := h _ hc
  mount _ := h _ rfl

theorem Provisions.below (h : Provisions o target subDir c) :
    c.path.key.resolved.below o.workingDir.key.resolved = true := by
  cases h with
  | internal hi => exact Path.internal_below hi
  | directory hd =>
    obtain ⟨internal, hi, -, -⟩ := Path.internalVolume_ok hd
    exact Path.Key.below_trans (Path.internalVolume_below hi hd) (Path.internal_below hi)

end Mount

namespace Service

theorem publish_calls (o : Options) (request : PublishRequest) :
    (publish o request).Obeys (.onTrace fun _ c =>
      c.path = request.target ∨ ∃ volume subDir, request.volume? = some volume ∧
        request.provisions? volume = some subDir ∧ Mount.Provisions o request.target subDir c) :=
  publish_obeys (Mount.permits_onTrace fun _ hc => .inl hc) fun volume subDir hv hs =>
    Mount.permitsInternal_of_provisions fun _ _ hc => .inr ⟨volume, subDir, hv, hs, hc⟩

theorem unpublish_calls (o : Options) (request : UnpublishRequest) :
    (unpublish o request).Obeys (.onTrace fun _ c =>
      c.path = request.target ∨
        c.hasEffect = false ∧ request.target.parent? = some c.path) :=
  unpublish_obeys (Mount.permits_onTrace fun _ hc => .inl hc) fun _ _ hp => .inr ⟨rfl, hp⟩

/-- The calls of a publish are on its target, and below the working directory
if it has a sub-directory and is not read-only. An unpublish has effects on
its target only, and looks besides at the directory that the target is in. -/
theorem effects_in_place (respond : Responses) (o : Options) :
    (∀ request, ∀ x ∈ (publish o request).trace respond,
      x.call.path = request.target ∨
        ∃ volume subDir, request.volume? = some volume ∧ volume.subDir = some subDir ∧
          (mountOptions request.readonly request.mountFlags).2 = false ∧
          Mount.Provisions o request.target subDir x.call ∧
          x.call.path.key.resolved.below o.workingDir.key.resolved = true) ∧
      ∀ request, ∀ x ∈ (unpublish o request).trace respond,
        x.call.path = request.target ∨
          x.call.hasEffect = false ∧ request.target.parent? = some x.call.path := by
  refine ⟨fun request x hx => ?_, fun request x hx => ?_⟩
  · rcases (publish_calls o request).mem_trace respond hx with hc | ⟨volume, subDir, hv, hs, hc⟩
    · exact .inl hc
    · obtain ⟨hrw, hsub⟩ := provisions?_eq_some.mp hs
      exact .inr ⟨volume, subDir, hv, hsub, hrw, hc, hc.below⟩
  · exact (unpublish_calls o request).mem_trace respond hx

theorem effects_in_place_staleHost :
    ⟨.createDirAll ⟨"/tmp/a/d"⟩ 0o775, .ok ()⟩ ∈ (publish {} .ofSubDir).trace staleHost ∧
      ∃ volume subDir, PublishRequest.ofSubDir.volume? = some volume ∧
        volume.subDir = some subDir ∧ (mountOptions false []).2 = false ∧
        Mount.Provisions {} ⟨"/a"⟩ subDir (.createDirAll ⟨"/tmp/a/d"⟩ 0o775) ∧
        (Path.key ⟨"/tmp/a/d"⟩).resolved.below (Path.key ⟨"/tmp"⟩).resolved = true := by
  have hx : ⟨.createDirAll ⟨"/tmp/a/d"⟩ 0o775, .ok ()⟩ ∈ (publish {} .ofSubDir).trace staleHost :=
    List.mem_of_getElem? (i := 5) rfl
  refine ⟨hx, ((effects_in_place staleHost {}).1 .ofSubDir _ hx).resolve_left ?_⟩
  decide

end Service

end VolumeAgent
