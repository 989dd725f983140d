import VolumeAgent.Proofs.Mount.Forcing
import VolumeAgent.Proofs.Mount.Order
import VolumeAgent.Proofs.Path.Resolution

/-!
# Internal mounts are scoped

Between the mount at the internal path and its release nothing is done but
the creation of the sub-directory. `provision_scoped`: each such mount that
succeeds is released once, right after the creation and whatever came of it;
no other is. What the release is told has no bearing on the reply, which says
whether the sub-directory was created.
-/

namespace VolumeAgent

open Host (Call)

namespace Mount

def Acquires (o : Options) (target : Path) (x : Exchange) : Prop :=
  ∃ internal source fsType options, Path.internal o.workingDir target = .ok internal ∧
    x = ⟨.mount source internal fsType options, .ok ()⟩

def Creates (o : Options) (target : Path) (subDir : String) (c : Call) : Prop :=
  ∃ directory mode, Path.internalVolume o.workingDir target subDir = .ok directory ∧
    c = .createDirAll directory mode

/-- `past` ends in the creation, and a cleanup of the internal path is all that
is said after it. -/
def Releases (o : Options) (target : Path) (subDir : String) (respond : Responses)
    (past said : List Exchange) : Prop :=
  (∃ first made, past = first ++ [made] ∧ Creates o target subDir made.call) ∧
    ∃ internal, Path.internal o.workingDir target = .ok internal ∧
      said = past ++ (cleanup o internal).trace (respond.after past)

/-- Acquired, used and released, in this order and once. A cleanup begins with
the question whether its target exists. -/
structure Scoped (o : Options) (target : Path) (subDir : String) (respond : Responses)
    (said : List Exchange) : Prop where
  creates : ∀ past x later, said = past ++ x :: later → Creates o target subDir x.call →
    (∃ first m, past = first ++ [m] ∧ Acquires o target m) ∧
      ∀ y ∈ past ++ later, ¬ Creates o target subDir y.call
  releases_iff : (∃ past, Releases o target subDir respond past said) ↔
    ∃ x ∈ said, Acquires o target x
  once : ∀ past past', Releases o target subDir respond past said →
    Releases o target subDir respond past' said → past = past'
  cleans : ∀ past x later, said = past ++ x :: later → x.call.kind = .pathExists →
    (∃ y ∈ past, y.call.kind = .mount) → Releases o target subDir respond past said

section
variable {o : Options} {target internal directory : Path} {subDir : String}
  {respond : Responses} {first quiet rest before after : List Exchange} {m made x y : Exchange}

theorem Quiet.not_acquires (h : Quiet internal x.call) : ¬ Acquires o target x := by
  rintro ⟨q, source, fsType, options, hq, rfl⟩
  exact h.2 rfl

theorem not_creates (hi : Path.internal o.workingDir target = .ok internal)
    (hc : c.path = internal) : ¬ Creates o target subDir c := by
  rintro ⟨directory, mode, hd, rfl⟩
  cases hc
  exact Path.Key.not_below_self (Path.internalVolume_below hi hd)

theorem mount_split (hquiet : ∀ y ∈ quiet, Quiet p y.call)
    (hrest : ∀ y ∈ rest, y.call.kind ≠ .mount) (hy : y.call.kind = .mount)
    (h : quiet ++ m :: rest = before ++ y :: after) : quiet = before ∧ m = y ∧ rest = after :=
  (List.append_cons_inj_of_notMem (fun hmem => (hquiet y hmem).2 hy)
    fun hmem => hrest y hmem hy).mp h

-- ---------------------------------------------------------------------------
-- Nothing acquired
-- ---------------------------------------------------------------------------

theorem Releases.creates (h : Releases o target subDir respond past said) :
    ∃ x ∈ said, Creates o target subDir x.call := by
  obtain ⟨⟨first, made, rfl, hmade⟩, internal, -, rfl⟩ := h
  exact ⟨made, by simp, hmade⟩

def Unused (o : Options) (target : Path) (subDir : String) (said : List Exchange) : Prop :=
  ∀ x ∈ said, ¬ Acquires o target x ∧ ¬ Creates o target subDir x.call

theorem Unused.not_releases (h : Unused o target subDir said) :
    ¬ Releases o target subDir respond past said := by
  intro hreleases
  obtain ⟨x, hx, hcreates⟩ := hreleases.creates
  exact (h x hx).2 hcreates

theorem Scoped.of_unused (h : Unused o target subDir said)
    (hcleans : ∀ past x later, said = past ++ x :: later → x.call.kind = .pathExists →
      ∀ y ∈ past, y.call.kind ≠ .mount) : Scoped o target subDir respond said where
  creates past x later he hx := absurd hx (h x (by simp [he])).2
  releases_iff := iff_of_false (fun ⟨_, hreleases⟩ => h.not_releases hreleases)
    fun ⟨x, hx, hacquires⟩ => (h x hx).1 hacquires
  once _ _ hreleases := absurd hreleases h.not_releases
  cleans := by
    rintro past x later he hx ⟨y, hy, hmount⟩
    exact absurd hmount (hcleans past x later he hx y hy)

theorem Abandons.unused (hi : Path.internal o.workingDir target = .ok internal)
    (h : Abandons internal [] said) : Unused o target subDir said := by
  obtain ⟨quiet, vain, hquiet, hvain, rfl⟩ := h
  refine List.forall_mem_append.mpr ⟨fun x hx => ?_, fun x hx => ?_⟩
  · exact ⟨(hquiet x hx).not_acquires, not_creates hi (hquiet x hx).1⟩
  · cases hvain with
    | untried => cases hx
    | failed hremovals =>
      rcases List.mem_cons.mp hx with rfl | hx
      · exact ⟨fun ⟨_, _, _, _, _, he⟩ => by simp at he, not_creates hi rfl⟩
      · have hcall := hremovals x hx
        refine ⟨?_, not_creates hi (by rw [hcall]; rfl)⟩
        rintro ⟨q, source, fsType, options, -, rfl⟩
        cases hcall

theorem Scoped.of_abandons (hi : Path.internal o.workingDir target = .ok internal)
    (h : Abandons internal [] said) : Scoped o target subDir respond said := by
  refine .of_unused (h.unused hi) fun past x later he hask y hy hmount => ?_
  obtain ⟨quiet, vain, hquiet, hvain, rfl⟩ := h
  obtain ⟨before, between, rfl⟩ := List.append_of_mem hy
  rw [List.nil_append, List.append_assoc, List.cons_append] at he
  cases hvain with
  | untried =>
    rw [List.append_nil] at he
    exact (hquiet y (by simp [he])).2 hmount
  | @failed removals _ _ _ _ hremovals =>
    have hrest : ∀ z ∈ removals, z.call.kind ≠ .mount := fun z hz => by
      rw [hremovals z hz]
      nofun
    obtain ⟨-, -, rfl⟩ := mount_split hquiet hrest hmount he
    have hcall := hremovals x (by simp)
    rw [hcall] at hask
    cases hask

-- ---------------------------------------------------------------------------
-- Acquired
-- ---------------------------------------------------------------------------

theorem cleanup_quiet : ∀ x ∈ (cleanup o p).trace respond, Quiet p x.call := by
  have hquiet : Tends (.onTrace fun _ => Quiet p) p := ⟨fun hc hk => ⟨hc, hk⟩⟩
  exact fun x hx => (cleanup_obeys hquiet).mem_trace respond hx

theorem creates_split (hi : Path.internal o.workingDir target = .ok internal)
    (hother : ∀ y ∈ first ++ rest, y.call.path = internal) (hx : Creates o target subDir x.call)
    (h : first ++ made :: rest = before ++ x :: after) :
    first = before ∧ made = x ∧ rest = after := by
  have hnot : ∀ y ∈ first ++ rest, x ≠ y := by
    rintro y hy rfl
    exact not_creates hi (hother x hy) hx
  exact (List.append_cons_inj_of_notMem (fun hmem => hnot x (List.mem_append_left _ hmem) rfl)
    fun hmem => hnot x (List.mem_append_right _ hmem) rfl).mp h

theorem cleanup_split (hquiet : ∀ y ∈ quiet, Quiet p y.call)
    (hmade : made.call.kind = .createDirAll) (hx : x.call.kind = .pathExists)
    (hmount : ∃ y ∈ before, y.call.kind = .mount)
    (hcleanup : (cleanup o p).trace respond = rest)
    (h : quiet ++ m :: made :: rest = before ++ x :: after) : before = quiet ++ [m, made] := by
  subst hcleanup
  obtain ⟨y, hy, hymount⟩ := hmount
  obtain ⟨earlier, between, rfl⟩ := List.append_of_mem hy
  have hrest : ∀ z ∈ made :: (cleanup o p).trace respond, z.call.kind ≠ .mount :=
    List.forall_mem_cons.mpr ⟨by simp [hmade], fun z hz => (cleanup_quiet z hz).2⟩
  obtain ⟨rfl, rfl, hbetween⟩ := mount_split hquiet hrest hymount (by simpa using h)
  rcases between with _ | ⟨z, _ | ⟨first, between⟩⟩
  · obtain ⟨rfl, -⟩ := List.cons.inj hbetween
    simp [hmade] at hx
  · obtain ⟨rfl, -⟩ := List.cons.inj hbetween
    rfl
  · obtain ⟨-, hcleanup⟩ := List.cons.inj hbetween
    exact absurd hx (cleanup_asks_once hcleanup (by simp))

theorem Scoped.of_mounted (hi : Path.internal o.workingDir target = .ok internal)
    (hd : Path.internalVolume o.workingDir target subDir = .ok directory)
    (hroot : EndsIn internal (mounted o source internal fsType options) [] root)
    (hmade : made.call = .createDirAll directory mode) :
    Scoped o target subDir respond
      ((root ++ [made]) ++ (cleanup o internal).trace (respond.after (root ++ [made]))) := by
  obtain ⟨quiet, hquiet, rfl⟩ := hroot
  generalize hm : mounted o source internal fsType options = m
  have hacquires : Acquires o target m := ⟨_, _, _, _, hi, hm.symm⟩
  have hcreates : Creates o target subDir made.call := ⟨_, _, hd, hmade⟩
  rw [List.nil_append]
  generalize hlater : (cleanup o internal).trace (respond.after (quiet ++ [m] ++ [made])) = later
  have hreleases : Releases o target subDir respond (quiet ++ [m] ++ [made])
      (quiet ++ [m] ++ [made] ++ later) :=
    ⟨⟨quiet ++ [m], made, rfl, hcreates⟩, internal, hi, by rw [hlater]⟩
  have hother : ∀ x ∈ (quiet ++ [m]) ++ later, x.call.path = internal := by
    simp only [List.mem_append, List.mem_singleton]
    rintro x ((hx | rfl) | hx)
    · exact (hquiet x hx).1
    · exact hm ▸ rfl
    · exact (cleanup_quiet x (hlater ▸ hx)).1
  have hunique : ∀ past, Releases o target subDir respond past (quiet ++ [m] ++ [made] ++ later) →
      past = quiet ++ [m] ++ [made] := by
    rintro _ ⟨⟨first, x, rfl, hx⟩, q, -, hsaid⟩
    obtain ⟨rfl, rfl, -⟩ := creates_split hi hother hx (by simpa using hsaid)
    rfl
  refine ⟨?_, ?_, fun _ _ h h' => (hunique _ h).trans (hunique _ h').symm, ?_⟩
  · intro before x after he hx
    obtain ⟨rfl, rfl, rfl⟩ := creates_split hi hother hx (by simpa using he)
    exact ⟨⟨quiet, m, rfl, hacquires⟩, fun y hy => not_creates hi (hother y hy)⟩
  · exact iff_of_true ⟨_, hreleases⟩ ⟨m, by simp, hacquires⟩
  · intro before x after he hask hmount
    have hkind : made.call.kind = .createDirAll := by simp [hmade, Call.kind]
    obtain rfl := cleanup_split hquiet hkind hask hmount hlater (by simpa using he)
    simpa using hreleases

-- ---------------------------------------------------------------------------
-- The provisioning
-- ---------------------------------------------------------------------------

theorem trace_release (o : Options) (p : Path) (respond : Responses) :
    (release o p).trace respond = (cleanup o p).trace respond := Attempt.trace_orNote ..

theorem reply_release (o : Options) (p : Path) (respond : Responses) :
    (release o p).reply respond = .ok () := Attempt.reply_orNote ..

theorem provision_refused (h : ∀ internal directory,
      Path.internal o.workingDir target = .ok internal →
      Path.internalVolume o.workingDir target subDir ≠ .ok directory) :
    (provision o volume target subDir options).trace respond = [] ∧
      ∃ f, (provision o volume target subDir options).reply respond = .error f := by
  unfold provision
  cases hi : Path.internal o.workingDir target with
  | error e => exact ⟨rfl, e, rfl⟩
  | ok internal =>
    rw [Attempt.ofExcept_ok_bind]
    cases hd : Path.internalVolume o.workingDir target subDir with
    | error e => exact ⟨rfl, e, rfl⟩
    | ok directory => exact absurd hd (h internal directory hi)

/-- The root is mounted, or the provisioning fails with nothing to release. -/
theorem provision_course (o : Options) (volume : Volume) (target : Path) (subDir : String)
    (options : List String) (respond : Responses) :
    (∃ f, (provision o volume target subDir options).reply respond = .error f ∧
      Unused o target subDir ((provision o volume target subDir options).trace respond) ∧
      Scoped o target subDir respond
        ((provision o volume target subDir options).trace respond)) ∨
    ∃ internal directory, Path.internal o.workingDir target = .ok internal ∧
      Path.internalVolume o.workingDir target subDir = .ok directory ∧
      (mountInternal o volume internal options).reply respond = .ok () := by
  by_cases h : ∃ internal directory, Path.internal o.workingDir target = .ok internal ∧
      Path.internalVolume o.workingDir target subDir = .ok directory
  · obtain ⟨internal, directory, hi, hd⟩ := h
    have hsaid :=
      Triple.replied (m := mountInternal o volume internal options) mountInternal_said respond
    cases hm : (mountInternal o volume internal options).reply respond with
    | ok u => exact .inr ⟨internal, directory, hi, hd, hm⟩
    | error f =>
      rw [hm] at hsaid
      rw [provision, hi, Attempt.ofExcept_ok_bind, hd, Attempt.ofExcept_ok_bind,
        Attempt.reply_bind_error hm, Attempt.trace_bind_error hm]
      exact .inl ⟨f, rfl, hsaid.unused hi, .of_abandons hi hsaid⟩
  · have hrefused : (provision o volume target subDir options).trace respond = [] ∧ _ :=
      provision_refused fun internal directory hi hd => h ⟨internal, directory, hi, hd⟩
    obtain ⟨htrace, f, hreply⟩ := hrefused
    rw [htrace, hreply]
    exact .inl ⟨f, rfl, by simp [Unused], .of_unused (by simp [Unused]) (by simp)⟩

section
variable {made : Exchange} {root : List Exchange}
  (hi : Path.internal o.workingDir target = .ok internal)
  (hd : Path.internalVolume o.workingDir target subDir = .ok directory)
  (hok : (mountInternal o volume internal options).reply respond = .ok ())
  (hroot : (mountInternal o volume internal options).trace respond = root)
  (hmade : respond.exchange root (.createDirAll directory directoryMode) = made)

include hi hd hok hroot hmade

theorem provision_mounted :
    (provision o volume target subDir options).trace respond =
      (root ++ [made]) ++ (cleanup o internal).trace (respond.after (root ++ [made])) ∧
    (provision o volume target subDir options).reply respond =
      (respond root (.createDirAll directory directoryMode)).mapError .subDirNotCreated := by
  rw [provision, hi, Attempt.ofExcept_ok_bind, hd, Attempt.ofExcept_ok_bind,
    Attempt.trace_bind_ok hok, Attempt.reply_bind_ok hok, hroot, Attempt.trace_ask_bind,
    Attempt.reply_ask_bind, Attempt.trace_bind_ok (reply_release ..),
    Attempt.reply_bind_ok (reply_release ..), trace_release, Responses.after_after,
    Responses.after_nil, ← hmade, Responses.exchange]
  rcases respond root (.createDirAll directory directoryMode) with e | ⟨⟨⟩⟩
  · exact ⟨by simp, rfl⟩
  · exact ⟨by simp, rfl⟩

theorem provision_releases_made :
    Releases o target subDir respond (root ++ [made])
      ((provision o volume target subDir options).trace respond) :=
  ⟨⟨root, made, rfl, directory, directoryMode, hd, hmade ▸ rfl⟩, internal, hi,
    (provision_mounted hi hd hok hroot hmade).1⟩

theorem provision_mounted_scoped :
    Scoped o target subDir respond ((provision o volume target subDir options).trace respond) := by
  have hends :=
    Triple.replied (m := mountInternal o volume internal options) mountInternal_said respond
  rw [hok, hroot] at hends
  have hcall : made.call = .createDirAll directory directoryMode := hmade ▸ rfl
  rw [(provision_mounted hi hd hok hroot hmade).1]
  exact .of_mounted hi hd hends hcall

theorem provision_mounted_reply :
    (provision o volume target subDir options).reply respond = .ok () ↔
      ∃ directory mode, Path.internalVolume o.workingDir target subDir = .ok directory ∧
        ⟨.createDirAll directory mode, .ok ()⟩ ∈
          (provision o volume target subDir options).trace respond := by
  obtain ⟨htrace, hreply⟩ := provision_mounted hi hd hok hroot hmade
  have hscoped := provision_mounted_scoped hi hd hok hroot hmade
  have hcall : made.call = .createDirAll directory directoryMode := hmade ▸ rfl
  rw [htrace] at hscoped ⊢
  have honly := (hscoped.creates root made _ (List.append_assoc ..) ⟨_, _, hd, hcall⟩).2
  rw [hreply]
  rcases hanswer : respond root (.createDirAll directory directoryMode) with e | ⟨⟨⟩⟩
  · refine iff_of_false nofun ?_
    rintro ⟨q, mode, hq, hmem⟩
    have hx : (⟨.createDirAll q mode, .ok ()⟩ : Exchange) = made := by
      by_contra hne
      exact honly _ (by simpa [hne] using hmem) ⟨q, mode, hq, rfl⟩
    rw [← hmade, Responses.exchange, hanswer] at hx
    cases hx
  · refine iff_of_true rfl ⟨directory, directoryMode, hd, ?_⟩
    simp [← hmade, Responses.exchange, hanswer]

theorem provision_reply_congr (h : respond'.Gives (root ++ [made])) :
    Releases o target subDir respond' (root ++ [made])
      ((provision o volume target subDir options).trace respond') ∧
    (provision o volume target subDir options).reply respond' =
      (provision o volume target subDir options).reply respond := by
  have hsame : respond' root (.createDirAll directory directoryMode) =
      respond root (.createDirAll directory directoryMode) := by
    have hanswer := h root made [] rfl
    rw [← hmade] at hanswer
    exact hanswer
  have hmade' : respond'.exchange root (.createDirAll directory directoryMode) = made := by
    rw [← hmade, Responses.exchange, Responses.exchange, hsame]
  have hgives := h.of_append
  rw [← hroot] at hgives
  have hok' := (Attempt.reply_congr hgives).trans hok
  have hroot' := (Attempt.trace_congr hgives).trans hroot
  refine ⟨provision_releases_made hi hd hok' hroot' hmade', ?_⟩
  rw [(provision_mounted hi hd hok' hroot' hmade').2, hsame,
    (provision_mounted hi hd hok hroot hmade).2]

end

/-- A run of `provision` is a scope. What the release is told plays no part in
the reply. -/
theorem provision_scoped (o : Options) (volume : Volume) (target : Path) (subDir : String)
    (options : List String) (respond : Responses) :
    Scoped o target subDir respond ((provision o volume target subDir options).trace respond) ∧
    ((provision o volume target subDir options).reply respond = .ok () ↔
      ∃ directory mode, Path.internalVolume o.workingDir target subDir = .ok directory ∧
        ⟨.createDirAll directory mode, .ok ()⟩ ∈
          (provision o volume target subDir options).trace respond) ∧
    ∀ past, Releases o target subDir respond past
        ((provision o volume target subDir options).trace respond) →
      ∀ respond' : Responses, respond'.Gives past →
        Releases o target subDir respond' past
          ((provision o volume target subDir options).trace respond') ∧
        (provision o volume target subDir options).reply respond' =
          (provision o volume target subDir options).reply respond := by
  rcases provision_course o volume target subDir options respond with
    ⟨f, hreply, hunused, hscoped⟩ | ⟨internal, directory, hi, hd, hok⟩
  · refine ⟨hscoped, iff_of_false (by simp [hreply]) ?_,
      fun past h => absurd h hunused.not_releases⟩
    rintro ⟨directory, mode, hd, hmem⟩
    exact (hunused _ hmem).2 ⟨directory, mode, hd, rfl⟩
  · have hscoped := provision_mounted_scoped hi hd hok rfl rfl
    refine ⟨hscoped, provision_mounted_reply hi hd hok rfl rfl, fun past hpast respond' h => ?_⟩
    obtain rfl := hscoped.once _ _ hpast (provision_releases_made hi hd hok rfl rfl)
    exact provision_reply_congr hi hd hok rfl rfl h

end

def fs1 : Volume where
  name := ""
  id := "fs1"
  server := "10.0.0.1"
  filesystem := "fs1"
  subDir := some "d"

theorem provision_scoped_staleHost :
    (provision {} fs1 ⟨"/a"⟩ "d" []).reply Service.staleHost = .ok () ∧
      ∃ past, Releases {} ⟨"/a"⟩ "d" Service.staleHost past
          ((provision {} fs1 ⟨"/a"⟩ "d" []).trace Service.staleHost) ∧
        ∀ respond' : Responses, respond'.Gives past →
          (provision {} fs1 ⟨"/a"⟩ "d" []).reply respond' = .ok () := by
  obtain ⟨hscoped, hreply, hcongr⟩ :=
    provision_scoped {} fs1 ⟨"/a"⟩ "d" [] Service.staleHost
  have htrace : (provision {} fs1 ⟨"/a"⟩ "d" []).trace Service.staleHost =
      Service.staleRepair ++ ⟨.mount "10.0.0.1@tcp:/fs1" ⟨"/tmp/a"⟩ "lustre" [], .ok ()⟩ ::
        ⟨.createDirAll ⟨"/tmp/a/d"⟩ 0o775, .ok ()⟩ ::
        ((provision {} fs1 ⟨"/a"⟩ "d" []).trace Service.staleHost).drop 6 := rfl
  have hok := hreply.mpr ⟨⟨"/tmp/a/d"⟩, 0o775, rfl, by rw [htrace]; simp⟩
  obtain ⟨past, hpast⟩ := hscoped.releases_iff.mpr
    ⟨⟨.mount "10.0.0.1@tcp:/fs1" ⟨"/tmp/a"⟩ "lustre" [], .ok ()⟩, by rw [htrace]; simp,
      ⟨"/tmp/a"⟩, _, _, _, rfl, rfl⟩
  exact ⟨hok, past, hpast, fun respond' h => (hcongr past hpast respond' h).2.trans hok⟩

end Mount

end VolumeAgent
