import CrossCheck.Proofs.Observation

/-! # Errors of verifiers in a run

Here the verifiers act on a state of any kind, so that they may answer differently each time. What
holds of the result of each visit holds of the results of all (`forall_mem_visitUntil`). So an error
of a verifier that ends a run is one that a verifier gives to some image, in some state, by settings
without fault (`error_of_run`). -/

namespace CrossCheck

variable {σ ε : Type}

/-! ### Visits -/

theorem run_bind_stateM {α β : Type} (x : StateM σ α) (f : α → StateM σ β) (st : σ) :
    (x >>= f).run st = (f (x.run st).1).run (x.run st).2 := rfl

/-- **What holds of the result of each visit** holds of all results. -/
theorem forall_mem_visitUntil {α β : Type} {P : β → Prop} (stops : β → Bool)
    (visit : α → StateM σ β) (hvisit : ∀ a st, P ((visit a).run st).1) (as : List α) (st : σ) :
    ∀ b ∈ ((visitUntil stops visit as).run st).1, P b := by
  induction as generalizing st with
  | nil =>
    intro b hb
    cases hb
  | cons a as ih =>
    have ha := hvisit a st
    rw [visitUntil, run_bind_stateM]
    split_ifs
    · exact List.forall_mem_singleton.mpr ha
    · rw [run_bind_stateM]
      exact List.forall_mem_cons.mpr ⟨ha, ih _⟩

theorem error_of_examine {P : ε → Prop} {verify : Role → OsString → StateM σ (Except ε Finding)}
    (hverify : ∀ role path st e, ((verify role path).run st).1 = .error e → P e) (path : OsString)
    (st : σ) (e : ε)
    (he : ((examine (verify .reference) (verify .candidate) path).run st).1.error? = some e) :
    P e := by
  rw [examine, run_bind_stateM] at he
  rcases hr : ((verify .reference path).run st).1 with e' | r
  · rw [hr] at he
    cases he
    exact hverify .reference path st e hr
  · simp only [hr, run_bind_stateM] at he
    rcases hc : ((verify .candidate path).run ((verify .reference path).run st).2).1 with e' | c
    · rw [hc] at he
      cases he
      exact hverify .candidate path _ e hc
    · rw [hc] at he
      cases he

/-! ### Settings and endings -/

namespace Run

/-- The directory is not known, or settings cannot be loaded in it, or they have a fault, or they
are those of the run. -/
theorem settings_cases (site : Site) (a : Arguments) :
    (∃ cause, site.directory = .error cause ∧
      settings (ε := ε) site a = .error (.directory cause)) ∨
    ∃ directory, site.directory = .ok directory ∧
      ((∃ e, resolve site directory a = .error e ∧
        settings (ε := ε) site a = .error (.load e)) ∨
      (∃ s f, resolve site directory a = .ok s ∧ s.fault? = some f ∧
        settings (ε := ε) site a = .error (.settings f)) ∨
      ∃ s, resolve site directory a = .ok s ∧ s.fault? = none ∧
        settings (ε := ε) site a = .ok s) := by
  rcases hd : site.directory with cause | directory
  · refine Or.inl ⟨cause, rfl, ?_⟩
    rw [settings, hd]
    rfl
  refine Or.inr ⟨directory, rfl, ?_⟩
  rcases hs : resolve site directory a with e | s
  · refine Or.inl ⟨e, rfl, ?_⟩
    rw [settings, hd]
    simp only [Except.mapError, bind, Except.bind, hs]
  rcases hf : s.fault? with _ | f
  · exact Or.inr (Or.inr ⟨s, rfl, hf, settings_of_resolve hd hs hf⟩)
  · refine Or.inr (Or.inl ⟨s, f, rfl, hf, ?_⟩)
    rw [settings, hd]
    simp only [Except.mapError, bind, Except.bind, hs, hf]

theorem settings_eq_error_iff {site : Site} {directory : OsString} {a : Arguments} {s : Settings}
    (hd : site.directory = .ok directory) (h : resolve site directory a = .ok s)
    {f : SettingsError} :
    settings (ε := ε) site a = .error (.settings f) ↔ s.fault? = some f := by
  rcases settings_cases (ε := ε) site a with ⟨cause, hcause, -⟩ | ⟨directory', hd', hcases⟩
  · rw [hd] at hcause
    cases hcause
  obtain rfl := Except.ok.inj (hd.symm.trans hd')
  rcases hcases with ⟨e, he, -⟩ | ⟨s', f', hs', hf, hs⟩ | ⟨s', hs', hf, hs⟩
  · rw [h] at he
    cases he
  · obtain rfl := Except.ok.inj (hs'.symm.trans h)
    simp [hs, hf]
  · obtain rfl := Except.ok.inj (hs'.symm.trans h)
    simp [hs, hf]

theorem fault?_of_settings {site : Site} {a : Arguments} {s : Settings}
    (h : settings (ε := ε) site a = .ok s) : s.fault? = none := by
  rcases settings_cases (ε := ε) site a with ⟨_, -, hs⟩ | ⟨_, -, hcases⟩
  · simp [hs] at h
  rcases hcases with ⟨_, -, hs⟩ | ⟨_, _, -, -, hs⟩ | ⟨s', -, hf, hs⟩
  · simp [hs] at h
  · simp [hs] at h
  · obtain rfl := Except.ok.inj (hs.symm.trans h)
    exact hf

theorem settings_ne_verifier {site : Site} {a : Arguments} (e : ε) :
    settings site a ≠ .error (.verifier e) := by
  rcases settings_cases (ε := ε) site a with
    ⟨_, -, hs⟩ | ⟨_, -, ⟨_, -, hs⟩ | ⟨_, _, -, -, hs⟩ | ⟨s', -, hf, hs⟩⟩ <;> simp [hs]

theorem exists_error_of_transcript {site : Site} {a : Arguments} {s : Settings}
    {xs : List (OsString × Examination ε)} {e : ε}
    (h : (transcript site a s xs).ending = .error (.verifier e)) :
    ∃ x ∈ xs, x.2.error? = some e := by
  rcases hx : xs.findSome? fun x => x.2.error? with _ | e'
  · rw [transcript_of_no_error hx] at h
    cases h
  · rw [transcript_of_error hx] at h
    cases h
    exact List.exists_of_findSome?_eq_some hx

end Run

/-- **The errors of a run** that a verifier causes are errors of a verifier whose settings are
without fault. -/
theorem error_of_run {P : ε → Prop} {site : Site} {a : Arguments}
    {verify : Settings → Role → OsString → StateM σ (Except ε Finding)}
    (hverify : ∀ s, s.fault? = none → ∀ role path st e,
      ((verify s role path).run st).1 = .error e → P e) (st : σ) (e : ε)
    (he : ((run site verify a).run st).1.ending = .error (.verifier e)) : P e := by
  rw [Run.run_eq_map_examined, StateT.run_map] at he
  simp only [Run.examined] at he
  rcases hs : Run.settings (ε := ε) site a with f | s
  · rw [hs] at he
    cases he
    exact absurd hs (Run.settings_ne_verifier e)
  rw [hs] at he
  rcases hp : Images.find site.look a.path s.extensions with _ | paths
  · simp only [hp] at he
    cases he
  · simp only [hp, run_bind_stateM] at he
    obtain ⟨x, hx, hxe⟩ := Run.exists_error_of_transcript he
    refine forall_mem_visitUntil (P := fun x => ∀ e, x.2.error? = some e → P e) _ _ ?_ paths st x
      hx e hxe
    intro path st e hexam
    exact error_of_examine (hverify s (Run.fault?_of_settings hs)) path st e hexam

end CrossCheck
