import CrossCheck.Proofs.DocumentLayers
import CrossCheck.Proofs.FieldByField
import CrossCheck.Proofs.Sequences

/-! # Faulty files

A file is faulty if it cannot be read, is no document, or has a mistake in an entry (`IsFaulty`).
The first faulty file ends the loading of settings with an error that names it, whatever the files
after it hold (`ofFiles_eq_error_iff`). Without a faulty file the settings are the defaults as the
files change them, each of which says all that is in its document and nothing else
(`FileText.Says`). A file that does not exist is like one without anything in it. -/

namespace CrossCheck

open Toml

/-! ### One file -/

/-- **What makes a file no configuration.** -/
inductive FileText.IsFaulty : FileText → Prop
  | unreadable (cause : String) : IsFaulty (.unreadable cause)
  | noDocument {t : String} : Document.parse? t = none → IsFaulty (.text t)
  | mistake {t : String} {es : Entries} {e : String × Value} :
    Document.parse? t = some es → e ∈ es → Layer.Mistake e → IsFaulty (.text t)

/-- **What a file says.** -/
inductive FileText.Says : FileText → Layer → Prop
  | absent : Says .absent {}
  | text {t : String} {es : Entries} {l : Layer} :
    Document.parse? t = some es → l.Says es → Says (.text t) l

/-- **The error about a faulty file** tells why it cannot be read, or what its text is. -/
inductive LoadError.About (path : OsString) : FileText → LoadError → Prop
  | unreadable (cause : String) : About path (.unreadable cause) (.unreadable path cause)
  | malformed (t : String) : About path (.text t) (.malformed path t)

theorem FileText.IsFaulty.exists_about {t : FileText} (h : t.IsFaulty) (path : OsString) :
    ∃ e, LoadError.About path t e := by
  cases h with
  | unreadable cause => exact ⟨_, .unreadable cause⟩
  | noDocument _ => exact ⟨_, .malformed _⟩
  | mistake _ _ _ => exact ⟨_, .malformed _⟩

/-- Its wording names the path of the file. -/
theorem LoadError.About.messages {path : OsString} {t : FileText} {e : LoadError}
    (h : About path t e) (fault : String → String) :
    (∀ cause, t = .unreadable cause →
      e.messages fault = ["failed to read config file: " ++ path.display, cause]) ∧
    ∀ s, t = .text s →
      e.messages fault = ["failed to parse config file: " ++ path.display, fault s] := by
  cases h with
  | unreadable cause => simp [LoadError.messages]
  | malformed t => simp [LoadError.messages]

namespace Layer

theorem ofText?_eq_none_iff {t : String} : ofText? t = none ↔ (FileText.text t).IsFaulty := by
  rw [ofText?, Option.bind_eq_none_iff]
  constructor
  · intro h
    rcases hes : Document.parse? t with _ | es
    · exact .noDocument hes
    · obtain ⟨e, he, hmistake⟩ := ofEntries?_eq_none_iff.mp (h es hes)
      exact .mistake hes he hmistake
  · intro h es hes
    cases h with
    | noDocument hnone =>
      rw [hnone] at hes
      cases hes
    | mistake hes' he hmistake =>
      obtain rfl := Option.some.inj (hes.symm.trans hes')
      exact ofEntries?_eq_none_iff.mpr ⟨_, he, hmistake⟩

theorem says_of_ofText? {t : String} {l : Layer} (h : ofText? t = some l) :
    (FileText.text t).Says l := by
  obtain ⟨es, hes, hl⟩ := Option.bind_eq_some_iff.mp h
  exact .text hes (says_of_ofEntries? (Document.keysOnce_of_parse? hes) hl)

theorem ofFile_eq_error_iff {read : OsString → FileText} {path : OsString} {e : LoadError} :
    ofFile read path = .error e ↔ (read path).IsFaulty ∧ LoadError.About path (read path) e := by
  unfold ofFile
  rcases read path with _ | cause | t
  · refine iff_of_false nofun ?_
    rintro ⟨⟨⟩, -⟩
  · constructor
    · rintro ⟨⟩
      exact ⟨.unreadable cause, .unreadable cause⟩
    · rintro ⟨-, ⟨⟩⟩
      rfl
  · rw [← ofText?_eq_none_iff]
    rcases hl : ofText? t with _ | l
    · dsimp only
      rw [hl]
      constructor
      · rintro ⟨⟩
        exact ⟨rfl, .malformed t⟩
      · rintro ⟨-, ⟨⟩⟩
        rfl
    · simp [hl]

theorem exists_ofFile_iff {read : OsString → FileText} {path : OsString} :
    (∃ l, ofFile read path = .ok l) ↔ ¬ (read path).IsFaulty := by
  rcases h : ofFile read path with e | l
  · simpa using (ofFile_eq_error_iff.mp h).1
  · simp only [Except.ok.injEq, exists_eq', true_iff]
    intro hfaulty
    obtain ⟨e, he⟩ := hfaulty.exists_about path
    rw [ofFile_eq_error_iff.mpr ⟨hfaulty, he⟩] at h
    cases h

theorem says_of_ofFile {read : OsString → FileText} {path : OsString} {l : Layer}
    (h : ofFile read path = .ok l) : (read path).Says l := by
  rcases ofFile_eq_ok_iff.mp h with ⟨hread, rfl⟩ | ⟨t, hread, hl⟩
  · rw [hread]
    exact .absent
  · rw [hread]
    exact says_of_ofText? hl

end Layer

/-! ### Files one after another -/

namespace Settings

variable {read : OsString → FileText} {user project : Option OsString}

theorem ofFiles_eq :
    ofFiles read user project =
      ((user.toList ++ project.toList).mapM (Layer.ofFile read)).map (·.foldl apply {}) := by
  unfold ofFiles
  rcases (user.toList ++ project.toList).mapM (Layer.ofFile read) with e | layers <;> rfl

/-- **The first faulty file** is the one that the error is about. -/
theorem ofFiles_eq_error_iff {e : LoadError} :
    ofFiles read user project = .error e ↔
      ∃ before path after, user.toList ++ project.toList = before ++ path :: after ∧
        (∀ p ∈ before, ¬ (read p).IsFaulty) ∧ (read path).IsFaulty ∧
          LoadError.About path (read path) e := by
  have hmap : ofFiles read user project = .error e ↔
      (user.toList ++ project.toList).mapM (Layer.ofFile read) = .error e := by
    rw [ofFiles_eq]
    rcases (user.toList ++ project.toList).mapM (Layer.ofFile read) with e | layers <;>
      simp [Except.map]
  simp only [hmap, mapM_eq_error_iff, Layer.exists_ofFile_iff, Layer.ofFile_eq_error_iff]

theorem exists_ofFiles_iff :
    (∃ s, ofFiles read user project = .ok s) ↔
      ∀ path ∈ user.toList ++ project.toList, ¬ (read path).IsFaulty := by
  have hmap : (∃ s, ofFiles read user project = .ok s) ↔
      ∃ layers, (user.toList ++ project.toList).mapM (Layer.ofFile read) = .ok layers := by
    rw [ofFiles_eq]
    rcases (user.toList ++ project.toList).mapM (Layer.ofFile read) with e | layers <;>
      simp [Except.map]
  simp only [hmap, exists_mapM_iff, Layer.exists_ofFile_iff]

/-- **Loading fails** if and only if a file is faulty. -/
theorem exists_ofFiles_eq_error_iff :
    (∃ e, ofFiles read user project = .error e) ↔
      ∃ path ∈ user.toList ++ project.toList, (read path).IsFaulty := by
  rcases h : ofFiles read user project with e | s
  · obtain ⟨before, path, after, hpaths, -, hfaulty, -⟩ := ofFiles_eq_error_iff.mp h
    exact iff_of_true ⟨e, rfl⟩ ⟨path, by simp [hpaths], hfaulty⟩
  · refine iff_of_false (by simp) ?_
    rintro ⟨path, hpath, hfaulty⟩
    exact exists_ofFiles_iff.mp ⟨s, h⟩ path hpath hfaulty

/-- **Without a faulty file** the settings are what the files make of the defaults. -/
theorem exists_ofFiles_of_no_fault
    (h : ∀ path ∈ user.toList ++ project.toList, ¬ (read path).IsFaulty) :
    ∃ layers,
      List.Forall₂ (fun path l => (read path).Says l) (user.toList ++ project.toList) layers ∧
        ofFiles read user project = .ok (layers.foldl apply {}) := by
  obtain ⟨layers, hlayers⟩ := exists_mapM_iff.mpr fun path hpath =>
    Layer.exists_ofFile_iff.mpr (h path hpath)
  refine ⟨layers, (mapM_eq_ok_iff.mp hlayers).imp fun _ _ => Layer.says_of_ofFile, ?_⟩
  rw [ofFiles_eq, hlayers]
  rfl

theorem ofFiles_congr_of_empty {read' : OsString → FileText}
    (h : ∀ path, read' path = read path ∨ read path = .absent ∧ read' path = .text "") :
    ofFiles read' user project = ofFiles read user project := by
  have hfile : Layer.ofFile read' = Layer.ofFile read := by
    funext path
    unfold Layer.ofFile
    rcases h path with hpath | ⟨habsent, hempty⟩
    · rw [hpath]
    · rw [habsent, hempty]
      simp only [Run.ofText?_empty]
  rw [ofFiles_eq, ofFiles_eq, hfile]

/-- **No mistake is passed over.** Loading fails if and only if a file is faulty, and the error is
about the first faulty one and names it, whatever is in the others. Otherwise it gives the defaults
as the files change them, one after another, each of which says all that is in its document. A file
that does not exist is like an empty one. -/
theorem ofFiles_faulty (read : OsString → FileText) (user project : Option OsString) :
    let paths := user.toList ++ project.toList
    ((∃ e, ofFiles read user project = .error e) ↔ ∃ path ∈ paths, (read path).IsFaulty) ∧
    (∀ e, ofFiles read user project = .error e ↔
      ∃ before path after, paths = before ++ path :: after ∧
        (∀ p ∈ before, ¬ (read p).IsFaulty) ∧ (read path).IsFaulty ∧
          LoadError.About path (read path) e) ∧
    (∀ path t e, LoadError.About path t e → ∀ fault : String → String,
      (∀ cause, t = .unreadable cause →
        e.messages fault = ["failed to read config file: " ++ path.display, cause]) ∧
      ∀ s, t = .text s →
        e.messages fault = ["failed to parse config file: " ++ path.display, fault s]) ∧
    ((∀ path ∈ paths, ¬ (read path).IsFaulty) →
      ∃ layers, List.Forall₂ (fun path l => (read path).Says l) paths layers ∧
        ofFiles read user project = .ok (layers.foldl apply {})) ∧
    ∀ read' : OsString → FileText,
      (∀ path, read' path = read path ∨ read path = .absent ∧ read' path = .text "") →
        ofFiles read' user project = ofFiles read user project := by
  exact ⟨exists_ofFiles_eq_error_iff, fun e => ofFiles_eq_error_iff,
    fun path t e => LoadError.About.messages, exists_ofFiles_of_no_fault,
    fun read' => ofFiles_congr_of_empty⟩

/-- The user's file has a key in the table of the reference that means nothing, and the project's
file gives the same table. -/
theorem ofFiles_faulty_of_unknown_key :
    let read : OsString → FileText := fun path =>
      if path = "user.toml" then .text "reference.program='ewfverify'"
      else if path = "project.toml" then .text "reference.command='/opt/ewfverify -q'"
      else .absent
    let filled : OsString → FileText := fun path =>
      if read path = .absent then .text "" else read path
    (read "user.toml").IsFaulty ∧
      ofFiles read (some "user.toml") (some "project.toml") =
        .error (.malformed "user.toml" "reference.program='ewfverify'") ∧
      (∃ layers,
        List.Forall₂ (fun path l => (read path).Says l) (["none.toml", "project.toml"]) layers ∧
          ofFiles read (some "none.toml") (some "project.toml") = .ok (layers.foldl apply {})) ∧
      ofFiles filled (some "none.toml") (some "project.toml") =
        ofFiles read (some "none.toml") (some "project.toml") := by
  intro read filled
  have huser : (read "user.toml").IsFaulty := by
    refine Layer.ofText?_eq_none_iff.mp ?_
    exact ofText?_reference "program" "ewfverify" (by decide) (List.all_eq_true.mp (by decide))
      (by decide) (List.all_eq_true.mp (by decide))
  have hproject : ¬ (read "project.toml").IsFaulty := by
    rw [← Layer.exists_ofFile_iff]
    exact ⟨_, ofFile_reference "command" "/opt/ewfverify -q" rfl (by decide) (by decide) (by decide)
      (by decide) rfl⟩
  have hnone : ¬ (read "none.toml").IsFaulty := fun h => nomatch h
  obtain ⟨-, herror, -, -, -⟩ := ofFiles_faulty read (some "user.toml") (some "project.toml")
  obtain ⟨-, -, -, hok, hempty⟩ := ofFiles_faulty read (some "none.toml") (some "project.toml")
  refine ⟨huser, (herror _).mpr ⟨[], "user.toml", ["project.toml"], rfl, by simp, huser,
    .malformed _⟩, hok ?_, hempty filled fun path => ?_⟩
  · simpa using ⟨hnone, hproject⟩
  · by_cases h : read path = .absent
    · exact Or.inr ⟨h, if_pos h⟩
    · exact Or.inl (if_neg h)

end Settings

end CrossCheck
