import CrossCheck.Proofs.Layering

/-! # Files field by field

Field by field, a verifier has each field from the first layer that gives it (`ByField`). Its
command always comes from there. Its name does not: a layer that gives a command and no name takes
back the names of the layers below. So the settings are the ones field by field if and only if no
other name than that of the program is taken back (`Settles.byField_iff`). With two files this is
about a project's file that gives a command alone over a user's file that gives a name
(`ofFiles_byField_iff`). -/

namespace CrossCheck

namespace VerifierLayer

/-- **Each field is that of the first layer that gives it,** the highest first. Without any name it
is that of the program. -/
def ByField (vs : List VerifierLayer) (v : VerifierSettings) : Prop :=
  ∃ line, firstCommand? vs = some line ∧ v.command = .ofList (Text.trim line.toList) ∧
    v.name = (vs.findSome? name).getD (Command.displayName line)

/-- The first name that is given below the layer of the first command. -/
def lowerName? (vs : List VerifierLayer) : Option String :=
  (vs.drop (upTo (fun v => v.command.isSome) vs).length).findSome? name

theorem findSome?_name (vs : List VerifierLayer) :
    vs.findSome? name = (firstName? vs).or (lowerName? vs) := by
  rw [firstName?, lowerName?, ← List.findSome?_append, upTo_append_drop]

/-- **Settings are those field by field** if and only if the layer of the command takes back no
other name than the one it leaves. -/
theorem Settles.byField_iff {vs : List VerifierLayer} {v : VerifierSettings} (h : Settles vs v) :
    ByField vs v ↔ (firstName? vs = none → ∀ n, lowerName? vs = some n → n = v.name) := by
  obtain ⟨line, hline, hcommand, hname⟩ := h
  have hfield : ByField vs v ↔ v.name = (vs.findSome? name).getD (Command.displayName line) := by
    refine ⟨?_, fun h => ⟨line, hline, hcommand, h⟩⟩
    rintro ⟨line', hline', -, h⟩
    rwa [Option.some.inj (hline.symm.trans hline')]
  rw [hfield, findSome?_name]
  rcases hfirst : firstName? vs with _ | n
  · rcases hlower : lowerName? vs with _ | n
    · simpa [hfirst] using hname
    · simp [eq_comm]
  · simpa [hfirst] using hname

/-- With two layers over a last one without a name, a name is taken back if the higher layer gives a
command alone and the lower one gives the name. -/
theorem lowerName?_of_two {above below last : VerifierLayer} (hlast : last.name = none)
    {n : String} :
    firstName? [above, below, last] = none ∧ lowerName? [above, below, last] = some n ↔
      (∃ line, above = { command := some line }) ∧ below.name = some n := by
  obtain ⟨name, command⟩ := above
  rcases command with _ | line
  · rcases hbelow : below.command with _ | line <;>
      simp [firstName?, lowerName?, upTo, hbelow, hlast]
  · rcases name with _ | name
    · rcases hname : below.name with _ | n <;>
        simp [firstName?, lowerName?, upTo, hname, hlast]
    · simp [firstName?, upTo]

end VerifierLayer

/-- What two layers over the defaults say about a verifier. -/
def Layer.overDefaults (above below : Layer) (role : Role) : List VerifierLayer :=
  [above.verifier role, below.verifier role, defaults.verifier role]

namespace Settings

open VerifierLayer

variable {read : OsString → FileText} {user project : OsString} {below above : Layer}

theorem exists_ofFiles (hbelow : Layer.ofFile read user = .ok below)
    (habove : Layer.ofFile read project = .ok above) :
    ∃ s, ofFiles read (some user) (some project) = .ok s ∧
      ∀ role, Settles (above.overDefaults below role) (s.verifier role) := by
  refine ⟨(({} : Settings).apply below).apply above, ?_,
    ((Layer.settles_defaults.apply below).apply above).verifier⟩
  unfold ofFiles
  simp only [Option.toList_some, List.singleton_append, List.mapM_cons, List.mapM_nil, hbelow,
    habove]
  rfl

/-- **The files override field by field** up to a name that the user's file gives and the project's
file takes back: one that gives a command alone leaves the name of its program. -/
theorem ofFiles_byField_iff (hbelow : Layer.ofFile read user = .ok below)
    (habove : Layer.ofFile read project = .ok above) :
    ∃ s, ofFiles read (some user) (some project) = .ok s ∧
      ∀ role, Settles (above.overDefaults below role) (s.verifier role) ∧
        (ByField (above.overDefaults below role) (s.verifier role) ↔
          ∀ line n, above.verifier role = { command := some line } →
            (below.verifier role).name = some n → n = Command.displayName line) := by
  obtain ⟨s, hs, hsettles⟩ := exists_ofFiles hbelow habove
  refine ⟨s, hs, fun role => ⟨hsettles role, ?_⟩⟩
  have hlast : (Layer.defaults.verifier role).name = none := by cases role <;> rfl
  rw [(hsettles role).byField_iff]
  -- A command alone is the one in force, and the name is then that of its program.
  have hname : ∀ line, above.verifier role = { command := some line } →
      (s.verifier role).name = Command.displayName line := by
    intro line hline
    obtain ⟨line', hline', -, hname⟩ := hsettles role
    rw [Layer.overDefaults, hline] at hline' hname
    rw [hname]
    cases hline'
    rfl
  constructor
  · intro h line n hline hn
    obtain ⟨hfirst, hlower⟩ := (lowerName?_of_two hlast).mpr ⟨⟨line, hline⟩, hn⟩
    rw [h hfirst n hlower, hname line hline]
  · intro h hfirst n hlower
    obtain ⟨⟨line, hline⟩, hn⟩ := (lowerName?_of_two hlast).mp ⟨hfirst, hlower⟩
    rw [h line n hline hn, hname line hline]

theorem ofText?_reference (field value : String) (hne : field.toList ≠ [])
    (hfield : ∀ c ∈ field.toList, Toml.isKeyChar c = true) (hvalue : value.toList ≠ [])
    (hvalue' : ∀ c ∈ value.toList, Toml.isLiteralChar c = true) :
    Layer.ofText? ("reference." ++ field ++ "='" ++ value ++ "'") =
      (Layer.addToVerifier? {} (field, .text value)).map fun v => { reference := v } := by
  have htext : "reference." ++ field ++ "='" ++ value ++ "'" =
      .ofList ("reference".toList ++
        '.' :: (field.toList ++ '=' :: '\'' :: (value.toList ++ ['\'']))) := by
    rw [← String.toList_inj]
    simp
  rw [Layer.ofText?, htext, Toml.parse?_dotted (by decide) (List.all_eq_true.mp (by decide)) hne
    hfield hvalue hvalue']
  simp only [String.ofList_toList, Option.bind_some, Layer.ofEntries?, List.foldlM_cons,
    List.foldlM_nil, Layer.add?, Layer.verifier?]
  cases Layer.addToVerifier? {} (field, .text value) <;> rfl

theorem ofFile_reference {path : OsString} (field value : String) {v : VerifierLayer}
    (hread : read path = .text ("reference." ++ field ++ "='" ++ value ++ "'"))
    (hne : field.toList ≠ []) (hfield : field.toList.all Toml.isKeyChar = true)
    (hvalue : value.toList ≠ []) (hvalue' : value.toList.all Toml.isLiteralChar = true)
    (hv : Layer.addToVerifier? {} (field, .text value) = some v) :
    Layer.ofFile read path = .ok { reference := v } := by
  refine Layer.ofFile_eq_ok_iff.mpr (Or.inr ⟨_, hread, ?_⟩)
  rw [ofText?_reference field value hne (List.all_eq_true.mp hfield) hvalue
    (List.all_eq_true.mp hvalue'), hv]
  rfl

/-- The user's file gives a command and the project's file a name: both stay. -/
theorem ofFiles_byField_iff_of_command_and_name :
    let read : OsString → FileText := fun path =>
      if path = "project.toml" then .text "reference.name='libewf'"
      else .text "reference.command='ewfverify -q -d sha1'"
    let below : Layer := { reference := { command := some "ewfverify -q -d sha1" } }
    let above : Layer := { reference := { name := some "libewf" } }
    Layer.ofFile read "user.toml" = .ok below ∧ Layer.ofFile read "project.toml" = .ok above ∧
      ∃ s, ofFiles read (some "user.toml") (some "project.toml") = .ok s ∧
        ∀ role, ByField (above.overDefaults below role) (s.verifier role) := by
  intro read below above
  have hbelow : Layer.ofFile read "user.toml" = .ok below :=
    ofFile_reference "command" "ewfverify -q -d sha1" rfl (by decide) (by decide) (by decide)
      (by decide) rfl
  have habove : Layer.ofFile read "project.toml" = .ok above :=
    ofFile_reference "name" "libewf" rfl (by decide) (by decide) (by decide) (by decide) rfl
  obtain ⟨s, hs, h⟩ := ofFiles_byField_iff hbelow habove
  refine ⟨hbelow, habove, s, hs, fun role => (h role).2.mpr fun line n hline => ?_⟩
  cases role <;> cases hline

/-- **A name is taken back:** the user's file gives one and the project's file gives a command. -/
theorem not_byField_of_name_and_command :
    let read : OsString → FileText := fun path =>
      if path = "project.toml" then .text "reference.command='/opt/ewfverify -q'"
      else .text "reference.name='libewf'"
    let below : Layer := { reference := { name := some "libewf" } }
    let above : Layer := { reference := { command := some "/opt/ewfverify -q" } }
    Layer.ofFile read "user.toml" = .ok below ∧ Layer.ofFile read "project.toml" = .ok above ∧
      ∃ s, ofFiles read (some "user.toml") (some "project.toml") = .ok s ∧
        s.reference = { name := "ewfverify", command := "/opt/ewfverify -q" } ∧
        ¬ ByField (above.overDefaults below .reference) s.reference := by
  intro read below above
  have hbelow : Layer.ofFile read "user.toml" = .ok below :=
    ofFile_reference "name" "libewf" rfl (by decide) (by decide) (by decide) (by decide) rfl
  have habove : Layer.ofFile read "project.toml" = .ok above :=
    ofFile_reference "command" "/opt/ewfverify -q" rfl (by decide) (by decide) (by decide)
      (by decide) rfl
  obtain ⟨s, hs, h⟩ := exists_ofFiles hbelow habove
  have hreference : s.reference = { name := "ewfverify", command := "/opt/ewfverify -q" } :=
    (h .reference).unique ⟨"/opt/ewfverify -q", rfl, by decide +kernel, by decide +kernel⟩
  refine ⟨hbelow, habove, s, hs, hreference, ?_⟩
  rw [hreference]
  rintro ⟨line, -, -, hname⟩
  have hname : "ewfverify" = "libewf" := hname
  exact absurd hname (by decide)

end Settings

end CrossCheck
