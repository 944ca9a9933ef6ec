import CrossCheck.Proofs.Observation
import CrossCheck.Proofs.Statements

/-! # Layers of settings

The settings of a run are made of five layers (`Run.stack`): from the highest, the options of the
command line, the environment variables, the project's file, the user's file and the defaults. They
are read off this list from its top (`Settles`):

* the extensions and the way to find hashes are those of the first layer that gives any;
* the command of a verifier is that of the first layer that gives one;
* the name of a verifier is the first one given down to the layer of the command, and without one it
  is that of the program.

The layers are applied one by one from the bottom. What one layer changes is what it does on top of
a list (`Settles.apply`), so the run leaves what the list says (`resolve_settles`). -/

namespace CrossCheck

/-! ### The layers of a run -/

namespace Layer

/-- What a layer says about a verifier. -/
def verifier (l : Layer) : Role → VerifierLayer
  | .reference => l.reference
  | .candidate => l.candidate

/-- What holds if nothing else is said. -/
def defaults : Layer where
  reference := { command := some "ewfverify -q" }
  candidate := { command := some "e01verify" }
  extensions := some ["e01"]
  extract := some .tokens

/-- What environment variables say. A variable counts even if it is empty. -/
def ofVariables (env : Environment) : Layer where
  reference := { command := env "EVERIFY_REFERENCE" }
  candidate := { command := env "EVERIFY_CANDIDATE" }

/-- What options say. Extensions count if there is any. -/
def ofOptions (a : Arguments) : Layer where
  reference := { command := a.reference }
  candidate := { command := a.candidate }
  extensions := if a.extensions.isEmpty then none else some a.extensions
  extract := a.extract

theorem ofFile_eq_ok_iff {read : OsString → FileText} {path : OsString} {l : Layer} :
    ofFile read path = .ok l ↔
      read path = .absent ∧ l = {} ∨ ∃ t, read path = .text t ∧ ofText? t = some l := by
  unfold ofFile
  rcases read path with _ | _ | t
  · simp [eq_comm]
  · simp
  · rcases h : ofText? t with _ | l' <;> simp [h]

/-- What the user's file says, if there is a place for it. -/
def ofUser (site : Site) : Except LoadError Layer :=
  match Settings.userFile? site.env site.configDirectory with
  | none => .ok {}
  | some path => ofFile site.read path

/-- What the file of the project in a directory says. -/
def ofProject (site : Site) (directory : OsString) : Except LoadError Layer :=
  ofFile site.read (Settings.projectFile directory)

end Layer

/-- **The layers of a run** in a directory, the highest first. -/
def Run.stack (site : Site) (directory : OsString) (a : Arguments) :
    Except LoadError (List Layer) := do
  let user ← Layer.ofUser site
  let project ← Layer.ofProject site directory
  return [.ofOptions a, .ofVariables site.env, project, user, .defaults]

/-! ### Reading a list of layers -/

namespace VerifierLayer

/-- The first command that is given. -/
def firstCommand? (vs : List VerifierLayer) : Option String :=
  vs.findSome? command

/-- The first name that is given down to the layer of the first command, that one included. -/
def firstName? (vs : List VerifierLayer) : Option String :=
  (upTo (fun v => v.command.isSome) vs).findSome? name

/-- The verifier is what the layers say, the highest first. -/
def Settles (vs : List VerifierLayer) (v : VerifierSettings) : Prop :=
  ∃ line, firstCommand? vs = some line ∧ v.command = .ofList (Text.trim line.toList) ∧
    v.name = (firstName? vs).getD (Command.displayName line)

theorem Settles.apply {vs : List VerifierLayer} {v : VerifierSettings} (h : Settles vs v)
    (l : VerifierLayer) : Settles (l :: vs) (v.apply l) := by
  rcases hl : l.command with _ | line
  · obtain ⟨line, hline, hcommand, hname⟩ := h
    have hfirst : firstName? (l :: vs) = (l.name <|> firstName? vs) := by
      cases hn : l.name <;> simp [firstName?, upTo, hl, hn]
    refine ⟨line, ?_, ?_, ?_⟩
    · rw [firstCommand?, List.findSome?_cons_of_isNone (by simp [hl])]
      exact hline
    · simp only [VerifierSettings.apply, hl, hcommand]
    · simp only [VerifierSettings.apply, hl, hname, hfirst]
      cases l.name <;> rfl
  · -- A command of its own: the layers below do not matter.
    refine ⟨line, ?_, ?_, ?_⟩
    · simp [firstCommand?, hl]
    · simp only [VerifierSettings.apply, hl]
      rfl
    · simp only [VerifierSettings.apply, hl, firstName?, upTo]
      cases hn : l.name <;> simp [hn, VerifierSettings.ofCommand]

theorem Settles.unique {vs : List VerifierLayer} {v w : VerifierSettings} (hv : Settles vs v)
    (hw : Settles vs w) : v = w := by
  obtain ⟨line, hline, hvc, hvn⟩ := hv
  obtain ⟨line', hline', hwc, hwn⟩ := hw
  obtain rfl : line = line' := Option.some.inj (hline.symm.trans hline')
  obtain ⟨_, _⟩ := v
  obtain ⟨_, _⟩ := w
  exact VerifierSettings.mk.injEq .. ▸ ⟨hvn.trans hwn.symm, hvc.trans hwc.symm⟩

end VerifierLayer

/-- **The settings are what the layers say,** the highest first. -/
structure Layer.Settles (ls : List Layer) (s : Settings) : Prop where
  extensions : ∃ es, ls.findSome? Layer.extensions = some es ∧ s.extensions = normalExtensions es
  extract : ls.findSome? Layer.extract = some s.extract
  verifier : ∀ role, VerifierLayer.Settles (ls.map fun l => l.verifier role) (s.verifier role)

namespace Layer

theorem settles_defaults : Settles [defaults] {} where
  extensions := ⟨["e01"], rfl, by decide⟩
  extract := rfl
  verifier role := by
    cases role
    · exact ⟨"ewfverify -q", rfl, rfl, rfl⟩
    · exact ⟨"e01verify", rfl, rfl, rfl⟩

/-- **One more layer on top** changes the settings as applying it does. -/
theorem Settles.apply {ls : List Layer} {s : Settings} (h : Settles ls s) (l : Layer) :
    Settles (l :: ls) (s.apply l) where
  extensions := by
    rcases he : l.extensions with _ | es
    · obtain ⟨es, hes, hs⟩ := h.extensions
      refine ⟨es, ?_, ?_⟩
      · rw [List.findSome?_cons_of_isNone (by simp [he]), hes]
      · simp [Settings.apply, he, hs]
    · exact ⟨es, by simp [he], by simp [Settings.apply, he]⟩
  extract := by
    rcases he : l.extract with _ | m
    · rw [List.findSome?_cons_of_isNone (by simp [he]), h.extract]
      simp [Settings.apply, he]
    · simp [Settings.apply, he]
  verifier role := by
    have hrole : (s.apply l).verifier role = (s.verifier role).apply (l.verifier role) := by
      cases role <;> rfl
    rw [List.map_cons, hrole]
    exact (h.verifier role).apply _

/-- The command line and the environment make two layers, the one over the other. -/
theorem apply_layer (s : Settings) (a : Arguments) (env : Environment) :
    s.apply (a.layer env) = (s.apply (ofVariables env)).apply (ofOptions a) := by
  have hverifier : ∀ (v : VerifierSettings) (c c' : Option String),
      v.apply { command := c <|> c' } = (v.apply { command := c' }).apply { command := c } := by
    rintro v (_ | _) (_ | _) <;> rfl
  unfold Settings.apply
  simp only [Arguments.layer, ofVariables, ofOptions, hverifier]
  rfl

/-! ### What one verifier does not change -/

/-- Two lists of layers that differ at most in what they say about one verifier. -/
structure SameBut (role : Role) (ls ls' : List Layer) : Prop where
  extensions : ls.map Layer.extensions = ls'.map Layer.extensions
  extract : ls.map Layer.extract = ls'.map Layer.extract
  verifier : ∀ r ≠ role, (ls.map fun l => l.verifier r) = ls'.map fun l => l.verifier r

theorem Settles.congr {role : Role} {ls ls' : List Layer} {s s' : Settings} (h : Settles ls s)
    (h' : Settles ls' s') (hsame : SameBut role ls ls') :
    s'.extensions = s.extensions ∧ s'.extract = s.extract ∧
      ∀ r ≠ role, s'.verifier r = s.verifier r := by
  refine ⟨?_, ?_, fun r hr => ?_⟩
  · obtain ⟨es, hes, hs⟩ := h.extensions
    obtain ⟨es', hes', hs'⟩ := h'.extensions
    rw [findSome?_congr_map hsame.extensions, hes'] at hes
    rw [hs, hs', Option.some.inj hes]
  · have he := h.extract
    rw [findSome?_congr_map hsame.extract, h'.extract] at he
    exact Option.some.inj he
  · have hv := h.verifier r
    rw [hsame.verifier r hr] at hv
    exact (h'.verifier r).unique hv

end Layer

/-! ### The settings of a run -/

theorem Settings.userFile?_eq {env : Environment} {directory : String}
    (h : env directoryVariable = some directory) (hne : directory.isEmpty = false)
    (common : Option OsString) : userFile? env common = some (Path.join directory fileName) := by
  unfold userFile? userDirectory?
  rw [h, Option.filter_some_pos (by simp [hne])]
  rfl

/-- What a run sees if a file with the given text stands wherever there is none. -/
def Site.filled (site : Site) (t : String) : Site :=
  { site with read := fun path =>
      if site.read path = .absent then .text t else site.read path }

namespace Run

/-- Files are applied to the defaults, the user's first. -/
theorem load_eq (site : Site) (directory : OsString) :
    Settings.load site.read site.env site.configDirectory directory = do
      let user ← Layer.ofUser site
      let project ← Layer.ofProject site directory
      return (({} : Settings).apply user).apply project := by
  unfold Settings.load Settings.ofFiles Layer.ofUser Layer.ofProject
  rcases Settings.userFile? site.env site.configDirectory with _ | path
  · simp only [Option.toList_none, Option.toList_some, List.nil_append, List.mapM_cons,
      List.mapM_nil]
    rcases Layer.ofFile site.read (Settings.projectFile directory) with e | p <;> rfl
  · simp only [Option.toList_some, List.singleton_append, List.mapM_cons, List.mapM_nil]
    rcases Layer.ofFile site.read path with e | u
    · rfl
    · rcases Layer.ofFile site.read (Settings.projectFile directory) with e | p <;> rfl

theorem exists_resolve {site : Site} {directory : OsString} {a : Arguments} {ls : List Layer}
    (h : stack site directory a = .ok ls) :
    ∃ s, resolve site directory a = .ok s ∧ Layer.Settles ls s := by
  unfold stack at h
  unfold resolve
  rw [load_eq]
  rcases hu : Layer.ofUser site with e | user
  · rw [hu] at h
    cases h
  rcases hp : Layer.ofProject site directory with e | project
  · rw [hu, hp] at h
    cases h
  rw [hu, hp] at h
  cases h
  refine ⟨_, rfl, ?_⟩
  rw [Layer.apply_layer]
  exact (((Layer.settles_defaults.apply user).apply project).apply _).apply _

theorem ofFile_filled (site : Site) {t : String} (ht : Layer.ofText? t = some {})
    (path : OsString) :
    Layer.ofFile (site.filled t).read path = Layer.ofFile site.read path := by
  unfold Layer.ofFile Site.filled
  rcases h : site.read path with _ | _ | u <;> simp [h, ht]

theorem resolve_filled (site : Site) (directory : OsString) (a : Arguments) {t : String}
    (ht : Layer.ofText? t = some {}) :
    resolve (site.filled t) directory a = resolve site directory a := by
  have huser : Layer.ofUser (site.filled t) = Layer.ofUser site := by
    unfold Layer.ofUser
    simp only [ofFile_filled site ht]
    rfl
  have hproject : Layer.ofProject (site.filled t) directory = Layer.ofProject site directory :=
    ofFile_filled site ht _
  unfold resolve
  rw [load_eq, load_eq, huser, hproject]
  rfl

/-- **The settings of a run are what its layers say.** Whatever is changed about one verifier, in
any of the layers, the other verifier, the extensions and the way to find hashes stay. A file that
is absent is like one that says nothing. -/
theorem resolve_settles (site : Site) (directory : OsString) (a : Arguments) {ls : List Layer}
    (h : stack site directory a = .ok ls) :
    ∃ s, resolve site directory a = .ok s ∧ Layer.Settles ls s ∧
      (∀ (site' : Site) (directory' : OsString) (a' : Arguments) (ls' : List Layer) (role : Role),
        stack site' directory' a' = .ok ls' → Layer.SameBut role ls ls' →
          ∃ s', resolve site' directory' a' = .ok s' ∧ s'.extensions = s.extensions ∧
            s'.extract = s.extract ∧ ∀ r ≠ role, s'.verifier r = s.verifier r) ∧
      ∀ t, Layer.ofText? t = some {} → resolve (site.filled t) directory a = .ok s := by
  obtain ⟨s, hs, hsettles⟩ := exists_resolve h
  refine ⟨s, hs, hsettles, fun site' directory' a' ls' role h' hsame => ?_, fun t ht => ?_⟩
  · obtain ⟨s', hs', hsettles'⟩ := exists_resolve h'
    exact ⟨s', hs', hsettles.congr hsettles' hsame⟩
  · rw [resolve_filled site directory a ht, hs]

theorem ofText?_empty : Layer.ofText? "" = some {} := by decide +kernel

theorem ofText?_extract :
    Layer.ofText? "extract='labelled'" = some { extract := some .labelled } := by
  let value := ['\'', 'l', 'a', 'b', 'e', 'l', 'l', 'e', 'd', '\'']
  let text := ['e', 'x', 't', 'r', 'a', 'c', 't', '='] ++ value
  have hk : Toml.key? [] text (Nat.le_refl _) = some (["extract"], ⟨'=' :: value, by decide⟩) := by
    simp [text, value, Toml.key?, Toml.keyPart?, Toml.isKeyChar, Text.isBlank, Toml.maxKeyParts]
  have he : Toml.equals? false ('=' :: value) = some ⟨value, by decide⟩ := by decide
  have hv : Toml.value? Toml.maxLevels value (Nat.le_refl _) =
      some (.text "labelled", ⟨[], by decide⟩) := by
    simp [value, Toml.value?, Toml.string?, Toml.literal?, Toml.isTriple, Toml.isPlain,
      Toml.maxLevels]
  obtain ⟨h, hst⟩ := Toml.statement?_of_entry (by decide) hk he hv rfl
  have hgap : Toml.skipGap text = text := by simp [text, value, Toml.skipGap, Text.isBlank]
  have hs : Toml.statements? "extract='labelled'".toList =
      some [.entry ["extract"] (.text "labelled")] :=
    (Toml.statementsFrom?_cons hgap hst).trans (Toml.statementsFrom?_nil _)
  unfold Layer.ofText? Toml.Document.parse?
  rw [hs]
  decide +kernel

/-- The user's file says how to find hashes, there is no project's file, and the command of the
candidate is given by a variable that is set to nothing, or is not given. -/
theorem resolve_settles_of_empty_variable :
    let env (candidate : Option String) : Environment := fun name =>
      if name = "EVERIFY_HOME" then some "/u"
      else if name = "EVERIFY_CANDIDATE" then candidate
      else none
    let site (candidate : Option String) : Site :=
      { env := env candidate, directory := .ok "/", configDirectory := none
        read := fun path => if path = "/u/config.toml" then .text "extract='labelled'" else .absent
        look := fun _ => .directory [] }
    let a : Arguments :=
      { path := "case", reference := some " /opt/ref -q ", extensions := [".E01", ""] }
    let ls (candidate : Option String) : List Layer :=
      [{ reference := { command := some " /opt/ref -q " }, extensions := some [".E01", ""] },
        { candidate := { command := candidate } }, {}, { extract := some .labelled }, .defaults]
    stack (site (some "")) "/" a = .ok (ls (some "")) ∧ stack (site none) "/" a = .ok (ls none) ∧
      ∃ s, resolve (site (some "")) "/" a = .ok s ∧ Layer.Settles (ls (some "")) s ∧
        (∃ s', resolve (site none) "/" a = .ok s' ∧ s'.reference = s.reference) ∧
        resolve ((site (some "")).filled "") "/" a = .ok s := by
  intro env site a ls
  have hstack : ∀ candidate, stack (site candidate) "/" a = .ok (ls candidate) := by
    intro candidate
    have huser : Layer.ofUser (site candidate) = .ok { extract := some .labelled } := by
      have hfile : Settings.userFile? (env candidate) none = some "/u/config.toml" := by
        have hhome : env candidate Settings.directoryVariable = some "/u" := rfl
        rw [Settings.userFile?_eq hhome (by decide +kernel)]
        decide +kernel
      have hread : (site candidate).read "/u/config.toml" = .text "extract='labelled'" := rfl
      unfold Layer.ofUser
      rw [show Settings.userFile? (site candidate).env (site candidate).configDirectory =
        some "/u/config.toml" from hfile]
      exact Layer.ofFile_eq_ok_iff.mpr (Or.inr ⟨_, hread, ofText?_extract⟩)
    have hproject : Layer.ofProject (site candidate) "/" = .ok {} := by
      have hne : Settings.projectFile "/" ≠ "/u/config.toml" := by decide +kernel
      have hread : (site candidate).read (Settings.projectFile "/") = .absent := by
        simp only [site, hne, if_false]
      exact Layer.ofFile_eq_ok_iff.mpr (Or.inl ⟨hread, rfl⟩)
    unfold stack
    rw [huser, hproject]
    rfl
  obtain ⟨s, hs, hsettles, hother, habsent⟩ := resolve_settles _ _ _ (hstack (some ""))
  have hsame : Layer.SameBut .candidate (ls (some "")) (ls none) :=
    { extensions := rfl, extract := rfl
      verifier := fun r hr => by
        cases r
        · rfl
        · exact absurd rfl hr }
  obtain ⟨s', hs', -, -, hv⟩ := hother _ _ _ _ _ (hstack none) hsame
  exact ⟨hstack _, hstack _, s, hs, hsettles, ⟨s', hs', hv .reference (by decide)⟩,
    habsent "" ofText?_empty⟩

end Run

end CrossCheck
