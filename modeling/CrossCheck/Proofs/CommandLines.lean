import CrossCheck.Proofs.RunErrors
import CrossCheck.Proofs.Words
import CrossCheck.Verifier

/-! # Command lines

A command line is read in three places: the name of a verifier is taken from it, settings are
checked for it, and the verifier is started by it. They agree, for any white space
(`command_line_exact`). The line is kept trimmed, and trimming leaves its words
(`words_ofCommand`); the first word is started with the others and the path of the image
(`verify_of_words`), and the last part of the first word is the name. A line without words is found
by the check exactly if starting it would fail for lack of a command (`fault?_eq_emptyCommand_iff`,
`execute_error_iff`), so no run ends in this failure. -/

namespace CrossCheck

open Text

/-! ### The last part of a path -/

namespace Path

theorem exists_afterLast {α : Type} (p : α → Bool) (s : List α) :
    ∃ before, s = before ++ afterLast p s ∧ (∀ c ∈ before.getLast?, p c = true) ∧
      ∀ c ∈ afterLast p s, p c = false := by
  refine ⟨(s.reverse.dropWhile fun c => !p c).reverse, ?_, fun c hc => ?_, fun c hc => ?_⟩
  · rw [afterLast, ← List.reverse_append, List.takeWhile_append_dropWhile, List.reverse_reverse]
  · rw [List.getLast?_reverse] at hc
    simpa using head?_dropWhile c hc
  · simpa using List.mem_takeWhile_imp (List.mem_reverse.mp hc)

end Path

/-! ### Words of a command line -/

namespace VerifierSettings

theorem words_ofCommand (line : String) :
    Text.words (ofCommand line).command.toList = Text.words line.toList := by
  rw [ofCommand, String.toList_ofList, words_trim]

theorem ofCommand_ofCommand (line : String) :
    ofCommand (ofCommand line).command = ofCommand line := by
  have hname : Command.displayName (ofCommand line).command = Command.displayName line := by
    rw [Command.displayName, words_ofCommand, ← Command.displayName]
  have htrim : trim (ofCommand line).command.toList = trim line.toList := by
    rw [ofCommand, String.toList_ofList, trim_trim]
  rw [ofCommand, hname, htrim, ← ofCommand]

theorem name_ofCommand {line : String} {w : List Char} {ws : List (List Char)}
    (h : Words line.toList (w :: ws)) : (ofCommand line).name = .ofList (Path.baseName w) := by
  rw [ofCommand, Command.displayName, h.words_eq, List.headD_cons]

end VerifierSettings

namespace Command

variable {line : String}

theorem ofLine?_of_words {w : List Char} {ws : List (List Char)}
    (h : Text.words line.toList = w :: ws) (more : List OsString) :
    ofLine? line more = some ⟨.ofList w, ws.map (fun w => .ofText (.ofList w)) ++ more⟩ := by
  rw [ofLine?, words, h, List.map_cons]
  simp only [List.map_map, Function.comp_def]

theorem ofLine?_of_no_words (h : Text.words line.toList = []) (more : List OsString) :
    ofLine? line more = none := by
  rw [ofLine?, words, h, List.map_nil]

end Command

/-! ### Starting a command line -/

section Start
variable {m : Type → Type} [Monad m] (start : Command → m (Except String Child))

theorem execute_of_no_words {line : String} (h : Text.words line.toList = [])
    (more : List OsString) : execute start line more = pure (.error .emptyCommand) := by
  rw [execute, Command.ofLine?_of_no_words h]

/-- What the start of a program comes to. -/
def launched (program : String) : Except String Child → Except LaunchError Execution
  | .error cause => .error (.notStarted program cause)
  | .ok child => child.collect

theorem Child.collect_ne (c : Child) : c.collect ≠ .error .emptyCommand := by
  unfold collect
  split <;> simp

theorem launched_ne (program : String) (r : Except String Child) :
    launched program r ≠ .error .emptyCommand := by
  rcases r with cause | child
  · simp [launched]
  · exact child.collect_ne

theorem execute_of_words [LawfulMonad m] {line : String} {w : List Char} {ws : List (List Char)}
    (h : Text.words line.toList = w :: ws) (more : List OsString) :
    execute start line more = launched (.ofList w) <$>
      start ⟨.ofList w, ws.map (fun w => .ofText (.ofList w)) ++ more⟩ := by
  rw [execute, Command.ofLine?_of_words h, map_eq_pure_bind]
  refine bind_congr fun r => ?_
  cases r <;> rfl

/-- What a verifier of the settings says about an image once its program was started. -/
def Settings.answer (s : Settings) (role : Role) (path : OsString) (program : String)
    (r : Except String Child) : Except VerifierError Finding :=
  match launched program r with
  | .error cause => .error { name := (s.verifier role).name, path, cause }
  | .ok x => .ok (x.finding s.extract)

theorem Settings.cause_ne_of_answer {s : Settings} {role : Role} {path : OsString}
    {program : String} {r : Except String Child} {e : VerifierError}
    (h : s.answer role path program r = .error e) : e.cause ≠ .emptyCommand := by
  unfold answer at h
  rcases hr : launched program r with cause | x
  · rw [hr] at h
    cases h
    exact fun hcause => launched_ne program r (hcause ▸ hr)
  · rw [hr] at h
    cases h

/-- **A verifier is started** once, by the words of its command and the path of the image. -/
theorem verify_of_words [LawfulMonad m] {s : Settings} {role : Role} {w : List Char}
    {ws : List (List Char)} (h : Text.words (s.verifier role).command.toList = w :: ws)
    (path : OsString) :
    verify start s role path =
      s.answer role path (.ofList w) <$>
        start ⟨.ofList w, ws.map (fun w => .ofText (.ofList w)) ++ [path]⟩ := by
  rw [verify, execute_of_words start h, bind_map_left, map_eq_pure_bind]
  refine bind_congr fun r => ?_
  unfold Settings.answer
  cases launched (.ofList w) r <;> rfl

end Start

/-! ### Empty commands -/

namespace Settings

variable {s : Settings}

/-- **The check of settings** finds a command without words, the reference's first. -/
theorem fault?_eq_emptyCommand_iff {role : Role} :
    s.fault? = some (.emptyCommand role) ↔
      Text.words (s.verifier role).command.toList = [] ∧
        (role = .candidate → Text.words (s.verifier .reference).command.toList ≠ []) := by
  have hblank : ∀ r, (trim (s.verifier r).command.toList).isEmpty = true ↔
      Text.words (s.verifier r).command.toList = [] := fun r => by
    rw [List.isEmpty_iff, trim_eq_nil_iff]
  have hr := hblank .reference
  have hc := hblank .candidate
  simp only [verifier] at hr hc
  unfold fault?
  simp only [hr, hc]
  by_cases h1 : Text.words s.reference.command.toList = []
  · cases role <;> simp [verifier, h1]
  by_cases h2 : Text.words s.candidate.command.toList = []
  · cases role <;> simp [verifier, h1, h2]
  · rw [if_neg h1, if_neg h2]
    cases role <;> split_ifs <;> simp [verifier, h1, h2]

theorem words_ne_nil_of_no_fault (h : s.fault? = none) (role : Role) :
    Text.words (s.verifier role).command.toList ≠ [] := by
  have hr : Text.words (s.verifier .reference).command.toList ≠ [] := by
    intro hnil
    rw [fault?_eq_emptyCommand_iff.mpr ⟨hnil, fun hrole => by cases hrole⟩] at h
    cases h
  cases role with
  | reference => exact hr
  | candidate =>
    intro hnil
    rw [fault?_eq_emptyCommand_iff.mpr ⟨hnil, fun _ => hr⟩] at h
    cases h

end Settings

section State
variable {σ : Type}

/-- Running a command line fails for lack of a command exactly if it has no words. -/
theorem execute_error_iff (start : Command → StateM σ (Except String Child)) (line : String)
    (more : List OsString) (st : σ) :
    ((execute start line more).run st).1 = .error .emptyCommand ↔ Text.words line.toList = [] := by
  rcases h : Text.words line.toList with _ | ⟨w, ws⟩
  · rw [execute_of_no_words start h]
    exact iff_of_true rfl rfl
  · rw [execute_of_words start h, StateT.run_map]
    exact iff_of_false (launched_ne _ _) (List.cons_ne_nil w ws)

theorem cause_ne_of_verify (start : Command → StateM σ (Except String Child)) {s : Settings}
    {role : Role} (h : Text.words (s.verifier role).command.toList ≠ []) (path : OsString) (st : σ)
    (e : VerifierError) (he : ((verify start s role path).run st).1 = .error e) :
    e.cause ≠ .emptyCommand := by
  obtain ⟨w, ws, hw⟩ := List.exists_cons_of_ne_nil h
  rw [verify_of_words start hw, StateT.run_map] at he
  exact Settings.cause_ne_of_answer he

end State

/-- Running the command of a verifier on an image fails for lack of a command. -/
def VerifierSettings.LacksCommand {σ : Type} (v : VerifierSettings)
    (start : Command → StateM σ (Except String Child)) (path : OsString) (st : σ) : Prop :=
  ((execute start v.command [path]).run st).1 = .error .emptyCommand

theorem settings_eq_emptyCommand_iff {σ : Type} {site : Site} {a : Arguments} {s : Settings}
    {directory : OsString} (hd : site.directory = .ok directory)
    (h : Run.resolve site directory a = .ok s) (start : Command → StateM σ (Except String Child))
    (path : OsString) (st : σ) (role : Role) :
    Run.settings (ε := VerifierError) site a = .error (.settings (.emptyCommand role)) ↔
      (s.verifier role).LacksCommand start path st ∧
        (role = .candidate → ¬ (s.verifier .reference).LacksCommand start path st) := by
  simp only [Run.settings_eq_error_iff hd h, Settings.fault?_eq_emptyCommand_iff,
    VerifierSettings.LacksCommand, execute_error_iff, Ne]

/-- **Command lines** are run as they are configured and named after what runs. A verifier whose
command is kept from a line with words is started by the first of them, with the others and the path
as its arguments. The kept command has the same words and is a command line for the same verifier;
the name is what follows the last separator in the first word. The settings of a run are rejected
for an empty command exactly if running one would fail for lack of a command, and a run never ends
in that. -/
theorem command_line_exact :
    (∀ (line : String) (w : List Char) (ws : List (List Char)), Words line.toList (w :: ws) →
      let v := VerifierSettings.ofCommand line
      Words v.command.toList (w :: ws) ∧ VerifierSettings.ofCommand v.command = v ∧
      (∃ before name, w = before ++ name ∧ (∀ c ∈ before.getLast?, Path.isSeparator c = true) ∧
        (∀ c ∈ name, Path.isSeparator c = false ∧ isWhitespace c = false) ∧
        v.name = .ofList name) ∧
      ∀ (m : Type → Type) [Monad m] [LawfulMonad m] (start : Command → m (Except String Child))
        (s : Settings) (role : Role) (path : OsString), (s.verifier role).command = v.command →
          verify start s role path =
            s.answer role path (.ofList w) <$>
              start ⟨.ofList w, ws.map (fun w => .ofText (.ofList w)) ++ [path]⟩) ∧
    (∀ (site : Site) (directory : OsString) (a : Arguments) (s : Settings),
      site.directory = .ok directory → Run.resolve site directory a = .ok s →
      ∀ (σ : Type) (start : Command → StateM σ (Except String Child)) (path : OsString) (st : σ),
        ((∃ role, Run.settings (ε := VerifierError) site a =
            .error (.settings (.emptyCommand role))) ↔
          ∃ role, (s.verifier role).LacksCommand start path st) ∧
        ∀ role, Run.settings (ε := VerifierError) site a =
            .error (.settings (.emptyCommand role)) ↔
          (s.verifier role).LacksCommand start path st ∧
            (role = .candidate → ¬ (s.verifier .reference).LacksCommand start path st)) ∧
    ∀ (site : Site) (a : Arguments) (σ : Type) (start : Command → StateM σ (Except String Child))
      (st : σ) (name : String) (path : OsString),
      ((run site (verify start) a).run st).1.ending ≠
        .error (.verifier { name, path, cause := .emptyCommand }) := by
  refine ⟨fun line w ws h => ?_, fun site directory a s hd hs σ start path st => ?_,
    fun site a σ start st name path he => ?_⟩
  · intro v
    have hwords : Text.words v.command.toList = w :: ws :=
      (VerifierSettings.words_ofCommand line).trans h.words_eq
    obtain ⟨before, hw, hbefore, hname⟩ := Path.exists_afterLast Path.isSeparator w
    have hsolid : ∀ c ∈ w, isWhitespace c = false := (h.solid w List.mem_cons_self).2
    refine ⟨words_eq_iff.mp hwords, VerifierSettings.ofCommand_ofCommand line,
      ⟨before, _, hw, hbefore, fun c hc => ⟨hname c hc, ?_⟩, VerifierSettings.name_ofCommand h⟩, ?_⟩
    · refine hsolid c ?_
      rw [hw]
      exact List.mem_append_right before hc
    · intro m _ _ start s role path hcommand
      exact verify_of_words start (hcommand ▸ hwords) path
  · have hrole := settings_eq_emptyCommand_iff hd hs start path st
    refine ⟨⟨fun ⟨role, h⟩ => ⟨role, ((hrole role).mp h).1⟩, fun ⟨role, h⟩ => ?_⟩, hrole⟩
    -- the reference's command is looked at first
    by_cases href : (s.verifier .reference).LacksCommand start path st
    · exact ⟨.reference, (hrole .reference).mpr ⟨href, fun h => by cases h⟩⟩
    · exact ⟨role, (hrole role).mpr ⟨h, fun _ => href⟩⟩
  · refine error_of_run (P := fun e => e.cause ≠ .emptyCommand) ?_ st _ he rfl
    exact fun s hs role path st e he =>
      cause_ne_of_verify start (Settings.words_ne_nil_of_no_fault hs role) path st e he

/-- The reference's line has white space of all kinds and separators of both kinds; the candidate's
has nothing but white space. -/
theorem command_line_exact_of_odd_lines :
    let line := "\u3000C:\\tools/ewf\\verify.exe\u0085-q\t\u2028"
    let blank := "\u2028\t"
    let w := "C:\\tools/ewf\\verify.exe".toList
    let a : Arguments := { path := "case 1", reference := some line, candidate := some blank }
    let s : Settings := { reference := .ofCommand line, candidate := .ofCommand blank }
    let start : Command → StateM (List Command) (Except String Child) :=
      fun c log => (.error "not there", log ++ [c])
    Words line.toList [w, "-q".toList] ∧ Run.resolve .small "/" a = .ok s ∧
      s.reference.name = "verify.exe" ∧
      ((verify start s .reference "case 1/x.E01").run []).2 =
        [⟨"C:\\tools/ewf\\verify.exe", ["-q", "case 1/x.E01"]⟩] ∧
      Run.settings (ε := VerifierError) .small a =
        .error (.settings (.emptyCommand .candidate)) := by
  intro line blank w a s start
  have hwords : Words line.toList [w, "-q".toList] := words_eq_iff.mp (by decide +kernel)
  have hresolve : Run.resolve .small "/" a = .ok s := by
    unfold Run.resolve
    rfl
  refine ⟨hwords, hresolve, by decide +kernel, ?_, ?_⟩
  · rw [(command_line_exact.1 line w _ hwords).2.2.2 _ start s .reference "case 1/x.E01" rfl]
    decide +kernel
  · rw [(command_line_exact.2.1 .small "/" a s rfl hresolve _ start "case 1/x.E01" []).2 .candidate]
    refine ⟨?_, fun _ => ?_⟩
    · exact (execute_error_iff start _ _ _).mpr (by decide +kernel)
    · exact fun h => absurd ((execute_error_iff start _ _ _).mp h) (by decide +kernel)

end CrossCheck
