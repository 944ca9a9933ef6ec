import CrossCheck.Proofs.ReportModes

/-! # Switches that only change what is shown

Traces, `verbose` and `exitZero` have no part in what a run does with the verifiers. A run is the
report (`Run.report`) on what it finds (`Run.examined`), and they matter to the report alone
(`run_eq_map_examined`). So with any verifiers, also such as change from one call to the next, they
leave the verdict as it is (`watch_switches`): each of them adds text (`Inserted`) or turns status 1
into 0. -/

namespace CrossCheck

/-! ### Text that is added -/

/-- **Added text:** `u` is `t` with the texts `ms` put in, in their order. -/
inductive Inserted : List String → String → String → Prop
  | refl (t : String) : Inserted [] t t
  | keep {ms : List String} {t u : String} (s : String) (h : Inserted ms t u) :
    Inserted ms (s ++ t) (s ++ u)
  | insert {ms : List String} {t u : String} (m : String) (h : Inserted ms t u) :
    Inserted (m :: ms) t (m ++ u)

namespace Inserted

variable {ms ns : List String} {t u v w : String}

theorem append (h : Inserted ms t u) (h' : Inserted ns v w) :
    Inserted (ms ++ ns) (t ++ v) (u ++ w) := by
  induction h with
  | refl t => exact h'.keep t
  | keep s _ ih =>
    rw [String.append_assoc, String.append_assoc]
    exact ih.keep s
  | insert m _ ih =>
    rw [String.append_assoc]
    exact ih.insert m

theorem append_right (h : Inserted ms t u) (v : String) : Inserted ms (t ++ v) (u ++ v) := by
  have h' := h.append (.refl v)
  rwa [List.append_nil] at h'

theorem join (ms : List String) : Inserted ms "" (String.join ms) := by
  induction ms with
  | nil => exact .refl ""
  | cons m ms ih =>
    rw [String.join_cons]
    exact ih.insert m

theorem join_map {α : Type} {ms : α → List String} {t u : α → String}
    (h : ∀ x, Inserted (ms x) (t x) (u x)) (xs : List α) :
    Inserted (xs.flatMap ms) (String.join (xs.map t)) (String.join (xs.map u)) := by
  induction xs with
  | nil => exact .refl ""
  | cons x xs ih =>
    rw [List.flatMap_cons, List.map_cons, List.map_cons, String.join_cons, String.join_cons]
    exact (h x).append ih

end Inserted

/-! ### What a run does, and what it reports -/

namespace Run

/-- The images that were examined to the end, each with its outcome. -/
def completed {ε : Type} :
    Except (RunError ε) (Settings × List (OsString × Examination ε)) → List (OsString × Outcome)
  | .error _ => []
  | .ok x => outcomes x.1 x.2

end Run

/-! ### Traces -/

namespace Trace

/-- The messages of a trace. -/
def messages {ε : Type} (s : Settings) (path : OsString) : Examination ε → List String
  | .referenceFailed _ => [before s.reference path]
  | .candidateFailed r _ =>
    [before s.reference path, after s.reference r, before s.candidate path]
  | .completed r c =>
    [before s.reference path, after s.reference r, before s.candidate path, after s.candidate c]

theorem join_messages {ε : Type} (s : Settings) (path : OsString) (x : Examination ε) :
    String.join (messages s path x) = ofExamination s path x := by
  cases x <;> simp [messages, ofExamination, String.append_assoc]

theorem exists_of_mem_messages {ε : Type} {s : Settings} {path : OsString} {x : Examination ε}
    {message : String} (h : message ∈ messages s path x) :
    ∃ text, message = tag ++ text ++ "\n" := by
  have hbefore : ∀ v : VerifierSettings, ∃ text, before v path = tag ++ text ++ "\n" := fun v =>
    ⟨"running: " ++ v.command ++ " " ++ path.display, by simp [before, String.append_assoc]⟩
  have hafter : ∀ (v : VerifierSettings) (f : Finding), ∃ text,
      after v f = tag ++ text ++ "\n" := fun v f =>
    ⟨v.name ++ ": exit code " ++ f.exitCode.repr ++ ", md5 " ++ pair f.hashes.md5 ++ ", sha1 " ++
      optionalPair f.hashes.sha1, by simp [after, String.append_assoc]⟩
  cases x with
  | referenceFailed e =>
    obtain rfl := List.mem_singleton.mp h
    exact hbefore _
  | candidateFailed r e =>
    simp only [messages, List.mem_cons, List.not_mem_nil, or_false] at h
    rcases h with rfl | rfl | rfl
    exacts [hbefore _, hafter _ _, hbefore _]
  | completed r c =>
    simp only [messages, List.mem_cons, List.not_mem_nil, or_false] at h
    rcases h with rfl | rfl | rfl | rfl
    exacts [hbefore _, hafter _ _, hbefore _, hafter _ _]

end Trace

/-- The machine with a value for the variable that asks for traces, or without one. -/
def Site.withDebug (site : Site) (value : Option String) : Site :=
  { site with env := fun name => if name = "EVERIFY_DEBUG" then value else site.env name }

namespace Run

variable {ε : Type}

theorem settings_withDebug (site : Site) (value : Option String) (a : Arguments) :
    settings (ε := ε) (site.withDebug value) a = settings site a := by
  have hfile : Settings.userFile? (site.withDebug value).env =
      Settings.userFile? site.env := rfl
  have hlayer : a.layer (site.withDebug value).env = a.layer site.env := rfl
  unfold settings resolve Settings.load
  rw [hfile, hlayer]
  rfl

theorem examined_withDebug {m : Type → Type} [Monad m] (site : Site)
    (verify : Settings → Role → OsString → m (Except ε Finding)) (value : Option String)
    (a : Arguments) : examined (site.withDebug value) verify a = examined site verify a := by
  unfold examined
  rw [settings_withDebug]
  rfl

theorem inserted_aside (site : Site) (a : Arguments) (value : String) (s : Settings)
    (x : OsString × Examination ε) :
    Inserted (Trace.messages s x.1 x.2) (aside (site.withDebug none) a s x)
      (aside (site.withDebug (some value)) a s x) := by
  have h := (Inserted.join (Trace.messages s x.1 x.2)).append_right
    (if a.json && a.verbose then reports (outcomes s [x]) true else "")
  rw [Trace.join_messages] at h
  exact h

end Run

variable {ε : Type}

/-- **What traces do:** messages are added to the error stream. -/
structure Transcript.Traced (off on : Transcript ε) : Prop where
  ending : on.ending = off.ending
  stdout : on.stdout = off.stdout
  stderr : ∃ messages, (∀ message ∈ messages, ∃ text, message = Trace.tag ++ text ++ "\n") ∧
    Inserted messages off.stderr on.stderr

theorem Run.traced_report (site : Site) (a : Arguments) (value : String)
    (r : Except (RunError ε) (Settings × List (OsString × Examination ε))) :
    (report (site.withDebug none) a r).Traced (report (site.withDebug (some value)) a r) := by
  cases r with
  | error e => exact ⟨rfl, rfl, [], by simp, .refl ""⟩
  | ok x =>
    obtain ⟨s, xs⟩ := x
    have hasides := Inserted.join_map (inserted_aside site a value s) xs
    have hmessages : ∀ message ∈ xs.flatMap fun x => Trace.messages s x.1 x.2,
        ∃ text, message = Trace.tag ++ text ++ "\n" := by
      intro message h
      obtain ⟨x, -, hx⟩ := List.mem_flatMap.mp h
      exact Trace.exists_of_mem_messages hx
    show (transcript (site.withDebug none) a s xs).Traced
      (transcript (site.withDebug (some value)) a s xs)
    cases he : xs.findSome? fun x => x.2.error? with
    | some e =>
      rw [transcript_of_error he, transcript_of_error he]
      exact ⟨rfl, rfl, _, hmessages, hasides⟩
    | none =>
      rw [transcript_of_no_error he, transcript_of_no_error he]
      exact ⟨rfl, rfl, _, hmessages, hasides.append_right (warned a.path (outcomes s xs).length)⟩

/-! ### Verbose reports -/

namespace Run

/-- The path lines of the images on which the verifiers agree. -/
def agreeing (os : List (OsString × Outcome)) : List String :=
  (os.filter fun o => !o.2.failed).map fun o => o.1.display ++ "\n"

theorem inserted_reports (os : List (OsString × Outcome)) :
    Inserted (agreeing os) (reports os false) (reports os true) := by
  have hone : ∀ o : OsString × Outcome, Inserted (if o.2.failed then [] else [o.1.display ++ "\n"])
      (o.2.report o.1 false) (o.2.report o.1 true) := by
    intro o
    cases hf : o.2.failed with
    | true => simpa [Outcome.report, hf] using Inserted.refl _
    | false => simpa [Outcome.report, hf] using (Inserted.refl "").insert (o.1.display ++ "\n")
  have hall : os.flatMap (fun o => if o.2.failed then [] else [o.1.display ++ "\n"]) =
      agreeing os := by
    induction os with
    | nil => rfl
    | cons o os ih =>
      rw [List.flatMap_cons, ih]
      cases hf : o.2.failed <;> simp [agreeing, hf]
  rw [← hall]
  exact Inserted.join_map hone os

end Run

/-- **What `verbose` does:** the text gets the paths of the images with agreement, and a summary at
its end if no error ended the run. Beside a JSON report it is the error stream that gets text, the
reports on all images. -/
structure Transcript.Verbose (json : Bool) (os : List (OsString × Outcome))
    (off on : Transcript ε) : Prop where
  ending : on.ending = off.ending
  json_stdout : json = true → on.stdout = off.stdout
  json_stderr : json = true →
    Inserted (os.map fun o => o.2.report o.1 true) off.stderr on.stderr
  text_stderr : json = false → on.stderr = off.stderr
  text_stdout : json = false → ∃ shown, Inserted (Run.agreeing os) off.stdout shown ∧
    (∀ e, on.ending = .error e → on.stdout = shown) ∧
    (∀ status, on.ending = .ok status →
      on.stdout = shown ++ Run.summary os.length (Run.failures os))

namespace Run

variable (site : Site) {a : Arguments} (s : Settings) (xs : List (OsString × Examination ε))

theorem map_aside_text (hj : a.json = false) :
    xs.map (aside site { a with verbose := true } s) =
      xs.map (aside site { a with verbose := false } s) := by
  simp [aside, hj]

theorem inserted_asides_json (hj : a.json = true) :
    Inserted ((outcomes s xs).map fun o => o.2.report o.1 true)
      (String.join (xs.map (aside site { a with verbose := false } s)))
      (String.join (xs.map (aside site { a with verbose := true } s))) := by
  have hone : ∀ x : OsString × Examination ε,
      Inserted ((outcomes s [x]).map fun o => o.2.report o.1 true)
        (aside site { a with verbose := false } s x)
        (aside site { a with verbose := true } s x) := by
    intro x
    unfold aside
    rw [hj]
    exact (Inserted.join _).keep _
  have hall : (outcomes s xs).map (fun o => o.2.report o.1 true) =
      xs.flatMap fun x => (outcomes s [x]).map fun o => o.2.report o.1 true := by
    induction xs with
    | nil => rfl
    | cons x xs ih => rw [outcomes_cons, List.map_append, ih, List.flatMap_cons]
  rw [hall]
  exact Inserted.join_map hone xs

theorem verbose_report (site : Site) (a : Arguments)
    (r : Except (RunError ε) (Settings × List (OsString × Examination ε))) :
    (report site { a with verbose := false } r).Verbose a.json (completed r)
      (report site { a with verbose := true } r) := by
  cases r with
  | error e =>
    exact ⟨rfl, fun _ => rfl, fun _ => .refl "", fun _ => rfl,
      fun _ => ⟨"", .refl "", fun _ _ => rfl, nofun⟩⟩
  | ok x =>
    obtain ⟨s, xs⟩ := x
    have hreports := inserted_reports (outcomes s xs)
    show (transcript site { a with verbose := false } s xs).Verbose a.json (outcomes s xs)
      (transcript site { a with verbose := true } s xs)
    cases he : xs.findSome? fun x => x.2.error? with
    | some e =>
      rw [transcript_of_error he, transcript_of_error he]
      refine ⟨rfl, fun hj => by simp [hj], fun hj => inserted_asides_json site s xs hj,
        fun hj => congrArg String.join (map_aside_text site s xs hj), fun hj => ?_⟩
      exact ⟨_, by simpa [hj] using hreports, fun _ _ => by simp [hj], nofun⟩
    | none =>
      rw [transcript_of_no_error he, transcript_of_no_error he]
      refine ⟨rfl, fun hj => by simp [hj], fun hj => ?_, fun hj => ?_, fun hj => ?_⟩
      · exact (inserted_asides_json site s xs hj).append_right _
      · exact congrArg (String.join · ++ warned a.path (outcomes s xs).length)
          (map_aside_text site s xs hj)
      · exact ⟨_, by simpa [hj, summed] using hreports, nofun, fun _ _ => by simp [hj, summed]⟩

end Run

/-! ### Forgiven mismatches -/

/-- **What `exitZero` does:** status 1 becomes 0. -/
structure Transcript.Forgiven (off on : Transcript ε) : Prop where
  stdout : on.stdout = off.stdout
  stderr : on.stderr = off.stderr
  error : ∀ e, on.ending = .error e ↔ off.ending = .error e
  exitStatus : on.exitStatus = if off.exitStatus = 1 then 0 else off.exitStatus

theorem Run.forgiven_report (site : Site) (a : Arguments)
    (r : Except (RunError ε) (Settings × List (OsString × Examination ε))) :
    (report site { a with exitZero := false } r).Forgiven
      (report site { a with exitZero := true } r) := by
  cases r with
  | error e => exact ⟨rfl, rfl, fun _ => Iff.rfl, rfl⟩
  | ok x =>
    obtain ⟨s, xs⟩ := x
    show (transcript site { a with exitZero := false } s xs).Forgiven
      (transcript site { a with exitZero := true } s xs)
    cases he : xs.findSome? fun x => x.2.error? with
    | some e =>
      rw [transcript_of_error he, transcript_of_error he]
      exact ⟨rfl, rfl, fun _ => Iff.rfl, rfl⟩
    | none =>
      rw [transcript_of_no_error he, transcript_of_no_error he]
      refine ⟨rfl, rfl, fun _ => by simp, ?_⟩
      rcases Nat.eq_zero_or_pos (failures (outcomes s xs)) with h | h <;>
        simp [Transcript.exitStatus, status, h]

/-! ### Runs that are watched -/

/-- A run as it is watched: what it leaves, the calls that it makes, and the state that the
verifiers are in at its end. -/
structure Watched (ε σ : Type) where
  transcript : Transcript ε
  calls : List Call
  state : σ

section Watch
variable {ε σ : Type} (site : Site)
  (verify : Settings → Role → OsString → StateM σ (Except ε Finding)) (a : Arguments) (w : σ)

/-- The verifiers, with a note of each call. -/
def noting (s : Settings) (role : Role) (path : OsString) :
    StateT (List Call) (StateM σ) (Except ε Finding) := do
  modify (· ++ [⟨role, path⟩])
  verify s role path

/-- What a run by verifiers that start in the state `w` finds, the calls that it makes, and the
state at its end. -/
def found : (Except (RunError ε) (Settings × List (OsString × Examination ε)) × List Call) × σ :=
  ((Run.examined site (noting verify) a).run []).run w

/-- A run by verifiers that start in the state `w`. -/
def watch : Watched ε σ :=
  let x := ((run site (noting verify) a).run []).run w
  ⟨x.1.1, x.1.2, x.2⟩

theorem watch_eq : watch site verify a w =
    ⟨Run.report site a (found site verify a w).1.1, (found site verify a w).1.2,
      (found site verify a w).2⟩ := by
  unfold watch
  rw [Run.run_eq_map_examined]
  rfl

theorem found_withDebug (value : Option String) :
    found (site.withDebug value) verify a w = found site verify a w := by
  rw [found, Run.examined_withDebug, found]

end Watch

/-- **Three switches leave the verdict as it is,** whatever the machine, the arguments and the
verifiers, and whether or not an error ends the run. -/
theorem watch_switches {ε σ : Type} (site : Site)
    (verify : Settings → Role → OsString → StateM σ (Except ε Finding)) (a : Arguments) (w : σ) :
    (∀ value,
      let off := watch (site.withDebug none) verify a w
      let on := watch (site.withDebug (some value)) verify a w
      on.calls = off.calls ∧ on.state = off.state ∧ off.transcript.Traced on.transcript) ∧
    (let off := watch site verify { a with verbose := false } w
     let on := watch site verify { a with verbose := true } w
     on.calls = off.calls ∧ on.state = off.state ∧
      off.transcript.Verbose a.json (Run.completed (found site verify a w).1.1) on.transcript) ∧
    (let off := watch site verify { a with exitZero := false } w
     let on := watch site verify { a with exitZero := true } w
     on.calls = off.calls ∧ on.state = off.state ∧
      off.transcript.Forgiven on.transcript) := by
  refine ⟨fun value => ?_, ?_, ?_⟩
  · rw [watch_eq, watch_eq, found_withDebug, found_withDebug]
    exact ⟨rfl, rfl, Run.traced_report site a value _⟩
  · rw [watch_eq, watch_eq]
    exact ⟨rfl, rfl, Run.verbose_report site a (found site verify a w).1.1⟩
  · rw [watch_eq, watch_eq]
    exact ⟨rfl, rfl, Run.forgiven_report site a (found site verify a w).1.1⟩

end CrossCheck
