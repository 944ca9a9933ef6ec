import CrossCheck.Proofs.Examinations
import CrossCheck.Proofs.Sequences

/-! # Runs as they are observed

Here the two verifiers answer by the path alone, whatever they answer, and every call of them is
noted. Such a run leaves a transcript and a list of calls, and both are functions of the answers:

* `observe_of_error`, `observe_of_image_error`: a run that is stopped before it has its images
  leaves only the error and makes no call;
* `observe_of_images`: any other run makes the calls on its images (`callsOn`), reference first, up
  to the first that fails, and leaves the transcript of the examinations that these calls make. -/

namespace CrossCheck

/-! ### Calls -/

/-- A call of a verifier on the image at a path. -/
structure Call where
  role : Role
  path : OsString
  deriving DecidableEq, Repr

/-- Both calls on an image, in order. -/
def callsOn (path : OsString) : List Call := [⟨.reference, path⟩, ⟨.candidate, path⟩]

theorem mem_callsOn {c : Call} {path : OsString} : c ∈ callsOn path ↔ c.path = path := by
  rcases c with ⟨_ | _, p⟩ <;> simp [callsOn]

theorem mem_flatMap_callsOn {c : Call} {paths : List OsString} :
    c ∈ paths.flatMap callsOn ↔ c.path ∈ paths := by
  simp [mem_callsOn]

/-- What the verifiers answer when they are run on an image. -/
abbrev Answers (ε : Type) := Role → OsString → Except ε Finding

namespace Answers

variable {ε : Type} (answer : Answers ε)

/-- A call that is answered with an error. -/
def fails (c : Call) : Bool :=
  match answer c.role c.path with
  | .error _ => true
  | .ok _ => false

/-- The verifiers with these answers, which note each call. -/
def noted (role : Role) (path : OsString) : StateM (List Call) (Except ε Finding) := do
  modify (· ++ [⟨role, path⟩])
  return answer role path

/-- The examination of an image by these answers. -/
def examination (path : OsString) : Examination ε :=
  match answer .reference path with
  | .error e => .referenceFailed e
  | .ok r =>
    match answer .candidate path with
    | .error e => .candidateFailed r e
    | .ok c => .completed r c

/-- The examinations of several images, up to the first that cannot be completed. -/
def examinations (paths : List OsString) : List (OsString × Examination ε) :=
  (upTo (fun path => (answer.examination path).error?.isSome) paths).map
    fun path => (path, answer.examination path)

/-- The outcome on an image, if both verifiers can be run on it. -/
def outcome? (s : Settings) (path : OsString) : Option Outcome :=
  match answer .reference path, answer .candidate path with
  | .ok r, .ok c => some (.ofFindings s.reference.name r s.candidate.name c)
  | _, _ => none

/-- The outcomes on several images, each with its path. -/
def outcomes (s : Settings) (paths : List OsString) : List (OsString × Outcome) :=
  paths.filterMap fun path => (answer.outcome? s path).map fun o => (path, o)

/-- Both verifiers can be run on all of the images. -/
def Complete (paths : List OsString) : Prop :=
  ∀ path ∈ paths, ∀ role, ∃ f, answer role path = .ok f

end Answers

/-- **A run as it is observed:** what it leaves and the calls that it makes, for verifiers that give
the same answer on a path whenever they are asked. -/
def observe {ε : Type} (site : Site) (answer : Settings → Answers ε) (a : Arguments) :
    Transcript ε × List Call :=
  (run site (fun s => (answer s).noted) a).run []

namespace Run

variable {ε : Type} {site : Site} {a : Arguments} {s : Settings}
  {xs : List (OsString × Examination ε)}

theorem transcript_of_error {e : ε} (h : (xs.findSome? fun x => x.2.error?) = some e) :
    transcript site a s xs =
      { stdout := if a.json then "" else reports (outcomes s xs) a.verbose
        stderr := String.join (xs.map (aside site a s))
        ending := .error (.verifier e) } := by
  cases hj : a.json <;> simp [transcript, left, textLeft, jsonLeft, h, hj, Except.map]

/-- What a run leaves that came to its end. Of its two counts one is made on the way and one at the
end. -/
theorem transcript_of_no_error (h : (xs.findSome? fun x => x.2.error?) = none) :
    transcript site a s xs =
      { stdout :=
          if a.json then FileReport.print (FileReport.ofOutcomes (outcomes s xs))
          else reports (outcomes s xs) a.verbose ++
            summed a.verbose (outcomes s xs).length (failures (outcomes s xs))
        stderr := String.join (xs.map (aside site a s)) ++ warned a.path (outcomes s xs).length
        ending := .ok (status a.exitZero (failures (outcomes s xs))) } := by
  have hcount := failures_eq_countP (outcomes s xs)
  cases hj : a.json
  · simp [transcript, left, textLeft, h, hj, Except.map]
  · simp [transcript, left, jsonLeft, h, hj, Except.map, hcount, FileReport.ofOutcomes]

end Run

theorem Examination.outcome?_eq_none {ε : Type} {x : Examination ε} {e : ε} {m n : String}
    (h : x.error? = some e) : x.outcome? m n = none := by
  cases x with
  | completed r c => cases h
  | referenceFailed e => rfl
  | candidateFailed r e => rfl

namespace Answers

variable {ε : Type} (answer : Answers ε)

/-! ### One examination -/

theorem error?_isSome_examination (path : OsString) :
    (answer.examination path).error?.isSome = (callsOn path).any answer.fails := by
  unfold examination callsOn
  rcases hr : answer .reference path with e | r
  · simp [fails, hr, Examination.error?]
  · rcases hc : answer .candidate path with e | c <;>
      simp [fails, hr, hc, Examination.error?]

theorem examine_noted (path : OsString) (log : List Call) :
    (examine (answer.noted .reference) (answer.noted .candidate) path).run log =
      (answer.examination path, log ++ upTo answer.fails (callsOn path)) := by
  unfold examine examination noted callsOn
  rcases hr : answer .reference path with e | r
  · simp [upTo, fails, hr]
    rfl
  · rcases hc : answer .candidate path with e | c <;>
    · simp [upTo, fails, hr, hc]
      rfl

/-! ### All examinations -/

/-- Visits whose results do not depend on the state, which they change by `g`. -/
theorem run_visitUntil {α β σ : Type} (stops : β → Bool) (visit : α → StateM σ β) (f : α → β)
    (g : σ → α → σ) (hv : ∀ a s, (visit a).run s = (f a, g s a)) (as : List α) (s : σ) :
    (visitUntil stops visit as).run s =
      ((upTo (fun a => stops (f a)) as).map f, (upTo (fun a => stops (f a)) as).foldl g s) := by
  induction as generalizing s with
  | nil => rfl
  | cons a as ih =>
    rw [visitUntil, StateT.run_bind, hv]
    show StateT.run (if stops (f a) then pure [f a] else
      do return f a :: (← visitUntil stops visit as)) (g s a) = _
    cases hs : stops (f a) with
    | true => simp [upTo, hs]; rfl
    | false =>
      rw [if_neg Bool.false_ne_true, StateT.run_bind, ih]
      simp [upTo, hs]
      rfl

/-- **The calls on several images** are made in order, up to the first that fails. -/
theorem examineAll_noted (paths : List OsString) (log : List Call) :
    (examineAll (answer.noted .reference) (answer.noted .candidate) paths).run log =
      (answer.examinations paths, log ++ upTo answer.fails (paths.flatMap callsOn)) := by
  unfold examineAll
  rw [run_visitUntil _ _ (fun path => (path, answer.examination path))
    (fun log path => log ++ upTo answer.fails (callsOn path))]
  · simp only [error?_isSome_examination, examinations]
    rw [List.foldl_append_eq_append, ← List.flatMap_def, upTo_flatMap]
  · intro path log
    rw [StateT.run_bind, examine_noted]
    rfl

/-! ### Outcomes -/

theorem outcome?_examination (s : Settings) (path : OsString) :
    (answer.examination path).outcome? s.reference.name s.candidate.name =
      answer.outcome? s path := by
  unfold examination outcome?
  rcases answer .reference path with e | r
  · rfl
  · rcases answer .candidate path with e | c <;> rfl

theorem outcomes_examinations (s : Settings) (paths : List OsString) :
    Run.outcomes s (answer.examinations paths) =
      answer.outcomes s
        (upTo (fun path => (answer.examination path).error?.isSome) paths) := by
  unfold Run.outcomes examinations outcomes
  rw [List.filterMap_map]
  simp only [Function.comp_def, outcome?_examination]

variable {answer} {paths : List OsString}

theorem mem_outcomes {s : Settings} {path : OsString} {o : Outcome} :
    (path, o) ∈ answer.outcomes s paths ↔ path ∈ paths ∧ answer.outcome? s path = some o := by
  simp only [outcomes, List.mem_filterMap, Option.map_eq_some_iff, Prod.mk.injEq]
  constructor
  · rintro ⟨p, hp, o', ho, rfl, rfl⟩; exact ⟨hp, ho⟩
  · rintro ⟨hp, ho⟩; exact ⟨path, hp, o, ho, rfl, rfl⟩

theorem fails_eq_false_iff {c : Call} :
    answer.fails c = false ↔ ∃ f, answer c.role c.path = .ok f := by
  unfold fails
  rcases answer c.role c.path with e | f <;> simp

theorem complete_iff :
    answer.Complete paths ↔ ∀ c ∈ paths.flatMap callsOn, answer.fails c = false := by
  simp only [Complete, mem_flatMap_callsOn, fails_eq_false_iff]
  exact ⟨fun h c hc => h c.path hc c.role, fun h path hp role => h ⟨role, path⟩ hp⟩

theorem complete_iff_error? :
    answer.Complete paths ↔
      ∀ path ∈ paths, (answer.examination path).error?.isSome = false := by
  simp only [complete_iff, error?_isSome_examination, List.any_eq_false, List.mem_flatMap,
    Bool.not_eq_true]
  exact ⟨fun h path hp c hc => h c ⟨path, hp, hc⟩, fun h c ⟨path, hp, hc⟩ => h path hp c hc⟩

theorem Complete.map_fst_outcomes (h : answer.Complete paths) (s : Settings) :
    (answer.outcomes s paths).map Prod.fst = paths := by
  have ho : ∀ path ∈ paths,
      ((answer.outcome? s path).map fun o => (path, o)).map Prod.fst = some path := by
    intro path hp
    obtain ⟨r, hr⟩ := h path hp .reference
    obtain ⟨c, hc⟩ := h path hp .candidate
    simp [outcome?, hr, hc]
  rw [outcomes, List.map_filterMap, List.filterMap_congr ho, List.filterMap_some]

/-! ### Transcripts -/

variable {site : Site} {a : Arguments} {s : Settings}

theorem examinations_of_complete (h : answer.Complete paths) :
    answer.examinations paths = paths.map fun path => (path, answer.examination path) := by
  rw [examinations, upTo_of_all (complete_iff_error?.mp h)]

theorem findSome?_error?_of_complete (h : answer.Complete paths) :
    ((answer.examinations paths).findSome? fun x => x.2.error?) = none := by
  rw [List.findSome?_eq_none_iff, examinations_of_complete h]
  intro x hx
  obtain ⟨path, hp, rfl⟩ := List.mem_map.mp hx
  simpa using complete_iff_error?.mp h path hp

theorem outcomes_examinations_of_complete (h : answer.Complete paths) :
    Run.outcomes s (answer.examinations paths) = answer.outcomes s paths := by
  rw [outcomes_examinations, upTo_of_all (complete_iff_error?.mp h)]

theorem transcript_of_complete (h : answer.Complete paths) :
    Run.transcript site a s (answer.examinations paths) =
      { stdout :=
          if a.json then FileReport.print (FileReport.ofOutcomes (answer.outcomes s paths))
          else Run.reports (answer.outcomes s paths) a.verbose ++
            Run.summed a.verbose (answer.outcomes s paths).length
              (Run.failures (answer.outcomes s paths))
        stderr := String.join ((answer.examinations paths).map (Run.aside site a s)) ++
          Run.warned a.path (answer.outcomes s paths).length
        ending := .ok (Run.status a.exitZero (Run.failures (answer.outcomes s paths))) } := by
  rw [Run.transcript_of_no_error (findSome?_error?_of_complete h),
    outcomes_examinations_of_complete h]

section First
variable {before : List OsString} {path : OsString} {e : ε} (h : answer.Complete before)
  (he : (answer.examination path).error? = some e)
include h he

theorem examinations_of_first (after : List OsString) :
    answer.examinations (before ++ path :: after) =
      answer.examinations before ++ [(path, answer.examination path)] := by
  rw [examinations_of_complete h, examinations,
    upTo_of_first (complete_iff_error?.mp h) (by rw [he]; rfl), List.map_append]
  rfl

/-- What a run leaves if an examination is not completed: nothing about that image. -/
theorem transcript_of_first (after : List OsString) :
    Run.transcript site a s (answer.examinations (before ++ path :: after)) =
      { stdout := if a.json then "" else Run.reports (answer.outcomes s before) a.verbose
        stderr := String.join ((answer.examinations (before ++ path :: after)).map
          (Run.aside site a s))
        ending := .error (.verifier e) } := by
  have hx := examinations_of_first h he after
  have hf : ((answer.examinations (before ++ path :: after)).findSome? fun x => x.2.error?) =
      some e := by
    rw [hx, List.findSome?_append, findSome?_error?_of_complete h]
    simp [he]
  have ho : Run.outcomes s (answer.examinations (before ++ path :: after)) =
      answer.outcomes s before := by
    have hn : (answer.examination path).outcome? s.reference.name s.candidate.name = none :=
      Examination.outcome?_eq_none he
    rw [hx, Run.outcomes, List.filterMap_append]
    simp only [List.filterMap_cons, List.filterMap_nil, hn, Option.map_none, List.append_nil]
    exact outcomes_examinations_of_complete h
  rw [Run.transcript_of_error hf, ho]

end First

theorem complete_or_exists_first (answer : Answers ε) (paths : List OsString) :
    answer.Complete paths ∨
      ∃ before path after e, paths = before ++ path :: after ∧ answer.Complete before ∧
        (answer.examination path).error? = some e := by
  rcases all_or_exists_first (fun path => (answer.examination path).error?.isSome) paths with
    h | ⟨before, path, after, rfl, hb, hp⟩
  · exact Or.inl (complete_iff_error?.mpr h)
  · obtain ⟨e, he⟩ := Option.isSome_iff_exists.mp hp
    exact Or.inr ⟨before, path, after, e, rfl, complete_iff_error?.mpr hb, he⟩

end Answers

variable {ε : Type} {site : Site} {a : Arguments} {s : Settings}

/-- What is observed is the report on what the run finds, and the calls made for it. -/
theorem observe_eq (answer : Settings → Answers ε) :
    observe site answer a = Prod.map (Run.report site a) id
      ((Run.examined site (fun s => (answer s).noted) a).run []) := by
  unfold observe
  rw [Run.run_eq_map_examined]
  rfl

theorem observe_of_error (answer : Settings → Answers ε) {e : RunError ε}
    (h : Run.settings site a = .error e) : observe site answer a = (.ofError e, []) := by
  rw [observe_eq, Run.examined, h]
  rfl

theorem observe_of_image_error (answer : Settings → Answers ε)
    (hs : Run.settings (ε := ε) site a = .ok s) {e : ImageError}
    (hp : Images.find site.look a.path s.extensions = .error e) :
    observe site answer a = (.ofError (.images e), []) := by
  rw [observe_eq, Run.examined, hs]
  simp only [hp]
  rfl

theorem observe_of_images (answer : Settings → Answers ε)
    (hs : Run.settings (ε := ε) site a = .ok s) {paths : List OsString}
    (hp : Images.find site.look a.path s.extensions = .ok paths) :
    observe site answer a = (Run.transcript site a s ((answer s).examinations paths),
      upTo (answer s).fails (paths.flatMap callsOn)) := by
  rw [observe_eq, Run.examined, hs]
  simp only [hp]
  rw [StateT.run_bind, (answer s).examineAll_noted]
  rfl

/-! ### A small machine -/

/-- A machine without any configuration, on which every path leads to a directory with three
images. -/
def Site.small : Site where
  env := fun _ => none
  directory := .ok "/"
  configDirectory := none
  read := fun _ => .absent
  look := fun _ => .directory [⟨"a.E01", true⟩, ⟨"b.E01", true⟩, ⟨"c.E01", true⟩]

theorem Run.settings_of_resolve {directory : OsString} (hd : site.directory = .ok directory)
    (h : Run.resolve site directory a = .ok s) (hs : s.fault? = none) :
    Run.settings (ε := ε) site a = .ok s := by
  unfold Run.settings
  rw [hd]
  simp only [Except.mapError, bind, Except.bind, h, hs]
  rfl

theorem settings_small (ha : a.layer (fun _ => none) = {}) :
    Run.settings (ε := ε) .small a = .ok {} := by
  have hr : Run.resolve .small "/" a = .ok {} := by
    unfold Run.resolve
    rw [show Site.small.env = fun _ => none from rfl, ha]
    rfl
  exact Run.settings_of_resolve rfl hr (by decide +kernel)

theorem find_small : Images.find Site.small.look "case" ["e01"] =
    .ok (["case/a.E01", "case/b.E01", "case/c.E01"] : List OsString) := by
  let entries : List Entry := [⟨"a.E01", true⟩, ⟨"b.E01", true⟩, ⟨"c.E01", true⟩]
  have hi : entries.filter (Images.isImage ["e01"]) = entries := by decide +kernel
  have hs : (entries.mergeSort fun a b => decide (a.name ≤ b.name)) = entries :=
    List.mergeSort_of_pairwise (by decide +kernel)
  show Except.ok (Images.ofEntries "case" ["e01"] entries) = _
  rw [Images.ofEntries, hi, hs]
  decide +kernel

end CrossCheck
