import CrossCheck.Proofs.Actions
import CrossCheck.Run

/-! # Runs and their examinations

An image is examined by running the reference on it and then the candidate, and images are examined
up to the first on which a verifier cannot be run (`examineAll`). All that a run leaves is a
function of its examinations (`Run.transcript`), whichever way it reports: the loop that prints text
and counts as it goes, and the loop that collects entries and counts at the end, both do nothing
else with the verifiers, and what they have printed and counted can be read off the examinations
(`run_eq_map_examined`).

Both loops are runs of one kind of visit (`Action.Shows`), so this is proved for one visit, and from
it by induction for all visits. -/

namespace CrossCheck

/-! ### Examinations -/

/-- What came of the examination of an image. -/
inductive Examination (ε : Type) where
  | referenceFailed (error : ε)
  | candidateFailed (reference : Finding) (error : ε)
  | completed (reference candidate : Finding)
  deriving DecidableEq, Repr

namespace Examination

variable {ε : Type}

/-- The error that ended an examination. -/
def error? : Examination ε → Option ε
  | referenceFailed e => some e
  | candidateFailed _ e => some e
  | completed _ _ => none

/-- The outcome of a complete examination by verifiers with the given names. -/
def outcome? (referenceName candidateName : String) : Examination ε → Option Outcome
  | completed r c => some (.ofFindings referenceName r candidateName c)
  | _ => none

/-- What an examination comes to. -/
def result (s : Settings) : Examination ε → Except (RunError ε) Outcome
  | referenceFailed e => .error (.verifier e)
  | candidateFailed _ e => .error (.verifier e)
  | completed r c => .ok (.ofFindings s.reference.name r s.candidate.name c)

end Examination

/-- The trace of the examination of an image. -/
def Trace.ofExamination {ε : Type} (s : Settings) (path : OsString) : Examination ε → String
  | .referenceFailed _ => before s.reference path
  | .candidateFailed r _ =>
    before s.reference path ++ after s.reference r ++ before s.candidate path
  | .completed r c =>
    before s.reference path ++ after s.reference r ++ before s.candidate path ++
      after s.candidate c

section
variable {ε : Type} {m : Type → Type} [Monad m]

/-- Visits items in order up to the first whose result stops the visits; gives all results, the one
that stops them included. -/
def visitUntil {α β : Type} (stops : β → Bool) (visit : α → m β) : List α → m (List β)
  | [] => return []
  | a :: as => do
    let b ← visit a
    if stops b then return [b]
    else return b :: (← visitUntil stops visit as)

/-- Examines the image at a path. -/
def examine (reference candidate : OsString → m (Except ε Finding)) (path : OsString) :
    m (Examination ε) := do
  match ← reference path with
  | .error e => return .referenceFailed e
  | .ok r =>
    match ← candidate path with
    | .error e => return .candidateFailed r e
    | .ok c => return .completed r c

/-- Examines the images at several paths, up to the first that cannot be examined. -/
def examineAll (reference candidate : OsString → m (Except ε Finding)) (paths : List OsString) :
    m (List (OsString × Examination ε)) :=
  visitUntil (fun x => x.2.error?.isSome)
    (fun path => return (path, ← examine reference candidate path)) paths

theorem examineAll_nil (reference candidate : OsString → m (Except ε Finding)) :
    examineAll reference candidate [] = pure [] := rfl

variable [LawfulMonad m]

theorem examineAll_cons (reference candidate : OsString → m (Except ε Finding))
    (path : OsString) (paths : List OsString) :
    examineAll reference candidate (path :: paths) =
      examine reference candidate path >>= fun x =>
        if x.error?.isSome then pure [(path, x)]
        else ((path, x) :: ·) <$> examineAll reference candidate paths := by
  rw [examineAll, visitUntil, bind_assoc]
  simp only [pure_bind, map_eq_pure_bind]
  rfl

/-- Without an error all images are examined. -/
theorem map_examineAll_congr {α : Type} {reference candidate : OsString → m (Except ε Finding)}
    {f g : List (OsString × Examination ε) → α} {paths : List OsString}
    (h : ∀ xs, ((xs.findSome? fun x => x.2.error?) = none → xs.length = paths.length) →
      f xs = g xs) :
    f <$> examineAll reference candidate paths = g <$> examineAll reference candidate paths := by
  induction paths generalizing f g with
  | nil => simpa [examineAll_nil] using congrArg pure (h [] fun _ => rfl)
  | cons path paths ih =>
    rw [examineAll_cons, map_bind, map_bind]
    refine bind_congr fun x => ?_
    rcases he : x.error? with _ | e
    · simp only [Option.isSome_none, Bool.false_eq_true, if_false, Functor.map_map]
      refine ih fun xs hxs => h _ fun hnone => ?_
      rw [List.findSome?_cons, he] at hnone
      rw [List.length_cons, List.length_cons, hxs hnone]
    · simpa using congrArg pure (h [(path, x)] fun hnone => by simp [he] at hnone)

end

namespace Examination

variable {ε : Type} {s : Settings} {x : Examination ε}

/-- What is printed for the outcome of an examination, if there is one. -/
def printed (s : Settings) (page : Outcome → Printed) (x : Examination ε) : Printed :=
  match x.result s with
  | .ok o => page o
  | .error _ => {}

theorem result_of_error {e : ε} (h : x.error? = some e) : x.result s = .error (.verifier e) := by
  rcases x with e' | ⟨r, e'⟩ | ⟨r, c⟩
  · rw [← Option.some.inj h]
    rfl
  · rw [← Option.some.inj h]
    rfl
  · cases h

theorem result_of_no_error (h : x.error? = none) :
    ∃ o, x.outcome? s.reference.name s.candidate.name = some o ∧ x.result s = .ok o := by
  rcases x with e | ⟨r, e⟩ | ⟨r, c⟩
  · cases h
  · cases h
  · exact ⟨_, rfl, rfl⟩

end Examination

/-! ### One image -/

namespace Comparator

variable {ε : Type} {m : Type → Type} [Monad m] (c : Comparator ε m)

/-- What is written of a trace. -/
def told (trace : String) : Printed :=
  { stderr := if c.traced then trace else "" }

omit [Monad m] in
theorem told_append (s t : String) : c.told (s ++ t) = c.told s ++ c.told t := by
  unfold told
  cases c.traced <;> simp [Printed.append_def]

variable [LawfulMonad m]

theorem prints_tell (line : String) : (c.tell line).Prints () (c.told line) := by
  unfold tell told
  cases c.traced
  · exact Action.prints_pure ()
  · exact Action.prints_warn line

/-- What running a verifier leaves. -/
def leftBy (role : Role) (path : OsString) :
    Except ε Finding → Except (RunError ε) Finding × Printed
  | .error e => (.error (.verifier e), c.told (Trace.before (c.settings.verifier role) path))
  | .ok f => (.ok f, c.told (Trace.before (c.settings.verifier role) path) ++
      c.told (Trace.after (c.settings.verifier role) f))

theorem shows_find (role : Role) (path : OsString) :
    (c.find role path).Shows (c.verify role path) (c.leftBy role path) := by
  have hafter : ∀ f, Action.Prints (do
      c.tell (Trace.after (c.settings.verifier role) f)
      return f : Action ε m Finding) f (c.told (Trace.after (c.settings.verifier role) f)) :=
    fun f => (c.prints_tell _).bind_pure f
  refine (((Action.shows_ask (c.verify role path)).bind_prints hafter).prints_bind
    (c.prints_tell (Trace.before (c.settings.verifier role) path))).congr fun r => ?_
  rcases r with e | f <;> simp [leftBy, Except.mapError]

/-- What comparing on an image leaves. -/
def leftOn (path : OsString) (x : Examination ε) : Except (RunError ε) Outcome × Printed :=
  (x.result c.settings, c.told (Trace.ofExamination c.settings path x))

theorem shows_compare (path : OsString) :
    (c.compare path).Shows (examine (c.verify .reference) (c.verify .candidate) path)
      (c.leftOn path) := fun p => by
  unfold compare examine
  rw [Action.exec_bind, c.shows_find .reference path p, bind_map_left, map_bind]
  refine bind_congr fun r => ?_
  rcases r with e | r
  · simp only [leftBy, map_pure]
    rfl
  · simp only [leftBy]
    rw [Action.exec_bind, c.shows_find .candidate path, bind_map_left, map_bind]
    refine bind_congr fun f => ?_
    rcases f with e | f
    · simp only [leftBy, map_pure, leftOn, Trace.ofExamination, told_append, Printed.append_assoc]
      rfl
    · simp only [leftBy, map_pure, Action.exec_pure, leftOn, Trace.ofExamination, told_append,
        Printed.append_assoc]
      rfl

/-! ### All images -/

/-- **A visit** that prints and goes on by the outcome. -/
theorem shows_visit {σ : Type} {f : Outcome → Action ε m σ} {next : Outcome → σ}
    {page : Outcome → Printed} (hf : ∀ o, (f o).Prints (next o) (page o)) (path : OsString) :
    (c.compare path >>= f).Shows (examine (c.verify .reference) (c.verify .candidate) path)
      fun x => ((x.result c.settings).map next,
        c.told (Trace.ofExamination c.settings path x) ++ x.printed c.settings page) := by
  refine ((c.shows_compare path).bind_prints hf).congr fun x => ?_
  simp only [leftOn, Examination.printed]
  cases x.result c.settings with
  | error e => simp [Except.map]
  | ok o => rfl

/-- **All visits:** if each of them goes on by the outcome, they make the examinations, up to the
first that cannot be completed. -/
theorem shows_foldlM {σ : Type} {visit : σ → OsString → Action ε m σ}
    (next : σ → OsString → Outcome → σ) {out : OsString → Examination ε → Printed}
    (hvisit : ∀ st path, (visit st path).Shows
      (examine (c.verify .reference) (c.verify .candidate) path)
      fun x => ((x.result c.settings).map (next st path), out path x))
    (paths : List OsString) (st : σ) :
    (paths.foldlM visit st).Shows
      (examineAll (c.verify .reference) (c.verify .candidate) paths) fun xs =>
        (xs.foldlM (fun st x => (x.2.result c.settings).map (next st x.1)) st,
          .join (xs.map fun x => out x.1 x.2)) := by
  induction paths generalizing st with
  | nil =>
    intro p
    simp [examineAll, visitUntil, Action.exec_pure]
    rfl
  | cons path paths ih =>
    intro p
    rw [List.foldlM_cons, Action.exec_bind, hvisit st path p, bind_map_left, examineAll_cons,
      map_bind]
    refine bind_congr fun x => ?_
    rcases he : x.error? with _ | e
    · obtain ⟨o, -, ho⟩ := Examination.result_of_no_error (s := c.settings) he
      simp only [ho, Except.map, Option.isSome_none, Bool.false_eq_true, if_false]
      rw [ih, Functor.map_map]
      simp only [List.foldlM_cons, ho, Except.map, List.map_cons, Printed.join_cons,
        Printed.append_assoc]
      rfl
    · have hx := Examination.result_of_error (s := c.settings) he
      simp only [hx, Except.map, Option.isSome_some, if_true, map_pure, List.foldlM_cons,
        List.map_cons, List.map_nil, Printed.join_cons, Printed.join_nil, Printed.append_empty]
      rfl

end Comparator

/-- The entries on the images with these outcomes. -/
def FileReport.ofOutcomes (os : List (OsString × Outcome)) : List FileReport :=
  os.map fun o => .ofOutcome o.1 o.2

/-- A run that an error ended before any image was examined. -/
def Transcript.ofError {ε : Type} (e : RunError ε) : Transcript ε :=
  { ending := .error e }

namespace Run

variable {ε : Type} {s : Settings}

/-- The outcomes of the examinations that are complete, each with its path. -/
def outcomes (s : Settings) (xs : List (OsString × Examination ε)) : List (OsString × Outcome) :=
  xs.filterMap fun x => (x.2.outcome? s.reference.name s.candidate.name).map fun o => (x.1, o)

/-- The number of images on which the verifiers disagree. -/
def failures (os : List (OsString × Outcome)) : Nat :=
  os.countP fun o => o.2.failed

/-- The reports on all images. -/
def reports (os : List (OsString × Outcome)) (verbose : Bool) : String :=
  String.join (os.map fun o => o.2.report o.1 verbose)

/-- What a run writes to its error stream about one image. -/
def aside (site : Site) (a : Arguments) (s : Settings) (x : OsString × Examination ε) : String :=
  (if traces site.env then Trace.ofExamination s x.1 x.2 else "") ++
    if a.json && a.verbose then reports (outcomes s [x]) true else ""

theorem outcomes_cons (x : OsString × Examination ε) (xs : List (OsString × Examination ε)) :
    outcomes s (x :: xs) = outcomes s [x] ++ outcomes s xs :=
  List.filterMap_append (l := [x])

theorem outcomes_of_error {x : OsString × Examination ε} {e : ε} (h : x.2.error? = some e) :
    outcomes s [x] = [] := by
  obtain ⟨path, x⟩ := x
  cases x with
  | completed r c => cases h
  | referenceFailed e => rfl
  | candidateFailed r e => rfl

theorem outcomes_of_no_error {x : OsString × Examination ε} (h : x.2.error? = none) :
    ∃ o, outcomes s [x] = [(x.1, o)] ∧ x.2.result s = .ok o := by
  obtain ⟨o, ho, hr⟩ := Examination.result_of_no_error (s := s) h
  exact ⟨o, by simp [outcomes, ho], hr⟩

theorem foldlM_result {σ : Type} (next : σ → OsString → Outcome → σ)
    (xs : List (OsString × Examination ε)) (st : σ) :
    xs.foldlM (fun st x => (x.2.result s).map (next st x.1)) st =
      match xs.findSome? fun x => x.2.error? with
      | some e => .error (.verifier e)
      | none => .ok ((outcomes s xs).foldl (fun st o => next st o.1 o.2) st) := by
  induction xs generalizing st with
  | nil => rfl
  | cons x xs ih =>
    rw [List.foldlM_cons, List.findSome?_cons, outcomes_cons]
    rcases he : x.2.error? with _ | e
    · obtain ⟨o, ho, hr⟩ := outcomes_of_no_error (s := s) he
      rw [hr, ho]
      exact ih _
    · rw [Examination.result_of_error he]
      rfl

theorem foldl_failures (os : List (OsString × Outcome)) (n : Nat) :
    os.foldl (fun n o => if o.2.failed then n + 1 else n) n = n + failures os := by
  induction os generalizing n with
  | nil => rfl
  | cons o os ih =>
    have ho : failures (o :: os) = failures os + if o.2.failed then 1 else 0 := List.countP_cons
    rw [List.foldl_cons, ih, ho]
    cases o.2.failed
    · rfl
    · exact Nat.add_right_comm n 1 (failures os)

theorem foldl_reports (os : List (OsString × Outcome)) (rs : List FileReport) :
    os.foldl (fun rs o => rs ++ [FileReport.ofOutcome o.1 o.2]) rs =
      rs ++ FileReport.ofOutcomes os := by
  unfold FileReport.ofOutcomes
  induction os generalizing rs with
  | nil => simp
  | cons o os ih => simp [ih]

/-- **Both counts** are the same, that of the outcomes and that of the entries. -/
theorem failures_eq_countP (os : List (OsString × Outcome)) :
    failures os = (FileReport.ofOutcomes os).countP (·.failed) := by
  simp [failures, FileReport.ofOutcomes, List.countP_map, Function.comp_def, FileReport.ofOutcome]

theorem foldlM_failures (xs : List (OsString × Examination ε)) :
    xs.foldlM (fun n x => (x.2.result s).map fun o => if o.failed then n + 1 else n) 0 =
      match xs.findSome? fun x => x.2.error? with
      | some e => .error (.verifier e)
      | none => .ok (failures (outcomes s xs)) := by
  have h := foldlM_result (s := s) (fun n _ o => if o.failed then n + 1 else n) xs 0
  rwa [foldl_failures, Nat.zero_add] at h

theorem foldlM_reports (xs : List (OsString × Examination ε)) :
    xs.foldlM (fun rs x => (x.2.result s).map fun o => rs ++ [FileReport.ofOutcome x.1 o]) [] =
      match xs.findSome? fun x => x.2.error? with
      | some e => .error (.verifier e)
      | none => .ok (FileReport.ofOutcomes (outcomes s xs)) := by
  have h := foldlM_result (s := s) (fun rs path o => rs ++ [FileReport.ofOutcome path o]) xs []
  rwa [foldl_reports, List.nil_append] at h

/-- What visits print: what is printed for the outcomes, on each stream. -/
theorem join_printed (c : Comparator ε m) (page : OsString → Outcome → Printed)
    (xs : List (OsString × Examination ε)) :
    Printed.join (xs.map fun x => c.told (Trace.ofExamination s x.1 x.2) ++
        x.2.printed s (page x.1)) =
      { stdout := String.join ((outcomes s xs).map fun o => (page o.1 o.2).stdout)
        stderr := String.join (xs.map fun x =>
          (if c.traced then Trace.ofExamination s x.1 x.2 else "") ++
            String.join ((outcomes s [x]).map fun o => (page o.1 o.2).stderr)) } := by
  induction xs with
  | nil => rfl
  | cons x xs ih =>
    rw [List.map_cons, Printed.join_cons, ih, outcomes_cons]
    rcases he : x.2.error? with _ | e
    · obtain ⟨o, ho, hr⟩ := outcomes_of_no_error (s := s) he
      simp [ho, Examination.printed, hr, Comparator.told, Printed.append_def]
    · have hr := Examination.result_of_error (s := s) he
      simp [outcomes_of_error he, Examination.printed, hr, Comparator.told, Printed.append_def]

/-! ### The two commands -/

section Commands
variable {m : Type → Type} [Monad m] [LawfulMonad m] {site : Site} {a : Arguments}
  {c : Comparator ε m}

/-- The warning of a run with that many images. -/
def warned (path : OsString) (checked : Nat) : String :=
  if checked = 0 then warning path else ""

/-- The summary of a run, if it is verbose. -/
def summed (verbose : Bool) (checked failures : Nat) : String :=
  if verbose then summary checked failures else ""

/-- What a run prints for the outcome on an image. -/
def page (a : Arguments) (path : OsString) (o : Outcome) : Printed :=
  if a.json then { stderr := if a.verbose then o.report path true else "" }
  else { stdout := o.report path a.verbose }

omit [Monad m] [LawfulMonad m] in
theorem join_page (ht : c.traced = traces site.env) (xs : List (OsString × Examination ε)) :
    Printed.join (xs.map fun x =>
        c.told (Trace.ofExamination s x.1 x.2) ++ x.2.printed s (page a x.1)) =
      { stdout := if a.json then "" else reports (outcomes s xs) a.verbose
        stderr := String.join (xs.map (aside site a s)) } := by
  have hnone : ∀ n, String.join (List.replicate n "") = "" := by
    intro n
    induction n with
    | zero => rfl
    | succ n ih => simpa [List.replicate_succ] using ih
  have hstdout : String.join ((outcomes s xs).map fun o => (page a o.1 o.2).stdout) =
      if a.json then "" else reports (outcomes s xs) a.verbose := by
    cases hj : a.json <;> simp [page, hj, reports, hnone]
  have hstderr : ∀ x : OsString × Examination ε,
      (if traces site.env then Trace.ofExamination s x.1 x.2 else "") ++
        String.join ((outcomes s [x]).map fun o => (page a o.1 o.2).stderr) = aside site a s x := by
    intro x
    unfold aside
    cases hj : a.json <;> cases hv : a.verbose <;> simp [page, hj, hv, reports, hnone]
  rw [join_printed, ht, hstdout]
  simp only [hstderr]

theorem prints_warnIfEmpty (path : OsString) (checked : Nat) :
    (warnIfEmpty path checked : Action ε m Unit).Prints () { stderr := warned path checked } := by
  unfold warnIfEmpty warned
  split_ifs
  · exact Action.prints_warn _
  · exact Action.prints_pure ()

/-- What a run on `images` leaves that reports as text. -/
def textLeft (site : Site) (a : Arguments) (s : Settings) (images : Nat)
    (xs : List (OsString × Examination ε)) : Except (RunError ε) Nat × Printed :=
  let os := outcomes s xs
  let asides := String.join (xs.map (aside site a s))
  match xs.findSome? fun x => x.2.error? with
  | some e => (.error (.verifier e), ⟨reports os a.verbose, asides⟩)
  | none => (.ok (failures os), ⟨reports os a.verbose ++ summed a.verbose images (failures os),
      asides ++ warned a.path images⟩)

theorem shows_checkText (hj : a.json = false) (ht : c.traced = traces site.env)
    {images : List OsString}
    (hp : Images.find site.look a.path c.settings.extensions = .ok images) :
    (checkText site a c).Shows (examineAll (c.verify .reference) (c.verify .candidate) images)
      (textLeft site a c.settings images.length) := by
  have hvisit : ∀ (failures : Nat) (image : OsString), Action.Shows (do
      let failed ← c.check image a.verbose
      return if failed then failures + 1 else failures : Action ε m Nat)
      (examine (c.verify .reference) (c.verify .candidate) image)
      fun x => ((x.result c.settings).map fun o => if o.failed then failures + 1 else failures,
        c.told (Trace.ofExamination c.settings image x) ++
          x.printed c.settings (page a image)) := by
    intro failures image
    unfold Comparator.check page
    simp only [hj, Bool.false_eq_true, if_false, bind_assoc, pure_bind]
    exact c.shows_visit (fun o => (Action.prints_print _).bind_pure _) image
  have hend : ∀ failures : Nat, Action.Prints (do
      warnIfEmpty a.path images.length
      if a.verbose then Action.print (summary images.length failures)
      return failures : Action ε m Nat) failures
      ⟨summed a.verbose images.length failures, warned a.path images.length⟩ := by
    intro failures
    have hw := prints_warnIfEmpty (ε := ε) (m := m) a.path images.length
    have hs := Action.prints_print (ε := ε) (m := m) (summary images.length failures)
    unfold summed
    cases a.verbose
    · exact hw.bind_pure failures
    · have h := hw.bind (f := fun _ => do
        Action.print (summary images.length failures)
        return failures) (hs.bind_pure failures)
      simpa [Printed.append_def] using h
  unfold checkText walk
  simp only [hp, bind_assoc, pure_bind]
  refine ((c.shows_foldlM (fun failures _ o => if o.failed then failures + 1 else failures)
    hvisit images 0).bind_prints hend).congr fun xs => ?_
  rw [foldlM_failures, join_page ht, textLeft]
  cases hx : xs.findSome? fun x => x.2.error? with
  | some e => simp [hj]
  | none => simp [hj, Printed.append_def]

/-- What a run on `images` leaves that reports as JSON. -/
def jsonLeft (site : Site) (a : Arguments) (s : Settings) (images : Nat)
    (xs : List (OsString × Examination ε)) : Except (RunError ε) Nat × Printed :=
  let rs := FileReport.ofOutcomes (outcomes s xs)
  let asides := String.join (xs.map (aside site a s))
  match xs.findSome? fun x => x.2.error? with
  | some e => (.error (.verifier e), { stderr := asides })
  | none => (.ok (rs.countP (·.failed)),
      { stdout := FileReport.print rs, stderr := asides ++ warned a.path images })

theorem shows_checkJson (hj : a.json = true) (ht : c.traced = traces site.env)
    {images : List OsString}
    (hp : Images.find site.look a.path c.settings.extensions = .ok images) :
    (checkJson site a c).Shows (examineAll (c.verify .reference) (c.verify .candidate) images)
      (jsonLeft site a c.settings images.length) := by
  have hvisit : ∀ (rs : List FileReport) (image : OsString), Action.Shows (do
      let o ← c.compare image
      if a.verbose then Action.warn (o.report image true)
      return rs ++ [FileReport.ofOutcome image o] : Action ε m (List FileReport))
      (examine (c.verify .reference) (c.verify .candidate) image)
      fun x => ((x.result c.settings).map fun o => rs ++ [FileReport.ofOutcome image o],
        c.told (Trace.ofExamination c.settings image x) ++
          x.printed c.settings (page a image)) := by
    intro rs image
    refine c.shows_visit (fun o => ?_) image
    simp only [page, hj, if_true]
    cases a.verbose
    · exact Action.prints_pure _
    · exact (Action.prints_warn _).bind_pure _
  have hend : ∀ rs : List FileReport, Action.Prints (do
      warnIfEmpty a.path images.length
      Action.print (FileReport.print rs)
      return rs.countP (·.failed) : Action ε m Nat) (rs.countP (·.failed))
      { stdout := FileReport.print rs, stderr := warned a.path images.length } := by
    intro rs
    have h := (prints_warnIfEmpty (ε := ε) (m := m) a.path images.length).bind (f := fun _ => do
      Action.print (FileReport.print rs)
      return rs.countP (·.failed)) ((Action.prints_print _).bind_pure _)
    simpa [Printed.append_def] using h
  unfold checkJson walk
  simp only [hp, bind_assoc, pure_bind]
  refine ((c.shows_foldlM (fun rs path o => rs ++ [FileReport.ofOutcome path o])
    hvisit images []).bind_prints hend).congr fun xs => ?_
  rw [foldlM_reports, join_page ht, jsonLeft]
  cases hx : xs.findSome? fun x => x.2.error? with
  | some e => simp [hj]
  | none => simp [hj, Printed.append_def]

/-- What the command leaves that the arguments ask for. -/
def left (site : Site) (a : Arguments) (s : Settings) (images : Nat)
    (xs : List (OsString × Examination ε)) : Except (RunError ε) Nat × Printed :=
  if a.json then jsonLeft site a s images xs else textLeft site a s images xs

theorem shows_check (ht : c.traced = traces site.env) {images : List OsString}
    (hp : Images.find site.look a.path c.settings.extensions = .ok images) :
    (check site a c).Shows (examineAll (c.verify .reference) (c.verify .candidate) images)
      (left site a c.settings images.length) := by
  unfold check left
  cases hj : a.json
  · exact shows_checkText hj ht hp
  · exact shows_checkJson hj ht hp

theorem exec_check_of_error {e : ImageError}
    (hp : Images.find site.look a.path c.settings.extensions = .error e) (p : Printed) :
    (check site a c).exec p = pure (.error (.images e), p) := by
  unfold check
  cases a.json
  · simp [checkText, walk, hp, Action.exec_throw]
  · simp [checkJson, walk, hp, Action.exec_throw]

end Commands

/-! ### The whole run -/

variable {m : Type → Type} [Monad m]

/-- What a run leaves after it has examined images. -/
def transcript (site : Site) (a : Arguments) (s : Settings)
    (xs : List (OsString × Examination ε)) : Transcript ε :=
  let x := left site a s (outcomes s xs).length xs
  { toPrinted := x.2, ending := x.1.map (status a.exitZero) }

/-- What a run finds: an error before there are images to examine, or its settings and the
examinations. -/
def examined (site : Site) (verify : Settings → Role → OsString → m (Except ε Finding))
    (a : Arguments) : m (Except (RunError ε) (Settings × List (OsString × Examination ε))) :=
  match settings site a with
  | .error e => return .error e
  | .ok s =>
    match Images.find site.look a.path s.extensions with
    | .error e => return .error (.images e)
    | .ok paths => do
      let xs ← examineAll (verify s .reference) (verify s .candidate) paths
      return .ok (s, xs)

/-- What a run leaves after that. -/
def report (site : Site) (a : Arguments) :
    Except (RunError ε) (Settings × List (OsString × Examination ε)) → Transcript ε
  | .error e => .ofError e
  | .ok x => transcript site a x.1 x.2

theorem length_outcomes {xs : List (OsString × Examination ε)}
    (h : (xs.findSome? fun x => x.2.error?) = none) : (outcomes s xs).length = xs.length := by
  induction xs with
  | nil => rfl
  | cons x xs ih =>
    rw [List.findSome?_cons] at h
    cases he : x.2.error? with
    | some e => simp [he] at h
    | none =>
      obtain ⟨o, ho, -⟩ := outcomes_of_no_error (s := s) he
      rw [outcomes_cons, ho, List.length_append, ih (by simpa [he] using h)]
      simp [Nat.add_comm]

/-- The number of images matters only without an error. -/
theorem left_congr {site : Site} {a : Arguments} {images : Nat}
    {xs : List (OsString × Examination ε)}
    (h : (xs.findSome? fun x => x.2.error?) = none → xs.length = images) :
    left site a s images xs = left site a s (outcomes s xs).length xs := by
  cases hx : xs.findSome? fun x => x.2.error? with
  | some e => simp [left, textLeft, jsonLeft, hx]
  | none => rw [length_outcomes hx, h hx]

/-- **A run is its report on what it finds,** whichever way it reports. -/
theorem run_eq_map_examined [LawfulMonad m] (site : Site)
    (verify : Settings → Role → OsString → m (Except ε Finding)) (a : Arguments) :
    run site verify a = report site a <$> examined site verify a := by
  unfold run action examined
  rw [Action.exec_bind]
  cases hs : settings (ε := ε) site a with
  | error e => simp [MonadExcept.ofExcept, Action.exec_throw, report, Transcript.ofError]
  | ok s =>
    let c : Comparator ε m := { settings := s, verify := verify s, traced := traces site.env }
    have hofs : (MonadExcept.ofExcept (Except.ok s) : Action ε m Settings).exec {} =
        pure (.ok s, {}) := Action.exec_pure s {}
    rw [hofs, pure_bind]
    dsimp only
    cases hp : Images.find site.look a.path s.extensions with
    | error e =>
      rw [Action.exec_bind, exec_check_of_error (c := c) hp]
      simp [report, Transcript.ofError]
    | ok images =>
      rw [((shows_check (c := c) rfl hp).bind_pure (status a.exitZero)) {}]
      simp only [bind_pure_comp, Functor.map_map, Printed.empty_append]
      refine map_examineAll_congr fun xs hxs => ?_
      rw [left_congr hxs]
      rfl

end Run

end CrossCheck
