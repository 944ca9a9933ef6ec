import CrossCheck.Execution
import CrossCheck.Proofs.Observation
import CrossCheck.Proofs.Slots

/-! # The verdict of a run

The exit status tells what the verifiers wrote about the images, whatever they wrote and however
the hashes are looked for in it: 0 if they agree on all images, 2 if an error ended the run, and 1
otherwise (`exitStatus_observe`). Agreement is a matter of the texts. Both give both MD5 values,
the same ones, and if the reference's gives any SHA1 value the same holds of SHA1; that the finding
has a SHA1 pair exactly if the text gives a SHA1 value is `isSome_sha1_extract_iff`. -/

namespace CrossCheck

/-! ### Agreement -/

/-- **Agreement of two executions,** as far as their exit codes and the hashes in their texts go. -/
structure Execution.Agrees (mode : ExtractMode) (x y : Execution) : Prop where
  exitCode : x.exitCode = y.exitCode
  md5 : ∀ k, ∃ v, (mode.extract x.output).value .md5 k = some v ∧
    (mode.extract y.output).value .md5 k = some v
  sha1 : (∃ k v, (mode.extract x.output).value .sha1 k = some v) →
    ∀ k, ∃ v, (mode.extract x.output).value .sha1 k = some v ∧
      (mode.extract y.output).value .sha1 k = some v

theorem Execution.agrees_iff {mode : ExtractMode} {x y : Execution} :
    x.Agrees mode y ↔ (x.finding mode).Agrees (y.finding mode) := by
  have h := isSome_sha1_extract_iff mode x.output
  exact ⟨fun ⟨he, h5, h1⟩ => ⟨he, h5, fun hs => h1 (h.mp hs)⟩,
    fun ⟨he, h5, h1⟩ => ⟨he, h5, fun hs => h1 (h.mpr hs)⟩⟩

instance (mode : ExtractMode) (x y : Execution) : Decidable (x.Agrees mode y) :=
  decidable_of_iff _ Execution.agrees_iff.symm

variable {ε : Type}

/-- What the verifiers do when they are run on an image: they fail, or leave an exit code and a
text. The settings tell which programs they are. -/
abbrev Behaviour (ε : Type) := Settings → Role → OsString → Except ε Execution

namespace Behaviour

/-- The answers that the verifiers give by what they leave. -/
def answers (b : Behaviour ε) (s : Settings) : Answers ε :=
  fun role path => (b s role path).map (Execution.finding s.extract)

/-- The verifiers can both be run on the image, and agree. -/
def AgreesOn (b : Behaviour ε) (s : Settings) (path : OsString) : Prop :=
  ∃ x y, b s .reference path = .ok x ∧ b s .candidate path = .ok y ∧ x.Agrees s.extract y

end Behaviour

/-- **An error ends the run:** there are no settings, or no images, or a verifier cannot be run. -/
inductive Ends (site : Site) (b : Behaviour ε) (a : Arguments) : Prop
  | settings {e : RunError ε} (h : Run.settings site a = .error e)
  | images {s : Settings} {e : ImageError} (hs : Run.settings (ε := ε) site a = .ok s)
    (h : Images.find site.look a.path s.extensions = .error e)
  | verifier {s : Settings} {paths : List OsString} {path : OsString} {role : Role} {e : ε}
    (hs : Run.settings (ε := ε) site a = .ok s)
    (hp : Images.find site.look a.path s.extensions = .ok paths) (hm : path ∈ paths)
    (h : b s role path = .error e)

/-- **The verifiers agree** on every image of the run. -/
def AllAgree (site : Site) (b : Behaviour ε) (a : Arguments) : Prop :=
  ∀ s paths, Run.settings (ε := ε) site a = .ok s →
    Images.find site.look a.path s.extensions = .ok paths →
    ∀ path ∈ paths, b.AgreesOn s path

/-! ### Images -/

variable {site : Site} {b : Behaviour ε} {a : Arguments} {s : Settings} {paths : List OsString}

theorem Behaviour.answers_eq_ok_iff {role : Role} {path : OsString} {f : Finding} :
    b.answers s role path = .ok f ↔ ∃ x, b s role path = .ok x ∧ x.finding s.extract = f := by
  unfold answers
  rcases b s role path with e | x <;> simp [Except.map]

theorem Behaviour.answers_eq_error_iff {role : Role} {path : OsString} {e : ε} :
    b.answers s role path = .error e ↔ b s role path = .error e := by
  unfold answers
  rcases b s role path with e | x <;> simp [Except.map]

theorem Behaviour.failed_eq_false_iff {path : OsString} {r c : Finding}
    (hr : b.answers s .reference path = .ok r) (hc : b.answers s .candidate path = .ok c)
    (m n : String) :
    (Outcome.ofFindings m r n c).failed = false ↔ b.AgreesOn s path := by
  obtain ⟨x, hx, rfl⟩ := answers_eq_ok_iff.mp hr
  obtain ⟨y, hy, rfl⟩ := answers_eq_ok_iff.mp hc
  rw [Outcome.failed_eq_false_iff, Outcome.ofFindings, Discrepancy.between_eq_nil_iff,
    ← Execution.agrees_iff]
  constructor
  · exact fun h => ⟨x, y, hx, hy, h⟩
  · rintro ⟨x', y', hx', hy', h⟩
    cases hx.symm.trans hx'
    cases hy.symm.trans hy'
    exact h

/-- Where both verifiers can be run, no check fails exactly if they agree on all images. -/
theorem failures_eq_zero_iff (h : (b.answers s).Complete paths) :
    Run.failures ((b.answers s).outcomes s paths) = 0 ↔ ∀ path ∈ paths, b.AgreesOn s path := by
  have ho : ∀ path ∈ paths, ∃ o, (b.answers s).outcome? s path = some o ∧
      (o.failed = false ↔ b.AgreesOn s path) := by
    intro path hp
    obtain ⟨r, hr⟩ := h path hp .reference
    obtain ⟨c, hc⟩ := h path hp .candidate
    refine ⟨.ofFindings s.reference.name r s.candidate.name c, ?_,
      Behaviour.failed_eq_false_iff hr hc _ _⟩
    simp only [Answers.outcome?, hr, hc]
  rw [Run.failures, List.countP_eq_zero]
  constructor
  · intro hf path hp
    obtain ⟨o, hpo, hiff⟩ := ho path hp
    exact hiff.mp (Bool.eq_false_iff.mpr (hf (path, o) (Answers.mem_outcomes.mpr ⟨hp, hpo⟩)))
  · rintro ha ⟨path, o⟩ hmem
    obtain ⟨hp, hpo⟩ := Answers.mem_outcomes.mp hmem
    obtain ⟨o', hpo', hiff⟩ := ho path hp
    cases hpo.symm.trans hpo'
    exact Bool.eq_false_iff.mp (hiff.mpr (ha path hp))

theorem ends_iff (hs : Run.settings (ε := ε) site a = .ok s)
    (hp : Images.find site.look a.path s.extensions = .ok paths) :
    Ends site b a ↔ ¬ (b.answers s).Complete paths := by
  constructor
  · rintro (h | ⟨hs', h⟩ | @⟨s', paths', path, role, e, hs', hp', hm, h⟩) hcomplete
    · cases hs.symm.trans h
    · cases hs.symm.trans hs'
      cases hp.symm.trans h
    · cases hs.symm.trans hs'
      cases hp.symm.trans hp'
      obtain ⟨f, hf⟩ := hcomplete path hm role
      cases hf.symm.trans (Behaviour.answers_eq_error_iff.mpr h)
  · intro h
    by_contra hn
    refine h fun path hm role => ?_
    rcases hx : b.answers s role path with e | f
    · exact absurd (.verifier hs hp hm (Behaviour.answers_eq_error_iff.mp hx)) hn
    · exact ⟨f, rfl⟩

theorem allAgree_iff (hs : Run.settings (ε := ε) site a = .ok s)
    (hp : Images.find site.look a.path s.extensions = .ok paths) :
    AllAgree site b a ↔ ∀ path ∈ paths, b.AgreesOn s path := by
  constructor
  · exact fun h => h s paths hs hp
  · intro h s' paths' hs' hp'
    cases hs.symm.trans hs'
    cases hp.symm.trans hp'
    exact h

/-! ### The status -/

theorem ending_cases (site : Site) (b : Behaviour ε) (ha : a.exitZero = false) :
    Ends site b a ∧ (∃ e, (observe site b.answers a).1.ending = .error e) ∨
    ¬ Ends site b a ∧ AllAgree site b a ∧ (observe site b.answers a).1.ending = .ok 0 ∨
    ¬ Ends site b a ∧ ¬ AllAgree site b a ∧ (observe site b.answers a).1.ending = .ok 1 := by
  rcases hs : Run.settings (ε := ε) site a with e | s
  · rw [observe_of_error _ hs]
    exact Or.inl ⟨.settings hs, e, rfl⟩
  rcases hp : Images.find site.look a.path s.extensions with e | paths
  · rw [observe_of_image_error _ hs hp]
    exact Or.inl ⟨.images hs hp, _, rfl⟩
  rw [ends_iff hs hp, allAgree_iff hs hp, observe_of_images _ hs hp]
  by_cases h : (b.answers s).Complete paths
  · rw [← failures_eq_zero_iff h, Answers.transcript_of_complete h]
    right
    rcases Nat.eq_zero_or_pos (Run.failures ((b.answers s).outcomes s paths)) with hf | hf
    · exact Or.inl ⟨not_not.mpr h, hf, by simp [Run.status, hf]⟩
    · exact Or.inr ⟨not_not.mpr h, Nat.ne_of_gt hf, by simp [Run.status, hf, ha]⟩
  · obtain h' | ⟨before, path, after, e, rfl, hb, he⟩ :=
      Answers.complete_or_exists_first (b.answers s) paths
    · exact absurd h' h
    · rw [Answers.transcript_of_first hb he]
      exact Or.inl ⟨h, _, rfl⟩

/-- **No false pass.** Unless mismatches are not to count, a run exits with 0 if and only if no
error ended it and the verifiers agree on every image, with 2 if and only if an error ended it, and
with 1 in every other case. If it has no image at all it says so. -/
theorem exitStatus_observe (site : Site) (b : Behaviour ε) (a : Arguments)
    (ha : a.exitZero = false) :
    let t := (observe site b.answers a).1
    (t.exitStatus = 0 ↔ ¬ Ends site b a ∧ AllAgree site b a) ∧
    (t.exitStatus = 2 ↔ Ends site b a) ∧
    (t.exitStatus = 1 ↔ ¬ Ends site b a ∧ ¬ AllAgree site b a) ∧
    ((∃ e, t.ending = .error e) ↔ Ends site b a) ∧
    (∀ s, Run.settings (ε := ε) site a = .ok s →
      Images.find site.look a.path s.extensions = .ok [] →
      t.exitStatus = 0 ∧
        t.stderr = Trace.tag ++ "no image files found in " ++ a.path.display ++ "\n") := by
  intro t
  have hempty : ∀ s, Run.settings (ε := ε) site a = .ok s →
      Images.find site.look a.path s.extensions = .ok [] →
      t.exitStatus = 0 ∧
        t.stderr = Trace.tag ++ "no image files found in " ++ a.path.display ++ "\n" := by
    intro s hs hp
    have ht : t = _ := congrArg Prod.fst (observe_of_images b.answers hs hp)
    have hc : (b.answers s).Complete [] := by simp [Answers.Complete]
    rw [ht, Answers.transcript_of_complete hc]
    exact ⟨rfl, String.empty_append⟩
  rcases ending_cases site b ha with ⟨he, e, ht⟩ | ⟨he, hagree, ht⟩ | ⟨he, hagree, ht⟩
  · have hx : t.exitStatus = 2 := by simp only [Transcript.exitStatus, t, ht]
    exact ⟨by simp [hx, he], by simp [hx, he], by simp [hx, he], by simp [t, ht, he], hempty⟩
  · have hx : t.exitStatus = 0 := by simp only [Transcript.exitStatus, t, ht]
    exact ⟨by simp [hx, he, hagree], by simp [hx, he], by simp [hx, hagree], by simp [t, ht, he],
      hempty⟩
  · have hx : t.exitStatus = 1 := by simp only [Transcript.exitStatus, t, ht]
    exact ⟨by simp [hx, hagree], by simp [hx, he], by simp [hx, he, hagree], by simp [t, ht, he],
      hempty⟩

/-- Verifiers that word their reports differently and agree, on three images. That only the
candidate gives a SHA1 value is no mismatch. -/
theorem exitStatus_observe_of_same_hashes :
    let x : Execution := ⟨0, "stored 0123456789abcdef0123456789abcdef \n" ++
      "computed 0123456789abcdef0123456789abcdef \n"⟩
    let y : Execution := ⟨0, "0 0123456789abcdef0123456789abcdef " ++
      "0123456789abcdef0123456789abcdef 0123456789abcdef0123456789abcdef01234567 ok"⟩
    let b : Behaviour String := fun _ role _ => .ok (if role = .reference then x else y)
    (observe .small b.answers { path := "case" }).1.exitStatus = 0 := by
  intro x y b
  have hagree : x.Agrees .tokens y := by decide +kernel
  have hs : Run.settings (ε := String) .small { path := "case" } = .ok {} := settings_small rfl
  refine (exitStatus_observe .small b { path := "case" } rfl).1.mpr ⟨?_, ?_⟩
  · rw [ends_iff hs find_small, not_not]
    exact fun path _ role => ⟨_, rfl⟩
  · rw [allAgree_iff hs find_small]
    exact fun path _ => ⟨x, y, rfl, rfl, hagree⟩

end CrossCheck
