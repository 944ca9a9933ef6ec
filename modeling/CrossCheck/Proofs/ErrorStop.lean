import CrossCheck.Proofs.Observation

/-! # Errors end a run

A run makes the two calls on each image in order until a call fails, and nothing after that. What
it leaves is then the reports on the images before the one with the failed call, in text mode only,
and the error of that call; the status is 2 whatever the switches say. An error that comes before
the images leaves nothing and makes no call (`observe_stops_at_first_error`). A mismatch is no
error: the calls depend on nothing but which of them fail. -/

namespace CrossCheck

variable {ε : Type}

/-- A run that the error `e` ended, with what it had printed by then. -/
structure Transcript.StoppedBy (t : Transcript ε) (e : RunError ε) (stdout : String) : Prop where
  ending : t.ending = .error e
  exitStatus : t.exitStatus = 2
  stdout : t.stdout = stdout

theorem Transcript.stoppedBy_mk (e : RunError ε) (printed : Printed) :
    (Transcript.mk printed (.error e)).StoppedBy e printed.stdout := ⟨rfl, rfl, rfl⟩

theorem Transcript.stoppedBy_ofError (e : RunError ε) : (ofError e).StoppedBy e "" :=
  stoppedBy_mk e {}

namespace Answers

/-- **The error on an image:** that of the reference, or else that of the candidate, together with
the calls on the image up to the one that fails. -/
inductive FirstError (answer : Answers ε) (path : OsString) : List Call → ε → Prop
  | reference {e : ε} (h : answer .reference path = .error e) :
    FirstError answer path [⟨.reference, path⟩] e
  | candidate {r : Finding} {e : ε} (hr : answer .reference path = .ok r)
    (h : answer .candidate path = .error e) :
    FirstError answer path [⟨.reference, path⟩, ⟨.candidate, path⟩] e

variable {answer : Answers ε} {path : OsString} {calls : List Call} {e : ε}

theorem FirstError.error?_examination (h : answer.FirstError path calls e) :
    (answer.examination path).error? = some e := by
  cases h with
  | reference h => simp [examination, h, Examination.error?]
  | candidate hr h => simp [examination, hr, h, Examination.error?]

theorem exists_firstError (h : (answer.examination path).error? = some e) :
    ∃ calls, answer.FirstError path calls e := by
  unfold examination at h
  rcases hr : answer .reference path with e' | r
  · simp only [hr, Examination.error?, Option.some.injEq] at h
    exact ⟨_, .reference (h ▸ hr)⟩
  · rcases hc : answer .candidate path with e' | c
    · simp only [hr, hc, Examination.error?, Option.some.injEq] at h
      exact ⟨_, .candidate hr (h ▸ hc)⟩
    · simp [hr, hc, Examination.error?] at h

theorem FirstError.upTo_callsOn (h : answer.FirstError path calls e) :
    upTo answer.fails (callsOn path) = calls := by
  cases h with
  | reference h => simp [callsOn, upTo, fails, h]
  | candidate hr h => simp [callsOn, upTo, fails, hr, h]

/-- The calls on the images before are all made, and of those on the image the ones up to the
error. -/
theorem FirstError.upTo_calls (h : answer.FirstError path calls e) {before : List OsString}
    (hb : answer.Complete before) (after : List OsString) :
    upTo answer.fails ((before ++ path :: after).flatMap callsOn) =
      before.flatMap callsOn ++ calls := by
  have hbefore := complete_iff.mp hb
  have hany : (before.flatMap callsOn).any answer.fails = false :=
    List.any_eq_false.mpr fun c hc => by simp [hbefore c hc]
  have hpath : (callsOn path).any answer.fails = true := by
    rw [← error?_isSome_examination, h.error?_examination]
    rfl
  rw [List.flatMap_append, upTo_append, upTo_of_all hbefore, hany, List.flatMap_cons, upTo_append,
    h.upTo_callsOn, hpath]
  simp

end Answers

/-- **A run stops at the first error.** It makes the calls on its images in order, up to the first
that fails, and all of them if none does. If some fail, the status is 2, the error is that of the
first of them, and the reports on the images before are all that stands on the standard output, or
nothing if JSON is asked for. If there are no settings or no images, no call is made and nothing
printed. -/
theorem observe_stops_at_first_error (site : Site) (answer : Settings → Answers ε)
    (a : Arguments) :
    let t := (observe site answer a).1
    let calls := (observe site answer a).2
    (∀ e, Run.settings site a = .error e → calls = [] ∧ t.StoppedBy e "") ∧
    ∀ s, Run.settings (ε := ε) site a = .ok s →
      (∀ e, Images.find site.look a.path s.extensions = .error e →
        calls = [] ∧ t.StoppedBy (.images e) "") ∧
      ∀ paths, Images.find site.look a.path s.extensions = .ok paths →
        calls = upTo (answer s).fails (paths.flatMap callsOn) ∧
        ((answer s).Complete paths →
          calls = paths.flatMap callsOn ∧ ∃ status, t.ending = .ok status) ∧
        (¬ (answer s).Complete paths → ∃ before path after callsOnPath e,
          paths = before ++ path :: after ∧ (answer s).Complete before ∧
          (answer s).FirstError path callsOnPath e) ∧
        ∀ before path after callsOnPath e, paths = before ++ path :: after →
          (answer s).Complete before → (answer s).FirstError path callsOnPath e →
          calls = before.flatMap callsOn ++ callsOnPath ∧
          ((answer s).outcomes s before).map Prod.fst = before ∧
          t.StoppedBy (.verifier e)
            (if a.json then "" else Run.reports ((answer s).outcomes s before) a.verbose) := by
  intro t calls
  refine ⟨fun e he => ?_, fun s hs => ⟨fun e hp => ?_, fun paths hp => ?_⟩⟩
  · have ho := observe_of_error answer he
    have ht : t = .ofError e := congrArg Prod.fst ho
    exact ⟨congrArg Prod.snd ho, ht ▸ Transcript.stoppedBy_ofError e⟩
  · have ho := observe_of_image_error answer hs hp
    have ht : t = .ofError (.images e) := congrArg Prod.fst ho
    exact ⟨congrArg Prod.snd ho, ht ▸ Transcript.stoppedBy_ofError _⟩
  · have ho := observe_of_images answer hs hp
    have ht : t = Run.transcript site a s ((answer s).examinations paths) := congrArg Prod.fst ho
    have hc : calls = upTo (answer s).fails (paths.flatMap callsOn) := congrArg Prod.snd ho
    refine ⟨hc, fun h => ?_, fun h => ?_,
      fun before path after callsOnPath e hpaths hb he => ?_⟩
    · rw [hc, ht, upTo_of_all (Answers.complete_iff.mp h), Answers.transcript_of_complete h]
      exact ⟨rfl, _, rfl⟩
    · obtain ⟨before, path, after, e, hpaths, hb, he⟩ :=
        ((answer s).complete_or_exists_first paths).resolve_left h
      obtain ⟨callsOnPath, he⟩ := Answers.exists_firstError he
      exact ⟨before, path, after, callsOnPath, e, hpaths, hb, he⟩
    · subst hpaths
      rw [hc, ht, he.upTo_calls hb, Answers.transcript_of_first hb he.error?_examination]
      exact ⟨rfl, hb.map_fst_outcomes s, Transcript.stoppedBy_mk _ _⟩

/-- Verifiers that disagree on every image, the candidate of which cannot be run on one. -/
def Answers.onlyReferenceOn (missing : OsString) : Answers String := fun role path =>
  if role = .reference then .ok ⟨0, ⟨⟨some "1", some "1"⟩, none⟩⟩
  else if path = missing then .error "gone"
  else .ok ⟨1, ⟨⟨some "1", some "1"⟩, none⟩⟩

/-- The candidate cannot be run on the second of three images. On the first the verifiers disagree,
which stops nothing. -/
theorem observe_candidate_error_on_second :
    let o := observe .small (fun _ => .onlyReferenceOn "case/b.E01")
      { path := "case", exitZero := true }
    o.2 = [⟨.reference, "case/a.E01"⟩, ⟨.candidate, "case/a.E01"⟩,
        ⟨.reference, "case/b.E01"⟩, ⟨.candidate, "case/b.E01"⟩] ∧
      o.1.StoppedBy (.verifier "gone")
        "case/a.E01\nReturn code doesn't equal: 0 (ewfverify), 1 (e01verify)\n" := by
  intro o
  have hb : (Answers.onlyReferenceOn "case/b.E01").Complete ["case/a.E01"] := by
    rintro path hp (_ | _)
    · exact ⟨_, rfl⟩
    · rw [List.mem_singleton.mp hp]
      exact ⟨_, rfl⟩
  have he : (Answers.onlyReferenceOn "case/b.E01").FirstError "case/b.E01" _ "gone" :=
    .candidate rfl rfl
  have ho : Run.reports ((Answers.onlyReferenceOn "case/b.E01").outcomes {} ["case/a.E01"]) false =
      "case/a.E01\nReturn code doesn't equal: 0 (ewfverify), 1 (e01verify)\n" := by decide +kernel
  obtain ⟨-, -, -, hf⟩ := ((observe_stops_at_first_error .small
    (fun _ => .onlyReferenceOn "case/b.E01") { path := "case", exitZero := true }).2 {}
    (settings_small rfl)).2 _ find_small
  obtain ⟨hc, -, ht⟩ := hf ["case/a.E01"] "case/b.E01" ["case/c.E01"] _ _ rfl hb he
  exact ⟨hc, ho ▸ ht⟩

end CrossCheck
