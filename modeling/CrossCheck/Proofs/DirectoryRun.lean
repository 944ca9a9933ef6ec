import CrossCheck.Proofs.JsonReport
import CrossCheck.Proofs.Listing
import CrossCheck.Proofs.ReportModes

/-! # A directory is checked image by image

What a run does about one image does not depend on the others. Its outcomes are put together from
those on each image (`Answers.outcomes_eq_flatMap`), and so are the text, the status and the entries
that it makes of them. A run on a directory therefore leaves what runs on each of its images leave
(`observe_directory`), as long as the directory tells the truth about its files, which it does in
every file tree (`Host.Snapshot.truthful_site`). -/

namespace CrossCheck

/-! ### Directories and their files -/

/-- Directories tell the truth: an entry that is said to be a file is found as one at its path. -/
def Site.Truthful (site : Site) : Prop :=
  ∀ path entries, site.look path = .directory entries →
    ∀ e ∈ entries, e.isFile = true → site.look (Path.join path e.name) = .file

/-- The directories of a file tree tell the truth. -/
theorem Host.Snapshot.truthful_site (s : Snapshot) : s.site.Truthful := by
  intro path entries h e he hfile
  have hlook : s.tree.look s.directory path = .directory entries := h
  obtain ⟨place, rfl⟩ := Tree.exists_of_look_eq_directory hlook
  exact ((Tree.isFile_iff_of_mem_entries he).mp hfile).look

theorem Images.exists_of_mem_ofEntries {path image : OsString} {extensions : List String}
    {entries : List Entry} (h : image ∈ ofEntries path extensions entries) :
    ∃ e ∈ entries, e.isFile = true ∧ Path.join path e.name = image := by
  obtain ⟨e, he, rfl⟩ := List.mem_map.mp h
  obtain ⟨hmem, himage⟩ := List.mem_filter.mp (List.mem_mergeSort.mp he)
  simp only [isImage, Bool.and_eq_true] at himage
  exact ⟨e, hmem, himage.1.2, rfl⟩

/-! ### Outcomes one after the other -/

namespace Run

theorem status_append (z : Bool) (os ps : List (OsString × Outcome)) :
    status z (failures (os ++ ps)) = max (status z (failures os)) (status z (failures ps)) := by
  have hsum : failures (os ++ ps) = failures os + failures ps := List.countP_append
  cases z with
  | true => simp [status]
  | false =>
    simp only [status, hsum, Bool.not_false, Bool.and_true, decide_eq_true_eq]
    split_ifs <;> omega

variable {α : Type} (f : α → List (OsString × Outcome)) (xs : List α)

theorem status_flatMap (z : Bool) :
    status z (failures (xs.flatMap f)) =
      (xs.map fun x => status z (failures (f x))).foldr max 0 := by
  induction xs with
  | nil => cases z <;> rfl
  | cons x xs ih => rw [List.flatMap_cons, status_append, ih, List.map_cons, List.foldr_cons]

theorem reports_flatMap (verbose : Bool) :
    reports (xs.flatMap f) verbose = String.join (xs.map fun x => reports (f x) verbose) := by
  induction xs with
  | nil => rfl
  | cons x xs ih => rw [List.flatMap_cons, reports_append, ih, List.map_cons, String.join_cons]

theorem ofOutcomes_flatMap :
    FileReport.ofOutcomes (xs.flatMap f) = xs.flatMap fun x => FileReport.ofOutcomes (f x) := by
  simp [FileReport.ofOutcomes, List.map_flatMap]

end Run

variable {ε : Type}

theorem Answers.outcomes_eq_flatMap (answer : Answers ε) (s : Settings) (paths : List OsString) :
    answer.outcomes s paths = paths.flatMap fun path => answer.outcomes s [path] := by
  induction paths with
  | nil => rfl
  | cons path paths ih =>
    rw [List.flatMap_cons, ← ih]
    exact List.filterMap_append (l := [path])

/-! ### Runs -/

/-- A run that made all calls on its images and ended without an error, with what it printed. -/
structure Completed (a : Arguments) (paths : List OsString) (os : List (OsString × Outcome))
    (x : Transcript ε × List Call) : Prop where
  calls : x.2 = paths.flatMap callsOn
  ending : x.1.ending = .ok (Run.status a.exitZero (Run.failures os))
  text : a.json = false → a.verbose = false → x.1.stdout = Run.reports os false
  json : a.json = true → x.1.stdout = FileReport.print (FileReport.ofOutcomes os)

section Completed
variable {a : Arguments} {paths : List OsString} {os : List (OsString × Outcome)}
  {x : Transcript ε × List Call} (h : Completed a paths os x)
include h

theorem Completed.exitStatus : x.1.exitStatus = Run.status a.exitZero (Run.failures os) := by
  rw [Transcript.exitStatus, h.ending]

theorem Completed.readAll?_stdout (hj : a.json = true) :
    FileReport.readAll? x.1.stdout = some (FileReport.ofOutcomes os) := by
  rw [h.json hj, FileReport.readAll?_print]

end Completed

theorem completed_observe {site : Site} {answer : Settings → Answers ε} {a : Arguments}
    {s : Settings} {paths : List OsString} (hs : Run.settings (ε := ε) site a = .ok s)
    (hp : Images.find site.look a.path s.extensions = .ok paths)
    (hc : (answer s).Complete paths) :
    Completed a paths ((answer s).outcomes s paths) (observe site answer a) := by
  rw [observe_of_images answer hs hp, Answers.transcript_of_complete hc]
  refine ⟨upTo_of_all (Answers.complete_iff.mp hc), rfl, fun hj hv => ?_, fun hj => ?_⟩
  · simp [hj, hv, Run.summed]
  · simp only [hj, if_true]

/-- **A directory is checked image by image.** If both verifiers can be run on all images in it, a
run on the directory makes the calls of the runs on each of them. It ends without an error, and its
status is the highest of theirs. As text and not verbose it prints what they print, one after the
other, and its JSON report lists what theirs list. -/
theorem observe_directory (site : Site) (answer : Settings → Answers ε) (a : Arguments)
    (s : Settings) (entries : List Entry) (hl : site.Truthful)
    (hs : Run.settings (ε := ε) site a = .ok s) (hd : site.look a.path = .directory entries)
    (hc : (answer s).Complete (Images.ofEntries a.path s.extensions entries)) :
    let paths := Images.ofEntries a.path s.extensions entries
    let whole := observe site answer a
    let single := fun path => observe site answer { a with path }
    whole.2 = paths.flatMap (fun path => (single path).2) ∧
    (∃ status, whole.1.ending = .ok status) ∧
    whole.1.exitStatus = (paths.map fun path => (single path).1.exitStatus).foldr max 0 ∧
    (a.json = false → a.verbose = false →
      whole.1.stdout = String.join (paths.map fun path => (single path).1.stdout)) ∧
    (a.json = true → ∃ rs : OsString → List FileReport,
      (∀ path ∈ paths, FileReport.readAll? (single path).1.stdout = some (rs path)) ∧
      FileReport.readAll? whole.1.stdout = some (paths.flatMap rs)) := by
  intro paths whole single
  have hwhole : Completed a paths ((answer s).outcomes s paths) whole :=
    completed_observe hs (Images.find_of_directory hd s.extensions) hc
  -- each image is a file, so that a run on its path has no other image
  have hsingle : ∀ path ∈ paths,
      Completed { a with path } [path] ((answer s).outcomes s [path]) (single path) := by
    intro path hpath
    obtain ⟨e, he, hfile, rfl⟩ := Images.exists_of_mem_ofEntries hpath
    refine completed_observe hs (Images.find_of_file (hl _ _ hd e he hfile) s.extensions) ?_
    exact fun p hp => hc p (List.mem_singleton.mp hp ▸ hpath)
  rw [(answer s).outcomes_eq_flatMap] at hwhole
  refine ⟨?_, ⟨_, hwhole.ending⟩, ?_, fun hj hv => ?_, fun hj => ?_⟩
  · rw [hwhole.calls, List.flatMap_def, List.flatMap_def]
    refine congrArg _ (List.map_congr_left fun path hpath => ?_)
    simpa using ((hsingle path hpath).calls).symm
  · rw [hwhole.exitStatus, Run.status_flatMap]
    refine congrArg (List.foldr max 0) (List.map_congr_left fun path hpath => ?_)
    exact ((hsingle path hpath).exitStatus).symm
  · rw [hwhole.text hj hv, Run.reports_flatMap]
    refine congrArg String.join (List.map_congr_left fun path hpath => ?_)
    exact ((hsingle path hpath).text hj hv).symm
  · refine ⟨fun path => FileReport.ofOutcomes ((answer s).outcomes s [path]),
      fun path hpath => (hsingle path hpath).readAll?_stdout hj, ?_⟩
    rw [hwhole.readAll?_stdout hj, Run.ofOutcomes_flatMap]

/-- What a directory holds: two images and three entries that are none. -/
def Site.shelfEntries : List Entry :=
  [⟨"._a.E01", true⟩, ⟨"a.E01", true⟩, ⟨"b.e01", true⟩, ⟨"c.E01", false⟩, ⟨"notes.txt", true⟩]

/-- A machine without any configuration and with one directory. -/
def Site.shelf : Site :=
  { Site.small with look := fun path =>
      if path = "case" then .directory shelfEntries else .file }

theorem Site.truthful_shelf : Site.shelf.Truthful := by
  intro path entries h e he _
  by_cases hpath : path = "case"
  · subst hpath
    obtain rfl : shelfEntries = entries := Place.directory.inj h
    have hne : ∀ e ∈ shelfEntries, Path.join "case" e.name ≠ "case" := by decide +kernel
    exact if_neg (hne e he)
  · exact absurd ((if_neg hpath).symm.trans h) (by simp)

theorem Images.ofEntries_shelf :
    ofEntries "case" ["e01"] Site.shelfEntries = ["case/a.E01", "case/b.e01"] := by
  let images : List Entry := [⟨"a.E01", true⟩, ⟨"b.e01", true⟩]
  have hi : Site.shelfEntries.filter (isImage ["e01"]) = images := by decide +kernel
  have hs : (images.mergeSort fun a b => decide (a.name ≤ b.name)) = images :=
    List.mergeSort_of_pairwise (by decide +kernel)
  rw [ofEntries, hi, hs]
  decide +kernel

/-- A run on two images in a directory, with a mismatch on the second. -/
theorem observe_directory_of_mismatch :
    let single := fun path => observe .shelf (fun _ => Answers.differentOn "case/b.e01") { path }
    (single "case").2 = (single "case/a.E01").2 ++ (single "case/b.e01").2 ∧
    (single "case").1.stdout =
      (single "case/a.E01").1.stdout ++ (single "case/b.e01").1.stdout ∧
    (single "case").1.exitStatus = 1 := by
  intro single
  have hc : (Answers.differentOn "case/b.e01").Complete
      (Images.ofEntries "case" ["e01"] Site.shelfEntries) := by
    intro path _ role
    unfold Answers.differentOn
    split <;> exact ⟨_, rfl⟩
  have h := observe_directory .shelf (fun _ => Answers.differentOn "case/b.e01")
    { path := "case" } {} Site.shelfEntries Site.truthful_shelf (settings_small rfl) rfl hc
  rw [Images.ofEntries_shelf] at h
  obtain ⟨hcalls, -, hstatus, htext, -⟩ := h
  refine ⟨?_, ?_, hstatus.trans ?_⟩
  · simpa using hcalls
  · simpa using htext rfl rfl
  · decide +kernel

end CrossCheck
