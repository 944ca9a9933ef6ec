import CrossCheck.Execution
import CrossCheck.Proofs.LabelLine
import CrossCheck.Proofs.Lines
import Mathlib.Data.List.Chain

/-! # Lines of two streams in any order

A program writes to two streams, and their lines arrive in any order that keeps those of each stream
in place (`Merge`). If no line of the error stream is a label line, the label lines of the output
are those of the standard output, whatever the order (`extract_output`). There is one thing to take
care of: the last line of a stream may have no newline, and then it runs on into the line that
arrives next. The two together must have no other label line than the one of them on the standard
output (`Arrival.Joins`), which is not so of every order
(`extract_output_ne_of_unterminated_error`).

The proof goes along the arrivals: at a newline a text has the label lines of its parts, and a line
without a newline is the last of its stream, so that only lines of the other stream follow. -/

namespace CrossCheck

open Extract Text

namespace Arrival

/-- A newline ends the line. -/
def Ended (x : Arrival) : Prop :=
  x.line.getLast? = some '\n'

instance (x : Arrival) : Decidable x.Ended := inferInstanceAs (Decidable (_ = _))

/-- **Two lines may follow each other:** a newline ends the first, or both together have the label
lines that the one of them on the standard output has. -/
def Joins (x y : Arrival) : Prop :=
  x.Ended ∨ labels (x.line ++ y.line) = labels (linesOn .stdout [x, y]).flatten

instance (x y : Arrival) : Decidable (x.Joins y) := inferInstanceAs (Decidable (_ ∨ _))

end Arrival

/-! ### Label lines -/

namespace Extract

/-- A label line, with its newline or without. -/
def IsLabelLine (line : List Char) : Prop :=
  ∃ d : LabelLine, d.text = line ∨ d.text ++ ['\n'] = line

theorem isLabelLine_iff {line : List Char} :
    IsLabelLine line ↔ (Label.ofLine? line).isSome ∨
      line.getLast? = some '\n' ∧ (Label.ofLine? line.dropLast).isSome := by
  simp only [Option.isSome_iff_exists, ofLine?_eq_some_iff, List.getLast?_eq_some_iff]
  constructor
  · rintro ⟨d, rfl | rfl⟩
    · exact Or.inl ⟨_, d, rfl, rfl⟩
    · exact Or.inr ⟨⟨_, rfl⟩, _, d, by simp, rfl⟩
  · rintro (⟨_, d, rfl, -⟩ | ⟨⟨t, rfl⟩, _, d, hd, -⟩)
    · exact ⟨d, Or.inl rfl⟩
    · exact ⟨d, Or.inr (by rw [hd, List.dropLast_concat])⟩

instance (line : List Char) : Decidable (IsLabelLine line) :=
  decidable_of_iff _ isLabelLine_iff.symm

theorem labels_append_of_ended {s : List Char} (h : s.getLast? = some '\n') (t : List Char) :
    labels (s ++ t) = labels s ++ labels t := by
  obtain ⟨u, rfl⟩ := List.getLast?_eq_some_iff.mp h
  rw [List.append_assoc, List.singleton_append, labels_append_newline, labels_append_newline,
    labels_nil, List.append_nil]

theorem labels_eq_nil_of_not_isLabelLine {t line : List Char} (ht : '\n' ∉ t)
    (hline : line = t ∨ line = t ++ ['\n']) (h : ¬ IsLabelLine line) : labels line = [] := by
  have hnone : Label.ofLine? t = none := ofLine?_eq_none_iff.mpr fun d hd => h ⟨d, by
    rcases hline with rfl | rfl
    · exact Or.inl hd
    · exact Or.inr (by rw [hd])⟩
  have hlabels : labels t = [] := by rw [labels_of_newline_notMem ht, hnone, Option.toList_none]
  rcases hline with rfl | rfl
  · exact hlabels
  · rw [labels_append_newline, hlabels, labels_nil, List.append_nil]

end Extract

namespace Arrival

theorem linesOn_cons (p : Pipe) (x : Arrival) (as : List Arrival) :
    linesOn p (x :: as) = if x.pipe = p then x.line :: linesOn p as else linesOn p as := by
  unfold linesOn
  rw [List.filter_cons]
  by_cases h : x.pipe = p <;> simp [h]

/-! ### Lines in their places -/

/-- The lines of each stream are as they are read off it. -/
def Lined (as : List Arrival) : Prop :=
  ∀ p, LineList (linesOn p as)

/-- What a line adds to the standard output. -/
def onStdout (x : Arrival) : List Char :=
  if x.pipe = .stdout then x.line else []

theorem flatten_linesOn_stdout (as : List Arrival) :
    (linesOn .stdout as).flatten = as.flatMap onStdout := by
  induction as with
  | nil => rfl
  | cons x as ih =>
    rw [linesOn_cons, List.flatMap_cons, ← ih, onStdout]
    split_ifs
    · rfl
    · rfl

theorem joins_iff {x y : Arrival} :
    x.Joins y ↔ x.Ended ∨ labels (x.line ++ y.line) = labels (x.onStdout ++ y.onStdout) := by
  unfold Joins
  rw [flatten_linesOn_stdout]
  simp

theorem isChain_joins_of_ended {as : List Arrival} (h : ∀ x ∈ as.dropLast, x.Ended) :
    as.IsChain Joins := by
  induction as with
  | nil => exact .nil
  | cons x as ih =>
    rcases as with _ | ⟨y, as⟩
    · exact .singleton x
    · exact .cons_cons (Or.inl (h x (by simp))) (ih fun z hz => h z (by simp [hz]))

namespace Lined

variable {x : Arrival} {as : List Arrival}

theorem tail (h : Lined (x :: as)) : Lined as := by
  intro p
  have hp := h p
  rw [linesOn_cons] at hp
  split_ifs at hp
  · exact hp.tail
  · exact hp

/-- After a line without a newline there are only lines of the other stream. -/
theorem pipe_ne (h : Lined (x :: as)) (hx : ¬ x.Ended) : ∀ y ∈ as, y.pipe ≠ x.pipe := by
  intro y hy hpipe
  have hp := h x.pipe
  rw [linesOn_cons, if_pos rfl] at hp
  have hmem : y.line ∈ linesOn x.pipe as :=
    List.mem_map_of_mem (List.mem_filter.mpr ⟨hy, by simp [hpipe]⟩)
  rw [hp.eq_nil_of_rest hx] at hmem
  cases hmem

/-- After two lines without a newline both streams are at their end. -/
theorem eq_nil {y : Arrival} (h : Lined (x :: y :: as)) (hx : ¬ x.Ended) (hy : ¬ y.Ended) :
    as = [] := by
  refine List.eq_nil_iff_forall_not_mem.mpr fun z hz => ?_
  have h1 := h.pipe_ne hx y List.mem_cons_self
  have h2 := h.pipe_ne hx z (List.mem_cons_of_mem _ hz)
  have h3 := h.tail.pipe_ne hy z hz
  revert h1 h2 h3
  cases x.pipe <;> cases y.pipe <;> cases z.pipe <;> simp

end Lined

theorem onStdout_of_pipe_ne {x : Arrival} (h : x.pipe ≠ .stdout) : x.onStdout = [] :=
  if_neg h

theorem flatMap_onStdout_of_pipe_ne {as : List Arrival} (h : ∀ x ∈ as, x.pipe ≠ .stdout) :
    as.flatMap onStdout = [] :=
  List.flatMap_eq_nil_iff.mpr fun x hx => onStdout_of_pipe_ne (h x hx)

theorem Ended.labels_onStdout_append {x : Arrival} (hx : x.Ended) (t : List Char) :
    labels (x.onStdout ++ t) = labels x.onStdout ++ labels t := by
  unfold onStdout
  split_ifs
  · exact labels_append_of_ended hx t
  · rw [labels_nil]
    rfl

theorem Lined.labels_onStdout_append {x y : Arrival} {as : List Arrival}
    (h : Lined (x :: y :: as)) (hx : ¬ x.Ended) (hy : y.Ended) :
    labels (x.onStdout ++ y.onStdout ++ as.flatMap onStdout) =
      labels (x.onStdout ++ y.onStdout) ++ labels (as.flatMap onStdout) := by
  by_cases hp : x.pipe = .stdout
  · have has : ∀ z ∈ as, z.pipe ≠ .stdout :=
      fun z hz => hp ▸ h.pipe_ne hx z (List.mem_cons_of_mem _ hz)
    rw [flatMap_onStdout_of_pipe_ne has, labels_nil, List.append_nil, List.append_nil]
  · rw [onStdout_of_pipe_ne hp, List.nil_append, hy.labels_onStdout_append]

/-- **The label lines of all lines together** are those of the standard output. -/
theorem labels_output : ∀ {as : List Arrival}, Lined as →
    (∀ x ∈ as, labels x.line = labels x.onStdout) → as.IsChain Joins →
      labels (output as) = labels (as.flatMap onStdout)
  | [], _, _, _ => rfl
  | [x], _, hline, _ => by
    simpa [output] using hline x (by simp)
  | x :: y :: as, h, hline, hjoin => by
    obtain ⟨hx, hline'⟩ := List.forall_mem_cons.mp hline
    obtain ⟨hxy, hjoin'⟩ := List.isChain_cons_cons.mp hjoin
    have ih := labels_output h.tail hline' hjoin'
    by_cases hxe : x.Ended
    · calc labels (x.line ++ output (y :: as))
          = labels x.line ++ labels (output (y :: as)) := labels_append_of_ended hxe _
        _ = labels x.onStdout ++ labels ((y :: as).flatMap onStdout) := by rw [hx, ih]
        _ = labels ((x :: y :: as).flatMap onStdout) :=
          (hxe.labels_onStdout_append _).symm
    -- The line runs on into the next.
    have hxy := (joins_iff.mp hxy).resolve_left hxe
    have hout : output (x :: y :: as) = x.line ++ y.line ++ output as := by simp [output]
    have hstd : (x :: y :: as).flatMap onStdout =
        x.onStdout ++ y.onStdout ++ as.flatMap onStdout := by simp
    by_cases hye : y.Ended
    · have ih' := labels_output h.tail.tail (List.forall_mem_cons.mp hline').2 hjoin'.tail
      have hend : (x.line ++ y.line).getLast? = some '\n' := by
        rw [List.getLast?_append, hye, Option.some_or]
      rw [hout, hstd, labels_append_of_ended hend, h.labels_onStdout_append hxe hye, hxy, ih']
    · rw [hout, hstd, h.eq_nil hxe hye]
      simpa [output] using hxy

end Arrival

/-- **The hashes do not depend on the order** in which the lines of two streams arrive, if no line
of the error stream is a label line and no line without a newline spoils the one that follows it or
is spoilt by it. There is no such line if at most the very last has no newline. -/
theorem extract_output {stdout stderr : List UInt8} (m : Merge stdout stderr)
    (hnone : ∀ line ∈ decodedLines stderr, ¬ IsLabelLine line) :
    ((∀ x ∈ m.arrivals.dropLast, x.Ended) → m.arrivals.IsChain Arrival.Joins) ∧
    (m.arrivals.IsChain Arrival.Joins →
      ExtractMode.labelled.extract m.output =
        ExtractMode.labelled.extract (.ofList (decodedLines stdout).flatten)) := by
  refine ⟨Arrival.isChain_joins_of_ended, fun hjoin => ?_⟩
  have hlined : Arrival.Lined m.arrivals := by
    rintro (_ | _)
    · exact m.linesOn_stdout ▸ lineList_decodedLines stdout
    · exact m.linesOn_stderr ▸ lineList_decodedLines stderr
  have hline : ∀ x ∈ m.arrivals, labels x.line = labels x.onStdout := by
    intro x hx
    cases hp : x.pipe with
    | stdout => rw [Arrival.onStdout, if_pos hp]
    | stderr =>
      have hmem : x.line ∈ decodedLines stderr := by
        rw [← m.linesOn_stderr]
        exact List.mem_map_of_mem (List.mem_filter.mpr ⟨hx, by simp [hp]⟩)
      obtain ⟨t, ht, hline⟩ := (lineList_decodedLines stderr).exists_of_mem hmem
      rw [labels_eq_nil_of_not_isLabelLine ht hline (hnone _ hmem),
        Arrival.onStdout_of_pipe_ne (by simp [hp]), labels_nil]
  have hlabels := Arrival.labels_output hlined hline hjoin
  rw [← Arrival.flatten_linesOn_stdout, m.linesOn_stdout] at hlabels
  simp only [ExtractMode.extract, Merge.output, String.toList_ofList, byLabels, hlabels]

/-- The standard output is a report with a line that has a value; the error stream is one line
without a newline, which arrives after a line of the report that says nothing. -/
theorem extract_output_of_unterminated_error :
    let stdout := Utf8.encode "checking\nMD5 hash stored in file: aa\n".toList
    let stderr := Utf8.encode "50%".toList
    let m : Merge stdout stderr :=
      { arrivals := [⟨.stderr, "50%".toList⟩, ⟨.stdout, "checking\n".toList⟩,
          ⟨.stdout, "MD5 hash stored in file: aa\n".toList⟩]
        linesOn_stdout := by decide +kernel
        linesOn_stderr := by decide +kernel }
    (∀ line ∈ decodedLines stderr, ¬ IsLabelLine line) ∧ m.arrivals.IsChain Arrival.Joins ∧
      ExtractMode.labelled.extract m.output =
        ExtractMode.labelled.extract (.ofList (decodedLines stdout).flatten) := by
  intro stdout stderr m
  have hnone : ∀ line ∈ decodedLines stderr, ¬ IsLabelLine line := by decide +kernel
  have hjoin : m.arrivals.IsChain Arrival.Joins := by decide +kernel
  exact ⟨hnone, hjoin, (extract_output m hnone).2 hjoin⟩

/-- The order may matter: an error message without a newline hides the label line after it. -/
theorem extract_output_ne_of_unterminated_error :
    let stdout := Utf8.encode "MD5 hash stored in file: aa\n".toList
    let stderr := Utf8.encode "50%".toList
    let m : Merge stdout stderr :=
      { arrivals := [⟨.stderr, "50%".toList⟩, ⟨.stdout, "MD5 hash stored in file: aa\n".toList⟩]
        linesOn_stdout := by decide +kernel
        linesOn_stderr := by decide +kernel }
    (∀ line ∈ decodedLines stderr, ¬ IsLabelLine line) ∧
      ExtractMode.labelled.extract m.output ≠
        ExtractMode.labelled.extract (.ofList (decodedLines stdout).flatten) := by
  intro stdout stderr m
  refine ⟨by decide +kernel, fun h => ?_⟩
  have hhidden : (ExtractMode.labelled.extract m.output).md5.stored.isSome = false := by
    decide +kernel
  rw [h] at hhidden
  exact absurd hhidden (by decide +kernel)

end CrossCheck
