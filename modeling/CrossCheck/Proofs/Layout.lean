import CrossCheck.Proofs.Recasing

/-! # Reports in another layout

Verifiers lay their reports out differently, and the hashes are the same (`extract_relaid`). What is
found by position does not depend on which white space stands between words, as long as there is
some where there was some (`hexTokens_respaced`); carriage returns before the newlines are a case of
that. What is found by label lines depends neither on blanks and carriage returns at the end of
lines (`labels_of_padded`) nor on the case of letters. -/

namespace CrossCheck.Extract

open Text

/-! ### White space between words -/

/-- The function puts a run of white space for each white space character and leaves all others. -/
structure Respaces (f : Char → List Char) : Prop where
  of_solid : ∀ c, isWhitespace c = false → f c = [c]
  ne_nil : ∀ c, isWhitespace c = true → f c ≠ []
  white : ∀ c, isWhitespace c = true → ∀ d ∈ f c, isWhitespace d = true

section
variable {n : Nat} {c d : Char} (hc : isWhitespace c = true) (hd : isWhitespace d = true)
include hc hd

theorem hexTokens_cons_congr (t : List Char) : hexTokens n (c :: t) = hexTokens n (d :: t) := by
  simp only [hexTokens, innerFields, List.splitOnP_cons_eq_if_modifyHead, if_pos hc, if_pos hd]

theorem hexTokens_concat_congr (s : List Char) :
    hexTokens n (s ++ [c]) = hexTokens n (s ++ [d]) := by
  simp only [hexTokens, innerFields, List.splitOnP_append_cons _ _ hc,
    List.splitOnP_append_cons _ _ hd]

/-- No token stands between two neighbours. -/
theorem hexTokens_cons_cons (t : List Char) : hexTokens n (c :: d :: t) = hexTokens n (d :: t) := by
  have hfields : innerFields (c :: d :: t) = [] :: innerFields (d :: t) :=
    innerFields_cons_append hc hd (w := []) (by simp) t
  rw [hexTokens, hfields, List.filter_cons_of_neg (by simp), ← hexTokens]

end

/-- A run of white space at the start of a text is like one white space character. -/
theorem hexTokens_run_append {n : Nat} {r : List Char} (hr : r ≠ [])
    (hwhite : ∀ x ∈ r, isWhitespace x = true) {c : Char} (hc : isWhitespace c = true)
    (t : List Char) : hexTokens n (r ++ t) = hexTokens n (c :: t) := by
  induction r with
  | nil => exact absurd rfl hr
  | cons d r ih =>
    obtain ⟨hd, hwhite⟩ := List.forall_mem_cons.mp hwhite
    rcases r with _ | ⟨e, r⟩
    · exact hexTokens_cons_congr hd hc t
    · have he : isWhitespace e = true := hwhite e List.mem_cons_self
      rw [← ih (List.cons_ne_nil e r) hwhite]
      exact hexTokens_cons_cons hd he (r ++ t)

/-- **The tokens do not depend on the white space** between words. -/
theorem hexTokens_respaced {f : Char → List Char} (hf : Respaces f) (n : Nat) (s : List Char) :
    hexTokens n (s.flatMap f) = hexTokens n s := by
  -- Character by character, after what is read already.
  suffices hafter : ∀ p, hexTokens n (p ++ s.flatMap f) = hexTokens n (p ++ s) from hafter []
  induction s with
  | nil => exact fun p => rfl
  | cons c s ih =>
    intro p
    rw [List.flatMap_cons]
    rcases hc : isWhitespace c with _ | _
    · have hnext := ih (p ++ [c])
      rw [List.append_assoc, List.append_assoc] at hnext
      rw [hf.of_solid c hc]
      exact hnext
    · obtain ⟨d, r, hr⟩ := List.exists_cons_of_ne_nil (hf.ne_nil c hc)
      have hd : isWhitespace d = true := hf.white c hc d (hr ▸ List.mem_cons_self)
      have hrun : hexTokens n (f c ++ s.flatMap f) = hexTokens n (c :: s) := by
        rw [hexTokens_run_append (hf.ne_nil c hc) (hf.white c hc) hc]
        exact ih [c]
      calc hexTokens n (p ++ (f c ++ s.flatMap f))
        _ = hexTokens n (p ++ [d]) ++ hexTokens n (f c ++ s.flatMap f) := by
          rw [hr]
          exact hexTokens_append_cons n p (r ++ s.flatMap f) hd
        _ = hexTokens n (p ++ [c]) ++ hexTokens n (c :: s) := by
          rw [hexTokens_concat_congr hd hc, hrun]
        _ = hexTokens n (p ++ c :: s) := (hexTokens_append_cons n p s hc).symm

/-- The text with a carriage return before each newline. -/
def withReturns (s : List Char) : List Char :=
  s.flatMap fun c => if c = '\n' then ['\r', '\n'] else [c]

theorem hexTokens_withReturns (n : Nat) (s : List Char) :
    hexTokens n (withReturns s) = hexTokens n s := by
  refine hexTokens_respaced ⟨fun c hc => ?_, fun c hc => ?_, fun c hc d hd => ?_⟩ n s
  · refine if_neg ?_
    rintro rfl
    exact absurd hc (by decide)
  · split_ifs <;> exact List.cons_ne_nil _ _
  · split_ifs at hd with hn
    · exact List.all_eq_true.mp (by decide : ['\r', '\n'].all isWhitespace = true) d hd
    · exact List.mem_singleton.mp hd ▸ hc

/-! ### The ends of lines -/

/-- **Text with padding:** spaces, tabs and carriage returns are put in right before newlines and at
the end. -/
inductive Padded : List Char → List Char → Prop
  | last {p : List Char} : (∀ c ∈ p, isBlank c = true ∨ c = '\r') → Padded [] p
  | newline {p s t : List Char} : (∀ c ∈ p, isBlank c = true ∨ c = '\r') → Padded s t →
    Padded ('\n' :: s) (p ++ '\n' :: t)
  | char {s t : List Char} (c : Char) : Padded s t → Padded (c :: s) (c :: t)

theorem Padded.append {s t : List Char} (h : Padded s t) (u : List Char) :
    Padded (u ++ s) (u ++ t) := by
  induction u with
  | nil => exact h
  | cons c u ih => exact ih.char c

theorem padded_withReturns (s : List Char) : Padded s (withReturns s) := by
  induction s with
  | nil => exact .last (p := []) (by simp)
  | cons c s ih =>
    unfold withReturns
    rw [List.flatMap_cons, ← withReturns]
    split_ifs with hc
    · subst hc
      exact .newline (p := ['\r']) (fun c hc => Or.inr (List.mem_singleton.mp hc)) ih
    · exact ih.char c

/-- **Padding makes no difference** to label lines. -/
theorem labels_of_padded {s t : List Char} (h : Padded s t) : labels t = labels s := by
  -- After the part of a line that is read already.
  suffices hafter : ∀ u, '\n' ∉ u → labels (u ++ t) = labels (u ++ s) from
    hafter [] List.not_mem_nil
  induction h with
  | @last p hp =>
    intro u hu
    rw [List.append_nil]
    exact labels_append_trail hu hp
  | @newline p s t hp _ ih =>
    intro u hu
    have hrest : labels t = labels s := ih [] List.not_mem_nil
    rw [← List.append_assoc, labels_append_newline, labels_append_newline, hrest,
      labels_append_trail hu hp]
  | @char s t c _ ih =>
    intro u hu
    by_cases hc : c = '\n'
    · have hrest : labels t = labels s := ih [] List.not_mem_nil
      rw [hc, labels_append_newline, labels_append_newline, hrest]
    · have hnext := ih (u ++ [c]) (by simp [hu, Ne.symm hc])
      simpa only [List.append_assoc, List.singleton_append] using hnext

/-- **The layout of a report makes no difference.** By position and by label lines, the hashes of a
report are the same with a carriage return before each newline. By label lines they are also the
same with letters in another case, and with blanks and carriage returns put in before newlines and
at the end. -/
theorem extract_relaid (report : String) :
    (∀ mode : ExtractMode,
      mode.extract (.ofList (withReturns report.toList)) = mode.extract report) ∧
    (∀ other : String, Recased report.toList other.toList →
      ExtractMode.labelled.extract other = ExtractMode.labelled.extract report) ∧
    ∀ other : String, Padded report.toList other.toList →
      ExtractMode.labelled.extract other = ExtractMode.labelled.extract report := by
  have hpadded : ∀ other : List Char, Padded report.toList other →
      byLabels other = byLabels report.toList :=
    fun other h => congrArg ofLabels (labels_of_padded h)
  refine ⟨fun mode => ?_, fun other h => byLabels_eq_of_recased h, fun other h => hpadded _ h⟩
  cases mode with
  | tokens =>
    simp only [ExtractMode.extract, String.toList_ofList, byTokens, tokenPair,
      hexTokens_withReturns]
  | labelled =>
    simp only [ExtractMode.extract, String.toList_ofList]
    exact hpadded _ (padded_withReturns report.toList)

/-- A report with a line that is no label line because of a form feed, and one that ends without a
newline, in other letters and with other line ends. -/
theorem extract_relaid_of_odd_lines :
    let first := "MD5 hash stored in file: 0123456789ABCDEF0123456789abcdef".toList
    let odd := "MD5 hash calculated over data: n/a\x0c".toList
    let last := "SHA1 hash calculated over data: n/A".toList
    let report := String.ofList (first ++ '\n' :: (odd ++ '\n' :: last))
    let other := report.map Char.toUpper
    let padded := String.ofList
      (first ++ (" \t\r".toList ++ '\n' :: (odd ++ '\n' :: (last ++ "\r \r".toList))))
    Recased report.toList other.toList ∧ Padded report.toList padded.toList ∧
      ExtractMode.labelled.extract (.ofList (withReturns report.toList)) =
        ExtractMode.labelled.extract report ∧
      ExtractMode.labelled.extract other = ExtractMode.labelled.extract report ∧
      ExtractMode.labelled.extract padded = ExtractMode.labelled.extract report ∧
      (ExtractMode.labelled.extract report).value .md5 .stored =
        some "0123456789abcdef0123456789abcdef" := by
  intro first odd last report other padded
  let text := first ++ '\n' :: (odd ++ '\n' :: last)
  have hreport : report.toList = text := String.toList_ofList
  have hrecased : Recased report.toList other.toList := by
    rw [String.toList_map, hreport]
    decide +kernel
  have hpadded : Padded report.toList padded.toList := by
    simp only [report, padded, String.toList_ofList]
    refine .append (.newline (forall_mem_of_all (by decide)) (.append (.char '\n' ?_) odd)) first
    have hend := (Padded.last (p := "\r \r".toList) (forall_mem_of_all (by decide))).append last
    rwa [List.append_nil] at hend
  have hvalue : (byLabels text).value .md5 .stored = some "0123456789abcdef0123456789abcdef" := by
    decide +kernel
  rw [← hreport] at hvalue
  exact ⟨hrecased, hpadded, (extract_relaid report).1 .labelled,
    (extract_relaid report).2.1 other hrecased, (extract_relaid report).2.2 padded hpadded, hvalue⟩

end CrossCheck.Extract
