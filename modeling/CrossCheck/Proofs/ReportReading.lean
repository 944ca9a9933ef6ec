import CrossCheck.Execution
import CrossCheck.Report
import CrossCheck.Proofs.CommandLines
import CrossCheck.Proofs.JsonReading
import CrossCheck.Proofs.LabelLine
import CrossCheck.Proofs.Slots
import CrossCheck.Proofs.TokenPositions

/-! # Reading a report back

A report line is a heading and then the two values side by side. No heading starts another
(`Heading.eq_of_append_eq`). Of the values the first goes up to a space and the second up to what
ends the line, whatever the names are, so a line tells its discrepancy if no value has white space
in it and none is the word for an absent value (`Discrepancy.eq_of_describe_eq`). The values that
are found by position are such: they are hexadecimal digits (`Discrepancy.legible_between`).

A line has no newline unless a name has one. So a report that is written with names of command lines
falls into its lines, and tells the discrepancies (`Outcome.message_exact`). -/

namespace CrossCheck

open Text Extract

/-! ### Values -/

theorem newline_notMem_of_solid {s : List Char} (h : ∀ c ∈ s, isWhitespace c = false) : '\n' ∉ s :=
  fun hmem => absurd (h _ hmem) (by decide)

/-- A value is shown as one word, which is not the one for an absent value. -/
def Legible (v : Option String) : Prop :=
  v ≠ some "missing" ∧ ∀ s ∈ v, ∀ c ∈ s.toList, isWhitespace c = false

theorem Legible.solid {v : Option String} (h : Legible v) :
    ∀ c ∈ (shownValue v).toList, isWhitespace c = false := by
  rcases v with _ | s
  · exact forall_mem_of_all (by decide)
  · exact h.2 s rfl

theorem Legible.eq_of_shown {v w : Option String} (hv : Legible v) (hw : Legible w)
    (h : shownValue v = shownValue w) : v = w := by
  rcases v with _ | s <;> rcases w with _ | t
  · rfl
  · exact absurd (congrArg some h.symm) hw.1
  · exact absurd (congrArg some h) hv.1
  · exact congrArg some h

theorem Json.Whole.solid {z : Int} {s : List Char} (h : Whole z s) :
    ∀ c ∈ s, isWhitespace c = false := by
  have hdigits : ∀ {n : Nat} {s : List Char}, Numeral n s → ∀ c ∈ s, isWhitespace c = false := by
    intro n s h c hc
    have hdigit := h.digits c hc
    simp only [Char.isDigit, ge_iff_le, Bool.and_eq_true, decide_eq_true_eq] at hdigit
    exact isWhitespace_of_isLowerHex (isLowerHex_iff.mpr (Or.inl hdigit))
  cases h with
  | natural h => exact hdigits h
  | negative h => exact List.forall_mem_cons.mpr ⟨by decide, hdigits h⟩

theorem Json.Whole.unique {y z : Int} {s : List Char} (hy : Whole y s) (hz : Whole z s) :
    y = z := by
  have hends : EndsNumber [] := by simp [EndsNumber]
  have hread := (integer?_of_whole hy hends).symm.trans (integer?_of_whole hz hends)
  exact congrArg Prod.fst (Option.some.inj hread)

/-- **Two values side by side** can be told apart if the first one has no white space. -/
theorem eq_of_sideBySide_eq {r r' c c' m n : String}
    (hr : ∀ x ∈ r.toList, isWhitespace x = false) (hr' : ∀ x ∈ r'.toList, isWhitespace x = false)
    (h : sideBySide r m c n = sideBySide r' m c' n) : r = r' ∧ c = c' := by
  have hlist := congrArg String.toList h
  simp only [sideBySide, String.toList_append, List.append_assoc] at hlist
  have hfirst := eq_of_append_cons_eq hr hr' (by decide) (by decide) hlist
  obtain rfl := String.toList_inj.mp hfirst
  exact ⟨rfl, String.toList_inj.mp (by simpa using hlist)⟩

/-! ### Headings -/

/-- What a report line starts with. -/
inductive Heading where
  | exitCode
  | hash (algorithm : Algorithm) (kind : HashKind)
  | missing (algorithm : Algorithm) (kind : HashKind)
  deriving DecidableEq, Repr

namespace Heading

def text : Heading → List Char
  | exitCode => "Return code doesn't equal: ".toList
  | hash a k => a.name.toList ++ " ".toList ++ k.noun.toList ++ " ".toList ++ k.name.toList ++
      " doesn't equal: ".toList
  | missing a k => a.name.toList ++ " hash ".toList ++ k.name.toList ++
      " not reported by either tool".toList

/-- All headings. -/
def all : List Heading :=
  exitCode :: [Algorithm.md5, .sha1].flatMap fun a =>
    HashKind.order.flatMap fun k => [hash a k, missing a k]

theorem mem_all (h : Heading) : h ∈ all := by
  rcases h with _ | ⟨_ | _, _ | _⟩ | ⟨_ | _, _ | _⟩ <;> decide

theorem eq_of_starts {h k : Heading} (hp : h.text <+: k.text) : h = k := by
  have hall : ∀ h ∈ all, ∀ k ∈ all, h.text <+: k.text → h = k := by decide +kernel
  exact hall h h.mem_all k k.mem_all hp

/-- **No heading starts another,** so a line has one heading only. -/
theorem eq_of_append_eq {h k : Heading} {s t : List Char}
    (hst : h.text ++ s = k.text ++ t) : h = k := by
  rcases List.prefix_or_prefix_of_prefix (hst ▸ List.prefix_append _ s) (List.prefix_append _ t)
    with hp | hp
  · exact eq_of_starts hp
  · exact (eq_of_starts hp).symm

theorem newline_notMem_text (h : Heading) : '\n' ∉ h.text := by
  have hall : ∀ h ∈ all, '\n' ∉ h.text := by decide +kernel
  exact hall h h.mem_all

end Heading

/-! ### Lines -/

namespace Discrepancy

def heading : Discrepancy → Heading
  | exitCode _ _ => .exitCode
  | hash a k _ _ => .hash a k
  | missing a k => .missing a k

/-- What a report line ends in. -/
def values (m n : String) : Discrepancy → String
  | exitCode r c => sideBySide r.repr m c.repr n
  | hash _ _ r c => sideBySide (shownValue r) m (shownValue c) n
  | missing _ _ => ""

theorem toList_describe (m n : String) (d : Discrepancy) :
    (d.describe m n).toList = d.heading.text ++ (d.values m n).toList := by
  cases d with
  | exitCode r c => exact String.toList_append
  | hash a k r c =>
    show (a.name ++ " " ++ k.noun ++ " " ++ k.name ++ " doesn't equal: " ++
      sideBySide (shownValue r) m (shownValue c) n).toList = _
    simp only [String.toList_append]
    rfl
  | missing a k =>
    show (a.name ++ " hash " ++ k.name ++ " not reported by either tool").toList = _ ++ "".toList
    simp only [String.toList_append, String.toList_empty, List.append_nil]
    rfl

/-- Both values are legible. -/
def Legible : Discrepancy → Prop
  | hash _ _ r c => CrossCheck.Legible r ∧ CrossCheck.Legible c
  | _ => True

section
variable {m n : String} {d e : Discrepancy}

/-- **A line tells its discrepancy.** -/
theorem eq_of_describe_eq (hd : d.Legible) (he : e.Legible)
    (h : d.describe m n = e.describe m n) : d = e := by
  rw [← String.toList_inj, toList_describe, toList_describe] at h
  have hheading := Heading.eq_of_append_eq h
  rw [hheading, List.append_cancel_left_eq, String.toList_inj] at h
  cases d with
  | exitCode r c =>
    cases e with
    | exitCode r' c' =>
      obtain ⟨hr, hc⟩ := eq_of_sideBySide_eq (Json.whole_repr r).solid (Json.whole_repr r').solid h
      rw [(Json.whole_repr r).unique (hr ▸ Json.whole_repr r'),
        (Json.whole_repr c).unique (hc ▸ Json.whole_repr c')]
    | _ => cases hheading
  | hash a k r c =>
    cases e with
    | hash a' k' r' c' =>
      obtain ⟨hr, hc⟩ := eq_of_sideBySide_eq hd.1.solid he.1.solid h
      cases hheading
      rw [hd.1.eq_of_shown he.1 hr, hd.2.eq_of_shown he.2 hc]
    | _ => cases hheading
  | missing a k =>
    cases e with
    | missing a' k' =>
      cases hheading
      rfl
    | _ => cases hheading

theorem newline_notMem_describe (hm : '\n' ∉ m.toList) (hn : '\n' ∉ n.toList) (hd : d.Legible) :
    '\n' ∉ (d.describe m n).toList := by
  have hside : ∀ {r c : String}, '\n' ∉ r.toList → '\n' ∉ c.toList →
      '\n' ∉ (sideBySide r m c n).toList := fun hr hc => by simp [sideBySide, hr, hc, hm, hn]
  rw [toList_describe, List.mem_append, not_or]
  refine ⟨Heading.newline_notMem_text _, ?_⟩
  cases d with
  | exitCode r c =>
    exact hside (newline_notMem_of_solid (Json.whole_repr r).solid)
      (newline_notMem_of_solid (Json.whole_repr c).solid)
  | hash a k r c =>
    exact hside (newline_notMem_of_solid hd.1.solid) (newline_notMem_of_solid hd.2.solid)
  | missing a k => simp [values]

end

theorem eq_of_map_describe_eq {m n : String} {ds es : List Discrepancy}
    (hd : ∀ d ∈ ds, d.Legible) (he : ∀ e ∈ es, e.Legible)
    (h : ds.map (describe m n) = es.map (describe m n)) : ds = es := by
  induction ds generalizing es with
  | nil => exact (List.map_eq_nil_iff.mp h.symm).symm
  | cons d ds ih =>
    obtain ⟨e, es, rfl, hde, hrest⟩ := List.map_eq_cons_iff.mp h.symm
    obtain ⟨hd, hds⟩ := List.forall_mem_cons.mp hd
    obtain ⟨he, hes⟩ := List.forall_mem_cons.mp he
    rw [eq_of_describe_eq hd he hde.symm, ih hds hes hrest.symm]

end Discrepancy

/-! ### Values by position -/

theorem Extract.isHex_of_value_byTokens {text : List Char} {a : Algorithm} {k : HashKind}
    {v : String} (h : (byTokens text).value a k = some v) : IsHex a.digits v.toList := by
  have hdigits : 0 < a.digits := by cases a <;> decide
  rw [value_byTokens] at h
  have hmem : v ∈ (hexTokens a.digits text).map String.ofList := by
    cases k <;> exact List.mem_of_getElem? h
  obtain ⟨w, hw, rfl⟩ := List.mem_map.mp hmem
  rw [String.toList_ofList]
  exact ((mem_hexTokens_iff hdigits).mp hw).1

theorem legible_byTokens (text : List Char) (a : Algorithm) (k : HashKind) :
    Legible ((byTokens text).value a k) := by
  refine ⟨fun h => ?_, fun s hs => (isHex_of_value_byTokens hs).solid⟩
  have hm := (isHex_of_value_byTokens h).2 'm' (by decide)
  exact absurd hm (by decide)

theorem Discrepancy.legible_between {x y : Execution} {d : Discrepancy}
    (h : d ∈ between (x.finding .tokens) (y.finding .tokens)) : d.Legible := by
  have hholds := mem_between.mp h
  cases d with
  | hash a k r c =>
    obtain ⟨-, rfl, rfl, -⟩ := hholds
    exact ⟨legible_byTokens _ a k, legible_byTokens _ a k⟩
  | _ => trivial

/-! ### Names -/

theorem VerifierSettings.solid_name (line : String) :
    ∀ c ∈ (ofCommand line).name.toList, isWhitespace c = false := by
  have hfirst : ∀ c ∈ (Text.words line.toList).headD [], isWhitespace c = false := by
    rcases h : Text.words line.toList with _ | ⟨w, ws⟩
    · simp
    · exact ((words_eq_iff.mp h).solid w List.mem_cons_self).2
  obtain ⟨before, hw, -, -⟩ :=
    Path.exists_afterLast Path.isSeparator ((Text.words line.toList).headD [])
  rw [hw] at hfirst
  rw [ofCommand, Command.displayName, String.toList_ofList]
  exact fun c hc => hfirst c (List.mem_append_right before hc)

/-! ### Reports -/

/-- Lines without a newline are read back from their text, with nothing behind the last one. -/
theorem splitOn_lines {ls : List (List Char)} (h : ∀ l ∈ ls, '\n' ∉ l) :
    (ls.flatMap fun l => l ++ ['\n']).splitOn '\n' = ls ++ [[]] := by
  induction ls with
  | nil => rfl
  | cons l ls ih =>
    obtain ⟨hl, hls⟩ := List.forall_mem_cons.mp h
    rw [List.flatMap_cons, List.append_assoc, List.singleton_append,
      List.splitOn_append_cons_self, List.splitOn_eq_singleton hl, ih hls]
    rfl

namespace Outcome

theorem toList_message (o : Outcome) :
    o.message.toList = (o.lines.map String.toList).flatMap fun l => l ++ ['\n'] := by
  unfold message
  induction o.lines with
  | nil => rfl
  | cons l ls ih =>
    rw [List.map_cons, String.join_cons, String.toList_append, ih]
    simp

/-- The outcome for two executions whose hashes are found by position. -/
def ofTokens (m n : String) (x y : Execution) : Outcome :=
  ofFindings m (x.finding .tokens) n (y.finding .tokens)

section
variable {m n : String} (hm : '\n' ∉ m.toList) (hn : '\n' ∉ n.toList)
include hm hn

theorem splitOn_message (x y : Execution) :
    (ofTokens m n x y).message.toList.splitOn '\n' =
      (ofTokens m n x y).lines.map String.toList ++ [[]] := by
  rw [toList_message, splitOn_lines]
  intro l hl
  obtain ⟨line, hline, rfl⟩ := List.mem_map.mp hl
  obtain ⟨d, hd, rfl⟩ := List.mem_map.mp hline
  exact Discrepancy.newline_notMem_describe hm hn (Discrepancy.legible_between hd)

theorem message_eq_iff (x y x' y' : Execution) :
    (ofTokens m n x y).message = (ofTokens m n x' y').message ↔
      (ofTokens m n x y).discrepancies = (ofTokens m n x' y').discrepancies := by
  constructor
  · intro h
    have hlines := splitOn_message hm hn x y
    rw [h, splitOn_message hm hn, List.append_left_inj] at hlines
    have hlines := (List.map_inj_right fun _ _ => String.toList_injective).mp hlines
    exact (Discrepancy.eq_of_map_describe_eq (fun d hd => Discrepancy.legible_between hd)
      (fun d hd => Discrepancy.legible_between hd) hlines).symm
  · intro h
    unfold message lines
    rw [h]
    rfl

end

/-- **A report tells the discrepancies.** Names without white space, such as those of command lines,
make two reports on hashes that are found by position the same only if the discrepancies are, and a
report has one line for each of them, of which there are five at most. -/
theorem message_exact :
    (∀ line : String, ∀ c ∈ (VerifierSettings.ofCommand line).name.toList, isWhitespace c = false) ∧
    ∀ m n : String, (∀ c ∈ m.toList, isWhitespace c = false) →
      (∀ c ∈ n.toList, isWhitespace c = false) → ∀ x y : Execution,
        (∀ x' y' : Execution, (ofTokens m n x y).message = (ofTokens m n x' y').message ↔
          (ofTokens m n x y).discrepancies = (ofTokens m n x' y').discrepancies) ∧
        (ofTokens m n x y).message.toList.splitOn '\n' =
          (ofTokens m n x y).lines.map String.toList ++ [[]] ∧
        (ofTokens m n x y).lines.length = (ofTokens m n x y).discrepancies.length ∧
        (ofTokens m n x y).discrepancies.length ≤ 5 := by
  refine ⟨VerifierSettings.solid_name, fun m n hm hn x y => ?_⟩
  have hm := newline_notMem_of_solid hm
  have hn := newline_notMem_of_solid hn
  have hcount := (Discrepancy.sublist_between (x.finding .tokens) (y.finding .tokens)).length_le
  rw [List.length_map] at hcount
  exact ⟨message_eq_iff hm hn x y, splitOn_message hm hn x y, List.length_map .., hcount⟩

/-- The reference reports one hash and the candidate none, or the other way round. -/
theorem message_exact_of_one_sided :
    let m := (VerifierSettings.ofCommand "/opt/ewfverify -q").name
    let n := (VerifierSettings.ofCommand "e01verify").name
    let hash := "0123456789abcdef0123456789abcdef"
    let x : Execution := ⟨0, "MD5 " ++ hash ++ "\n"⟩
    let y : Execution := ⟨0, ""⟩
    (ofTokens m n x y).message = "MD5 hashes stored in file doesn't equal: " ++ hash ++
      " (ewfverify), missing (e01verify)\n" ++
      "MD5 hash calculated over data not reported by either tool\n" ∧
    (ofTokens m n x y).message ≠ (ofTokens m n y x).message ∧
    (ofTokens m n x y).message.toList.splitOn '\n' =
      (ofTokens m n x y).lines.map String.toList ++ [[]] := by
  intro m n hash x y
  obtain ⟨hname, hreport⟩ := message_exact
  obtain ⟨htells, hlines, -⟩ :=
    hreport m n (hname "/opt/ewfverify -q") (hname "e01verify") x y
  exact ⟨by decide +kernel, (htells y x).not.mpr (by decide +kernel), hlines⟩

end Outcome

end CrossCheck
