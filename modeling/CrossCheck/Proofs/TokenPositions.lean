import CrossCheck.Proofs.Slots
import CrossCheck.Proofs.Tokens

/-! # Hash tokens by their positions

The hash tokens of a text are listed by position, and none is left out: at each place where a word
of that many lower-case hexadecimal digits stands between two white space characters there is one
token (`Located`, `exists_located`). The proof goes from one white space character to the next
(`standsAt_cons_append`).

The first two tokens of an algorithm's length are the hashes by position (`tokens_exact`). -/

namespace CrossCheck.Extract

open Text

/-- The word stands in the text from position `i` on, right between two white space characters. -/
def StandsAt (text : List Char) (i : Nat) (w : List Char) : Prop :=
  ∃ p c d s, text = p ++ c :: (w ++ d :: s) ∧ p.length + 1 = i ∧
    isWhitespace c = true ∧ isWhitespace d = true

/-- **Tokens with their positions:** every token at every place where it stands, in order. -/
structure Located (n : Nat) (text : List Char) (ts : List (Nat × List Char)) : Prop where
  ordered : ts.Pairwise fun t u => t.1 < u.1
  mem_iff : ∀ t, t ∈ ts ↔ IsHex n t.2 ∧ StandsAt text t.1 t.2

/-! ### Where words stand -/

theorem StandsAt.pos {text w : List Char} {i : Nat} (h : StandsAt text i w) : 0 < i := by
  obtain ⟨p, c, d, s, -, rfl, -, -⟩ := h
  exact Nat.succ_pos _

theorem StandsAt.end_lt {text w : List Char} {i : Nat} (h : StandsAt text i w) :
    i + w.length < text.length := by
  obtain ⟨p, c, d, s, rfl, rfl, -, -⟩ := h
  simp only [List.length_append, List.length_cons]
  omega

theorem StandsAt.take_drop {text w : List Char} {i : Nat} (h : StandsAt text i w) :
    (text.drop i).take w.length = w := by
  obtain ⟨p, c, d, s, rfl, rfl, -, -⟩ := h
  rw [List.drop_append, List.drop_eq_nil_of_le (Nat.le_succ _), List.nil_append,
    Nat.add_sub_cancel_left, List.drop_succ_cons, List.drop_zero, List.take_left]

theorem standsAt_cons {x : Char} {text w : List Char} {i : Nat} :
    StandsAt (x :: text) i w ↔
      (i = 1 ∧ isWhitespace x = true ∧ ∃ d s, text = w ++ d :: s ∧ isWhitespace d = true) ∨
        ∃ j, i = j + 1 ∧ StandsAt text j w := by
  constructor
  · rintro ⟨_ | ⟨y, p⟩, c, d, s, htext, rfl, hc, hd⟩
    · obtain ⟨rfl, rfl⟩ := List.cons.inj htext
      exact Or.inl ⟨rfl, hc, d, s, rfl, hd⟩
    · obtain ⟨rfl, rfl⟩ := List.cons.inj htext
      exact Or.inr ⟨_, rfl, p, c, d, s, rfl, rfl, hc, hd⟩
  · rintro (⟨rfl, hx, d, s, rfl, hd⟩ | ⟨_, rfl, p, c, d, s, rfl, rfl, hc, hd⟩)
    · exact ⟨[], x, d, s, rfl, rfl, hx, hd⟩
    · exact ⟨x :: p, c, d, s, rfl, rfl, hc, hd⟩

/-- No word stands in a text that starts with a word before that word ends. -/
theorem standsAt_solid_append {v text w : List Char} (hv : ∀ c ∈ v, isWhitespace c = false)
    {i : Nat} : StandsAt (v ++ text) i w ↔ ∃ j, i = v.length + j ∧ StandsAt text j w := by
  induction v generalizing i with
  | nil => simp
  | cons x v ih =>
    obtain ⟨hx, hv⟩ := List.forall_mem_cons.mp hv
    rw [List.cons_append, standsAt_cons, or_iff_right (by simp [hx])]
    simp only [ih hv, List.length_cons]
    constructor
    · rintro ⟨_, rfl, j, rfl, h⟩
      exact ⟨j, by omega, h⟩
    · rintro ⟨j, rfl, h⟩
      exact ⟨v.length + j, by omega, j, rfl, h⟩

theorem not_standsAt_cons_of_solid {c : Char} {text w : List Char}
    (ht : ∀ x ∈ text, isWhitespace x = false) {i : Nat} : ¬ StandsAt (c :: text) i w := by
  -- what follows the word would be white space in the text
  rintro ⟨p, c', d, s, htext, -, -, hd⟩
  have hmem : d ∈ text := by
    have hdrop := congrArg List.tail htext
    rw [List.tail_cons] at hdrop
    rw [hdrop]
    cases p <;> simp
  rw [ht d hmem] at hd
  cases hd

theorem eq_of_append_cons_eq {v w : List Char} {c d : Char} {s t : List Char}
    (hv : ∀ x ∈ v, isWhitespace x = false) (hw : ∀ x ∈ w, isWhitespace x = false)
    (hc : isWhitespace c = true) (hd : isWhitespace d = true) (h : v ++ c :: s = w ++ d :: t) :
    v = w := by
  have htake := congrArg (List.takeWhile fun x => !isWhitespace x) h
  rwa [List.takeWhile_append_of_pos (by simpa using hv),
    List.takeWhile_append_of_pos (by simpa using hw), List.takeWhile_cons_of_neg (by simp [hc]),
    List.takeWhile_cons_of_neg (by simp [hd]), List.append_nil, List.append_nil] at htake

/-- **From one white space character to the next:** what stands in the text is the word between
them, or it stands after it. -/
theorem standsAt_cons_append {c d : Char} {v text w : List Char} (hc : isWhitespace c = true)
    (hd : isWhitespace d = true) (hv : ∀ x ∈ v, isWhitespace x = false)
    (hw : ∀ x ∈ w, isWhitespace x = false) {i : Nat} :
    StandsAt (c :: (v ++ d :: text)) i w ↔
      (i = 1 ∧ w = v) ∨ ∃ j, i = v.length + 1 + j ∧ StandsAt (d :: text) j w := by
  rw [standsAt_cons]
  simp only [standsAt_solid_append hv]
  constructor
  · rintro (⟨rfl, -, e, s, htext, he⟩ | ⟨_, rfl, j, rfl, h⟩)
    · exact Or.inl ⟨rfl, (eq_of_append_cons_eq hv hw hd he htext).symm⟩
    · exact Or.inr ⟨j, by omega, h⟩
  · rintro (⟨rfl, rfl⟩ | ⟨j, rfl, h⟩)
    · exact Or.inl ⟨rfl, hc, d, text, rfl, hd⟩
    · exact Or.inr ⟨v.length + j, by omega, j, rfl, h⟩

/-! ### All tokens in order -/

section
variable {n : Nat}

theorem IsHex.solid {w : List Char} (h : IsHex n w) : ∀ c ∈ w, isWhitespace c = false :=
  fun c hc => isWhitespace_of_isLowerHex (h.2 c hc)

/-- Tokens with their positions, `m` characters further on. -/
def shift (m : Nat) (ts : List (Nat × List Char)) : List (Nat × List Char) :=
  ts.map fun t => (m + t.1, t.2)

theorem map_snd_shift (m : Nat) (ts : List (Nat × List Char)) :
    (shift m ts).map Prod.snd = ts.map Prod.snd := by
  rw [shift, List.map_map]
  rfl

theorem mem_shift {m i : Nat} {w : List Char} {ts : List (Nat × List Char)} :
    (i, w) ∈ shift m ts ↔ ∃ j, i = m + j ∧ (j, w) ∈ ts := by
  simp only [shift, List.mem_map, Prod.mk.injEq, Prod.exists]
  constructor
  · rintro ⟨j, _, h, rfl, rfl⟩
    exact ⟨j, rfl, h⟩
  · rintro ⟨j, rfl, h⟩
    exact ⟨j, w, h, rfl, rfl⟩

theorem pairwise_shift (m : Nat) {ts : List (Nat × List Char)}
    (h : ts.Pairwise fun t u => t.1 < u.1) : (shift m ts).Pairwise fun t u => t.1 < u.1 :=
  List.pairwise_map.mpr (h.imp fun htu => Nat.add_lt_add_left htu m)

theorem Located.solid_append {v text : List Char} {ts : List (Nat × List Char)}
    (h : Located n text ts) (hv : ∀ c ∈ v, isWhitespace c = false) :
    Located n (v ++ text) (shift v.length ts) := by
  refine ⟨pairwise_shift _ h.ordered, ?_⟩
  rintro ⟨i, w⟩
  simp only [mem_shift, h.mem_iff, standsAt_solid_append hv]
  constructor
  · rintro ⟨j, rfl, hw, hj⟩
    exact ⟨hw, j, rfl, hj⟩
  · rintro ⟨hw, j, rfl, hj⟩
    exact ⟨j, rfl, hw, hj⟩

/-- **One step** from a white space character to the next: the word between them is a token if it is
one of digits, and all others come after it. -/
theorem Located.cons_append {c d : Char} {v text : List Char} {ts : List (Nat × List Char)}
    (h : Located n (d :: text) ts) (hc : isWhitespace c = true) (hd : isWhitespace d = true)
    (hv : ∀ x ∈ v, isWhitespace x = false) :
    Located n (c :: (v ++ d :: text))
      ((if IsHex n v then [(1, v)] else []) ++ shift (v.length + 1) ts) := by
  refine ⟨List.pairwise_append.mpr ⟨?_, pairwise_shift _ h.ordered, ?_⟩, ?_⟩
  · split_ifs
    · exact List.pairwise_singleton _ _
    · exact List.Pairwise.nil
  · rintro t ht ⟨i, w⟩ hi
    obtain ⟨j, rfl, hj⟩ := mem_shift.mp hi
    have hpos := ((h.mem_iff _).mp hj).2.pos
    split_ifs at ht
    · obtain rfl := List.mem_singleton.mp ht
      show 1 < v.length + 1 + j
      omega
    · cases ht
  · rintro ⟨i, w⟩
    have hword : (i, w) ∈ (if IsHex n v then [(1, v)] else []) ↔ IsHex n w ∧ i = 1 ∧ w = v := by
      split_ifs with hx
      · rw [List.mem_singleton, Prod.mk.injEq]
        exact ⟨fun ⟨hi, hw⟩ => ⟨hw ▸ hx, hi, hw⟩, fun h => h.2⟩
      · refine iff_of_false List.not_mem_nil ?_
        rintro ⟨hw, -, rfl⟩
        exact hx hw
    simp only [List.mem_append, hword, mem_shift, h.mem_iff]
    constructor
    · rintro (⟨hw, hi⟩ | ⟨j, rfl, hw, hj⟩)
      · exact ⟨hw, (standsAt_cons_append hc hd hv hw.solid).mpr (Or.inl hi)⟩
      · exact ⟨hw, (standsAt_cons_append hc hd hv hw.solid).mpr (Or.inr ⟨j, rfl, hj⟩)⟩
    · rintro ⟨hw, hi⟩
      rcases (standsAt_cons_append hc hd hv hw.solid).mp hi with hi | ⟨j, rfl, hj⟩
      · exact Or.inl ⟨hw, hi⟩
      · exact Or.inr ⟨j, rfl, hw, hj⟩

theorem exists_located_cons {c : Char} (hn : 0 < n) (hc : isWhitespace c = true)
    (text : List Char) :
    ∃ ts, Located n (c :: text) ts ∧ hexTokens n (c :: text) = ts.map Prod.snd := by
  rcases solid_or_exists_first text with ht | ⟨v, d, rest, rfl, hv, hd⟩
  · refine ⟨[], ⟨List.Pairwise.nil, fun t => ?_⟩, ?_⟩
    · exact iff_of_false List.not_mem_nil fun h => not_standsAt_cons_of_solid ht h.2
    · rw [hexTokens, innerFields_cons_of_solid hc ht]
      rfl
  · obtain ⟨ts, hts, htokens⟩ := exists_located_cons hn hd rest
    refine ⟨_, hts.cons_append hc hd hv, ?_⟩
    rw [List.map_append, map_snd_shift, ← htokens]
    split_ifs with hx
    · exact hexTokens_cons_append hn hx hc hd rest
    · exact hexTokens_cons_append_of_not_isHex hx hv hc hd rest
termination_by text.length

/-- **The hash tokens of a text** are all words of digits between white space, in order. -/
theorem exists_located (hn : 0 < n) (text : List Char) :
    ∃ ts, Located n text ts ∧ hexTokens n text = ts.map Prod.snd := by
  rcases solid_or_exists_first text with ht | ⟨v, c, rest, rfl, hv, hc⟩
  · refine ⟨[], ⟨List.Pairwise.nil, fun t => iff_of_false List.not_mem_nil fun h => ?_⟩, ?_⟩
    · obtain ⟨p, c, d, s, rfl, -, hc, -⟩ := h.2
      rw [ht c (by simp)] at hc
      cases hc
    · rw [hexTokens, innerFields_of_solid ht]
      rfl
  · obtain ⟨ts, hts, htokens⟩ := exists_located_cons hn hc rest
    refine ⟨_, hts.solid_append hv, ?_⟩
    rw [map_snd_shift, ← htokens, hexTokens, innerFields_solid_append hv hc]
    rfl

/-! ### What counts and what does not -/

theorem hexTokens_cons_flatMap (hn : 0 < n) {ws : List (List Char × Char)}
    (hws : ∀ w ∈ ws, IsHex n w.1 ∧ isWhitespace w.2 = true) {c : Char} (hc : isWhitespace c = true)
    (s : List Char) :
    ∃ d, hexTokens n (c :: (ws.flatMap (fun w => w.1 ++ [w.2]) ++ s)) =
      ws.map Prod.fst ++ hexTokens n (d :: s) := by
  induction ws generalizing c with
  | nil => exact ⟨c, rfl⟩
  | cons w ws ih =>
    obtain ⟨⟨hx, hd⟩, hws⟩ := List.forall_mem_cons.mp hws
    obtain ⟨d, htokens⟩ := ih hws hd
    refine ⟨d, ?_⟩
    rw [List.map_cons, List.cons_append, ← htokens, ← hexTokens_cons_append hn hx hc hd]
    simp

/-- The first two of some tokens, the first as the stored hash. -/
def firstTwo (ts : List (Nat × List Char)) : HashPair where
  stored := ts[0]?.map fun t => .ofList t.2
  computed := ts[1]?.map fun t => .ofList t.2

theorem tokenPair_eq {a : Algorithm} {text : List Char} {ts : List (Nat × List Char)}
    (h : hexTokens a.digits text = ts.map Prod.snd) : tokenPair a text = firstTwo ts := by
  simp [tokenPair, firstTwo, HashPair.ofList, h, Function.comp_def]

/-- **The tokens of a report** are the words of digits that stand in it between white space, at each
place where one stands and in order; each is the part of the report at its place, and none touches
an end of it. Tokens with one white space character between them are all there, and a longer run of
digits is none. The hashes by position are the first two tokens of either length, without a SHA1
pair if there is no token of its length. -/
theorem tokens_exact (report : String) :
    (∀ n, 0 < n → ∃ ts, Located n report.toList ts ∧
      hexTokens n report.toList = ts.map Prod.snd ∧
      ∀ t ∈ ts, t.2 = (report.toList.drop t.1).take n ∧ 0 < t.1 ∧
        t.1 + n < report.toList.length) ∧
    (∀ n, 0 < n → ∀ p c (ws : List (List Char × Char)) s,
      report.toList = p ++ c :: (ws.flatMap (fun w => w.1 ++ [w.2]) ++ s) →
      isWhitespace c = true → (∀ w ∈ ws, IsHex n w.1 ∧ isWhitespace w.2 = true) →
      ws.map Prod.fst <:+: hexTokens n report.toList) ∧
    (∀ n p c w d s, report.toList = p ++ c :: (w ++ d :: s) → isWhitespace c = true →
      isWhitespace d = true → (∀ x ∈ w, isLowerHex x = true) → n < w.length →
      hexTokens n report.toList = hexTokens n (p ++ [c]) ++ hexTokens n (d :: s)) ∧
    ∃ ts us, Located 32 report.toList ts ∧ Located 40 report.toList us ∧
      ExtractMode.tokens.extract report =
        { md5 := firstTwo ts, sha1 := if us = [] then none else some (firstTwo us) } := by
  refine ⟨fun n hn => ?_, fun n hn p c ws s htext hc hws => ?_,
    fun n p c w d s htext hc hd hx hlen => ?_, ?_⟩
  · obtain ⟨ts, hts, htokens⟩ := exists_located hn report.toList
    refine ⟨ts, hts, htokens, fun t ht => ?_⟩
    obtain ⟨⟨hlen, -⟩, hstands⟩ := (hts.mem_iff t).mp ht
    rw [← hlen]
    exact ⟨hstands.take_drop.symm, hstands.pos, hstands.end_lt⟩
  · obtain ⟨d, htokens⟩ := hexTokens_cons_flatMap hn hws hc s
    rw [htext, hexTokens_append_cons _ _ _ hc, htokens, ← List.append_assoc]
    exact List.infix_append _ _ _
  · have hsolid : ∀ x ∈ w, isWhitespace x = false := fun x hmem =>
      isWhitespace_of_isLowerHex (hx x hmem)
    rw [htext, hexTokens_append_cons _ _ _ hc,
      hexTokens_cons_append_of_not_isHex (fun h => Nat.ne_of_gt hlen h.1) hsolid hc hd]
  · obtain ⟨ts, hts, hmd5⟩ := exists_located (n := 32) (by decide) report.toList
    obtain ⟨us, hus, hsha1⟩ := exists_located (n := 40) (by decide) report.toList
    refine ⟨ts, us, hts, hus, ?_⟩
    have hnil : (hexTokens Algorithm.sha1.digits report.toList).isEmpty = true ↔ us = [] := by
      rw [Algorithm.digits, hsha1, List.isEmpty_iff, List.map_eq_nil_iff]
    simp only [ExtractMode.extract, byTokens, tokenPair_eq (a := .md5) hmd5,
      tokenPair_eq (a := .sha1) hsha1, hnil]

/-- A report with a hash at each end, two in the middle with one wide space between them, and a run
of digits that is too long. -/
theorem tokens_exact_of_wide_space :
    let v := "456789abcdef0123456789abcdef0123".toList
    let w := "89abcdef0123456789abcdef01234567".toList
    let long := "0123456789abcdef0123456789abcdef0".toList
    let first := "0123456789abcdef0123456789abcdef \u00e9".toList
    let last := "fedcba9876543210fedcba9876543210".toList
    let before := first ++ '\n' :: (v ++ '\u3000' :: w)
    let report := String.ofList (before ++ '\t' :: (long ++ ' ' :: last))
    (∃ ts, Located 32 report.toList ts ∧ ts.map Prod.snd = [v, w]) ∧
    [v, w] <:+: hexTokens 32 report.toList ∧
    hexTokens 32 report.toList = hexTokens 32 (before ++ ['\t']) ++ hexTokens 32 (' ' :: last) := by
  intro v w long first last before report
  have htokens : hexTokens 32 report.toList = [v, w] := by decide +kernel
  have htext : report.toList = before ++ '\t' :: (long ++ ' ' :: last) := String.toList_ofList
  obtain ⟨ts, hts, hsnd, -⟩ := (tokens_exact report).1 32 (by decide)
  refine ⟨⟨ts, hts, hsnd.symm.trans htokens⟩, ?_, ?_⟩
  · refine (tokens_exact report).2.1 32 (by decide) first '\n' [(v, '\u3000'), (w, '\t')]
      (long ++ ' ' :: last) ?_ (by decide) (by decide +kernel)
    rw [htext]
    simp [before]
  · have hlong : ∀ x ∈ long, isLowerHex x = true := List.all_eq_true.mp (by decide +kernel)
    exact (tokens_exact report).2.2.1 32 before '\t' long ' ' last htext (by decide) (by decide)
      hlong (by decide +kernel)

end

end CrossCheck.Extract
