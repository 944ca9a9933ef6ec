import CrossCheck.Proofs.ReportLines
import CrossCheck.Proofs.Slots
import CrossCheck.Proofs.Tokens

/-! # Both ways of finding hashes agree on reports

A report is a text of lines, some of which are label lines. If its label lines are as a verifier
prints them, the stored hash of an algorithm before the computed one, and no other line has a hash
token in it (`WellFormed`), then it does not matter how the hashes are looked for
(`extract_tokens_eq_labelled`): the tokens of an algorithm's length are the values of the label
lines about it (`hexTokens_ofLines`), and both ways take them for the same kinds. -/

namespace CrossCheck.Extract

open Text

theorem isNormal_of_isHex {n : Nat} {v : List Char} (h : IsHex n v) : IsNormal v := by
  refine Or.inr ⟨?_, ?_⟩
  · exact (List.map_congr_left fun c hc => toLower_of_isLowerHex (h.2 c hc)).trans (List.map_id v)
  · rintro rfl
    exact absurd (h.2 'n' (by decide)) (by decide)

/-! ### Tokens of a label line -/

namespace LabelLine

variable (l : LabelLine)

theorem countP_isLowerHex_blanks {s : List Char} (hs : ∀ c ∈ s, isBlank c = true ∨ c = '\r') :
    s.countP isLowerHex = 0 := by
  rw [List.countP_eq_zero]
  intro c hc hx
  have hw := isWhitespace_of_trail (hs c hc)
  rw [isWhitespace_of_isLowerHex hx] at hw
  cases hw

/-- The label words are too short for a hash, even all together. -/
theorem countP_isLowerHex_head : l.head.countP isLowerHex < 32 := by
  have hblank : ∀ s : List Char, (∀ c ∈ s, isBlank c = true) → s.countP isLowerHex = 0 :=
    fun s hs => countP_isLowerHex_blanks fun c hc => Or.inl (hs c hc)
  have hword : ∀ w word : List Char, w.map fold = word → w.countP isLowerHex ≤ word.length := by
    rintro w _ rfl
    rw [List.length_map]
    exact List.countP_le_length
  have halg : l.algorithm.labelWord.length ≤ 4 := by cases l.algorithm <;> decide
  have hkind : l.kind.labelWords.length ≤ 20 := by cases l.kind <;> decide
  have h1 := hword _ _ l.algorithmWord_spells
  have h2 := hword _ _ l.hashWord_spells
  have h3 := hword _ _ l.kindWords_spells
  have h4 : "hash".toList.length = 4 := by decide
  have h5 : isLowerHex ':' = false := by decide
  simp only [head, List.countP_append, List.countP_cons, h5, hblank _ l.indent_blank,
    hblank _ l.beforeHash_blank, hblank _ l.afterHash_blank, hblank _ l.beforeColon_blank,
    hblank _ l.afterColon_blank, Bool.false_eq_true, if_false]
  omega

/-- **The only hash token of a label line** is its value, if a blank stands before it. -/
theorem hexTokens_text {l : LabelLine} (hblank : l.afterColon ≠ [])
    (hvalue : IsHex l.algorithm.digits l.value) (a : Algorithm) {e : List Char}
    (he : e.countP isLowerHex = 0) :
    hexTokens a.digits (e ++ (l.text ++ ['\n'])) =
      if l.algorithm = a then [l.value] else [] := by
  have hdigits : 32 ≤ a.digits := by cases a <;> decide
  -- The line is cut at the last blank before the value and at what follows the value.
  obtain ⟨s, c, hs⟩ := (List.eq_nil_or_concat l.afterColon).resolve_left hblank
  have hc : isWhitespace c = true :=
    isWhitespace_of_isBlank (l.afterColon_blank c (by simp [hs]))
  obtain ⟨t, ht⟩ : ∃ t, l.head = t ++ [c] := by
    rw [head, hs, List.concat_eq_append]
    simp only [← List.append_assoc, ← List.cons_append]
    exact ⟨_, rfl⟩
  obtain ⟨d, u, hu⟩ : ∃ d u, l.trail ++ ['\n'] = d :: u :=
    List.exists_cons_of_ne_nil (by simp)
  have hd : isWhitespace d = true := by
    have hmem : d ∈ l.trail ++ ['\n'] := hu ▸ List.mem_cons_self
    rcases List.mem_append.mp hmem with h | h
    · exact isWhitespace_of_trail (l.trail_blank d h)
    · rw [List.mem_singleton.mp h]
      decide
  have hbefore : hexTokens a.digits (e ++ t ++ [c]) = [] := by
    refine hexTokens_eq_nil_of_countP (lt_of_lt_of_le ?_ hdigits)
    rw [List.append_assoc, ← ht, List.countP_append, he, Nat.zero_add]
    exact l.countP_isLowerHex_head
  have hafter : hexTokens a.digits (d :: u) = [] := by
    refine hexTokens_eq_nil_of_countP (lt_of_lt_of_le ?_ hdigits)
    rw [← hu, List.countP_append, countP_isLowerHex_blanks l.trail_blank]
    decide
  have htext : e ++ (l.text ++ ['\n']) = (e ++ t) ++ c :: (l.value ++ d :: u) := by
    rw [text, ht, ← hu]
    simp
  rw [htext, hexTokens_append_cons _ _ _ hc, hbefore, List.nil_append]
  split_ifs with ha
  · subst ha
    rw [hexTokens_cons_append (Nat.lt_of_lt_of_le (by decide) hdigits) hvalue hc hd, hafter]
  · have hlen : l.value.length ≠ a.digits := by
      rw [hvalue.1]
      revert ha
      cases l.algorithm <;> cases a <;> decide
    rw [hexTokens_cons_append_of_not_isHex (fun h => hlen h.1) l.value_solid hc hd, hafter]

end LabelLine

/-! ### Reports -/

/-- The text of lines, each of which a newline ends. -/
def ofLines (rs : List ReportLine) : List Char :=
  rs.flatMap fun r => r.text ++ ['\n']

theorem ofLines_cons (r : ReportLine) (rs : List ReportLine) :
    ofLines (r :: rs) = r.text ++ '\n' :: ofLines rs := by
  simp [ofLines]

theorem labels_ofLines (rs : List ReportLine) :
    labels (ofLines rs) = (labelLines rs).map LabelLine.label := by
  have h := labels_written (rs.map fun r => (r, .lf)) none
  simpa [written, writtenLines, ofLines, LineEnd.chars, List.flatMap_map, Function.comp_def] using h

/-- A line in its place: with the newline that ends it, and with the one before it unless it is the
first. -/
def inPlace (before : List ReportLine) (r : ReportLine) : List Char :=
  (if before = [] then [] else ['\n']) ++ (r.text ++ ['\n'])

/-- A hash of either length stands in the text between white space. -/
def HoldsHash (text : List Char) : Prop :=
  ∃ (a : Algorithm) (w : List Char), IsHex a.digits w ∧ Bounded w text

theorem not_holdsHash_iff {text : List Char} :
    ¬ HoldsHash text ↔ ∀ a : Algorithm, hexTokens a.digits text = [] := by
  simp only [HoldsHash, List.eq_nil_iff_forall_not_mem, not_exists]
  refine forall₂_congr fun a w => not_congr ?_
  rw [mem_hexTokens_iff (by cases a <;> decide)]

instance (text : List Char) : Decidable (HoldsHash text) :=
  decidable_of_iff (¬ (hexTokens Algorithm.md5.digits text = [] ∧
      hexTokens Algorithm.sha1.digits text = [])) <| by
    rw [← not_iff_not, not_not, not_holdsHash_iff]
    exact ⟨fun ⟨h5, h1⟩ a => by cases a <;> assumption, fun h => ⟨h .md5, h .sha1⟩⟩

/-- **A well-formed report.** Label lines are spelled in ASCII letters, have a blank before the
value and a hash of the algorithm's length for the value; there is at most one for each algorithm
and kind, and the one with the computed hash comes after the one with the stored hash. No other line
has, in its place, a hash of either length between white space. -/
structure WellFormed (rs : List ReportLine) : Prop where
  asciiWords : ∀ l ∈ labelLines rs, l.AsciiWords
  blank : ∀ l ∈ labelLines rs, l.afterColon ≠ []
  value : ∀ l ∈ labelLines rs, IsHex l.algorithm.digits l.value
  nodup : ((labelLines rs).map fun l => (l.algorithm, l.kind)).Nodup
  stored_first : ∀ i (hi : i < (labelLines rs).length), (labelLines rs)[i].kind = .computed →
    ∃ l ∈ (labelLines rs).take i, l.algorithm = (labelLines rs)[i].algorithm ∧ l.kind = .stored
  no_hash : ∀ i (hi : i < rs.length), rs[i].labelLine? = none →
    ¬ HoldsHash (inPlace (rs.take i) rs[i])

instance (rs : List ReportLine) : Decidable (WellFormed rs) :=
  decidable_of_iff (_ ∧ _ ∧ _ ∧ _ ∧ _ ∧ _)
    ⟨fun ⟨h₁, h₂, h₃, h₄, h₅, h₆⟩ => ⟨h₁, h₂, h₃, h₄, h₅, h₆⟩,
      fun ⟨h₁, h₂, h₃, h₄, h₅, h₆⟩ => ⟨h₁, h₂, h₃, h₄, h₅, h₆⟩⟩

namespace WellFormed

variable {rs : List ReportLine} (h : WellFormed rs) (a : Algorithm)
include h

theorem hexTokens_inPlace {before after : List ReportLine} {r : ReportLine}
    (hrs : rs = before ++ r :: after) :
    hexTokens a.digits (inPlace before r) =
      (r.labelLine?.toList.filter fun l => l.algorithm = a).map LabelLine.value := by
  rcases hr : r.labelLine? with _ | l
  · subst hrs
    have hno := h.no_hash before.length (by simp) (by simpa using hr)
    simp only [List.take_left, List.getElem_append_right, Nat.le_refl, Nat.sub_self,
      List.getElem_cons_zero] at hno
    simp [not_holdsHash_iff.mp hno a]
  · have hl : l ∈ labelLines rs := by
      rw [hrs]
      exact List.mem_filterMap.mpr ⟨r, by simp, hr⟩
    have htext : r.text = l.text := by
      cases r <;> cases hr
      rfl
    have hedge : (if before = [] then [] else ['\n']).countP isLowerHex = 0 := by
      split_ifs <;> decide
    rw [inPlace, htext, LabelLine.hexTokens_text (h.blank l hl) (h.value l hl) a hedge]
    simp only [Option.toList_some, List.filter_cons, List.filter_nil, decide_eq_true_eq]
    split_ifs <;> rfl

/-- **The hash tokens of a report** are the values of its label lines. -/
theorem hexTokens_ofLines :
    hexTokens a.digits (ofLines rs) =
      ((labelLines rs).filter fun l => l.algorithm = a).map LabelLine.value := by
  -- Line by line, each in its place.
  suffices hsuffix : ∀ after before, rs = before ++ after →
      hexTokens a.digits ((if before = [] then [] else ['\n']) ++ ofLines after) =
        ((labelLines after).filter fun l => l.algorithm = a).map LabelLine.value from
    hsuffix rs [] rfl
  intro after
  induction after with
  | nil =>
    intro before _
    refine hexTokens_eq_nil_of_countP ?_
    split_ifs <;> cases a <;> decide
  | cons r after ih =>
    intro before hrs
    have hnext := ih (before ++ [r]) (by simp [hrs])
    rw [if_neg (by simp), List.singleton_append] at hnext
    rw [ofLines_cons, labelLines_cons, ← List.append_assoc,
      hexTokens_append_cons _ _ _ (by decide), List.append_assoc, ← inPlace,
      h.hexTokens_inPlace a hrs, hnext, List.filter_append, List.map_append]

/-- The label lines about an algorithm are the one with the stored hash and then the one with the
computed hash, or only the first, or there is none. -/
theorem filter_labelLines_cases :
    let m := (labelLines rs).filter fun l => l.algorithm = a
    m = [] ∨ (∃ l, m = [l] ∧ l.kind = .stored) ∨
      ∃ l l', m = [l, l'] ∧ l.kind = .stored ∧ l'.kind = .computed := by
  intro m
  have hnodup : (m.map LabelLine.kind).Nodup := by
    have hm : m.map (fun l => (l.algorithm, l.kind)) =
        (m.map LabelLine.kind).map fun k => (a, k) := by
      rw [List.map_map]
      refine List.map_congr_left fun l hl => ?_
      simp [of_decide_eq_true (List.mem_filter.mp hl).2]
    exact (hm ▸ h.nodup.sublist (List.filter_sublist.map _)).of_map _
  have hfirst : ∀ before l after, m = before ++ l :: after → l.kind = .computed →
      ∃ l' ∈ before, l'.kind = .stored := by
    intro before l after hm hk
    obtain ⟨xs, ys, hxs, hb, hys⟩ := List.filter_eq_append_iff.mp hm
    obtain ⟨us, vs, rfl, hus, hl, -⟩ := List.filter_eq_cons_iff.mp hys
    rw [← List.append_assoc] at hxs
    have hget : (labelLines rs)[(xs ++ us).length]? = some l := by rw [hxs]; simp
    obtain ⟨hi, hget⟩ := List.getElem?_eq_some_iff.mp hget
    obtain ⟨l', hl', ha, hs⟩ := h.stored_first _ hi (hget ▸ hk)
    rw [hget] at ha
    rw [hxs, List.take_left] at hl'
    refine ⟨l', ?_, hs⟩
    have hmem : l' ∈ (xs ++ us).filter fun l => l.algorithm = a :=
      List.mem_filter.mpr ⟨hl', by rw [ha]; exact hl⟩
    rwa [List.filter_append, hb, List.filter_eq_nil_iff.mpr hus, List.append_nil] at hmem
  rcases m with _ | ⟨l, m⟩
  · exact Or.inl rfl
  have hl : l.kind = .stored := by
    cases hk : l.kind with
    | stored => rfl
    | computed => simpa using hfirst [] l m rfl hk
  rcases m with _ | ⟨l', m⟩
  · exact Or.inr (Or.inl ⟨l, rfl, hl⟩)
  have hl' : l'.kind = .computed := by
    cases hk : l'.kind with
    | stored => simp [hl, hk] at hnodup
    | computed => rfl
  rcases m with _ | ⟨l'', m⟩
  · exact Or.inr (Or.inr ⟨l, l', rfl, hl, hl'⟩)
  · cases hk : l''.kind <;> simp [hl, hl', hk] at hnodup

theorem firstValue_eq_find? (k : HashKind) :
    firstValue (labels (ofLines rs)) a k =
      (((labelLines rs).filter fun l => l.algorithm = a).find? fun l => l.kind = k).map
        fun l => String.ofList l.value := by
  rw [labels_ofLines, firstValue_map_label h.asciiWords
    (fun l hl => isNormal_of_isHex (h.value l hl)), List.find?_filter]
  simp only [decide_eq_true_eq]

end WellFormed

/-- **Both ways of finding hashes agree** on every well-formed report. -/
theorem extract_tokens_eq_labelled (rs : List ReportLine) (h : WellFormed rs) :
    ExtractMode.tokens.extract (.ofList (ofLines rs)) =
      ExtractMode.labelled.extract (.ofList (ofLines rs)) := by
  simp only [ExtractMode.extract, String.toList_ofList]
  refine Hashes.eq_of_value (isSome_sha1_byTokens_iff _) (isSome_sha1_ofLabels_iff _) fun a k => ?_
  rw [value_byTokens, byLabels, value_ofLabels, h.firstValue_eq_find?, tokenPair,
    h.hexTokens_ofLines]
  rcases h.filter_labelLines_cases a with hm | ⟨l, hm, hl⟩ | ⟨l, l', hm, hl, hl'⟩
  · rw [hm]
    cases k <;> rfl
  · rw [hm]
    cases k <;> simp [HashPair.ofList, HashPair.get, hl]
  · rw [hm]
    cases k <;> simp [HashPair.ofList, HashPair.get, hl, hl']

/-- A report that starts with a hash, which is not between white space there, and has its label
lines in odd spellings, with one about SHA1 among those about MD5. -/
theorem extract_tokens_eq_labelled_of_odd_lines :
    let rs : List ReportLine :=
      [.other "0123456789abcdef0123456789abcdef".toList (by decide)
          (ofLine?_eq_none_iff.mp (by decide +kernel)),
        .label { algorithm := .md5, algorithmWord := "md5".toList, indent := [' ']
                 kind := .stored, kindWords := "Stored In File".toList
                 beforeColon := [' '], afterColon := ['\t', '\t'], trail := ['\r']
                 value := "456789abcdef0123456789abcdef0123".toList },
        .label { algorithm := .sha1, algorithmWord := "SHA1".toList
                 kind := .stored, kindWords := "stored in file".toList
                 value := "0123456789abcdef0123456789abcdef01234567".toList },
        .label { algorithm := .md5, algorithmWord := "MD5".toList
                 kind := .computed, kindWords := "calculated over data".toList
                 value := "89abcdef0123456789abcdef01234567".toList }]
    WellFormed rs ∧
      ExtractMode.tokens.extract (.ofList (ofLines rs)) =
        ExtractMode.labelled.extract (.ofList (ofLines rs)) := by
  intro rs
  have h : WellFormed rs := by decide +kernel
  exact ⟨h, extract_tokens_eq_labelled rs h⟩

end CrossCheck.Extract
