import CrossCheck.Proofs.Interleaving
import CrossCheck.Proofs.Sequences
import CrossCheck.Proofs.Slots
import CrossCheck.Proofs.Tokens

/-! # Reports in pieces

A report that comes in pieces may be read piece by piece. By label lines it may be cut after any
newline: each slot has the value of the first piece that gives it one (`value_labelled_append`). By
position it may be cut at any white space, which then belongs to both pieces
(`hexTokens_append_cons`). Either way, what comes after does not change what was found before
(`extract_append`). -/

namespace CrossCheck.Extract

open Text

/-! ### Pieces with label lines -/

/-- **A complete piece of a report:** it is empty or a newline ends it. -/
def IsComplete (s : String) : Prop :=
  s.toList = [] ∨ s.toList.getLast? = some '\n'

instance (s : String) : Decidable (IsComplete s) := inferInstanceAs (Decidable (_ ∨ _))

theorem firstValue_append (ls ms : List Label) (a : Algorithm) (k : HashKind) :
    firstValue (ls ++ ms) a k = (firstValue ls a k).or (firstValue ms a k) := by
  unfold firstValue
  rw [List.find?_append, Option.map_or]

section
variable {s : String} (hs : IsComplete s) (t : String)
include hs

theorem labels_append : labels (s ++ t).toList = labels s.toList ++ labels t.toList := by
  rw [String.toList_append]
  rcases hs with hs | hs
  · rw [hs, labels_nil]
    rfl
  · exact labels_append_of_ended hs t.toList

/-- **Each slot** is filled from the first piece, or else from the second. -/
theorem value_labelled_append (a : Algorithm) (k : HashKind) :
    (ExtractMode.labelled.extract (s ++ t)).value a k =
      ((ExtractMode.labelled.extract s).value a k).or
        ((ExtractMode.labelled.extract t).value a k) := by
  simp only [ExtractMode.extract, byLabels, value_ofLabels, labels_append hs, firstValue_append]

theorem sha1_labelled_append_eq_none_iff :
    (ExtractMode.labelled.extract (s ++ t)).sha1 = none ↔
      (ExtractMode.labelled.extract s).sha1 = none ∧
        (ExtractMode.labelled.extract t).sha1 = none := by
  simp only [ExtractMode.extract, byLabels, sha1_ofLabels_eq_none_iff, labels_append hs,
    List.forall_mem_append]

end

/-! ### Pieces with tokens -/

theorem hexTokens_prefix {s : List Char} {c : Char} (hs : s.getLast? = some c)
    (hc : isWhitespace c = true) (n : Nat) (t : List Char) :
    hexTokens n s <+: hexTokens n (s ++ t) := by
  obtain ⟨u, rfl⟩ := List.getLast?_eq_some_iff.mp hs
  rw [List.append_assoc, List.singleton_append, hexTokens_append_cons n u t hc]
  exact List.prefix_append _ _

theorem value_byTokens_of_prefix {s t : List Char} (h : ∀ n, hexTokens n s <+: hexTokens n t)
    {a : Algorithm} {k : HashKind} {v : String} (hv : (byTokens s).value a k = some v) :
    (byTokens t).value a k = some v := by
  rw [value_byTokens] at hv ⊢
  have hmap := (h a.digits).map String.ofList
  cases k with
  | stored => exact getElem?_of_prefix hmap hv
  | computed => exact getElem?_of_prefix hmap hv

/-- **Reports in pieces.** After a complete piece by label lines: each slot has the first piece's
value if it has one and else the second's, there is no SHA1 pair exactly if neither has one, and so
no value found is changed. Around any white space by position: the tokens are those up to it and
those from it on. So the tokens found up to white space stay the first ones, and with them the
values. -/
theorem extract_append (s t : String) :
    (IsComplete s →
      (∀ a k, (ExtractMode.labelled.extract (s ++ t)).value a k =
        ((ExtractMode.labelled.extract s).value a k).or
          ((ExtractMode.labelled.extract t).value a k)) ∧
      ((ExtractMode.labelled.extract (s ++ t)).sha1 = none ↔
        (ExtractMode.labelled.extract s).sha1 = none ∧
          (ExtractMode.labelled.extract t).sha1 = none) ∧
      ∀ a k v, (ExtractMode.labelled.extract s).value a k = some v →
        (ExtractMode.labelled.extract (s ++ t)).value a k = some v) ∧
    ∀ c, isWhitespace c = true →
      (∀ n, hexTokens n (s.toList ++ c :: t.toList) =
        hexTokens n (s.toList ++ [c]) ++ hexTokens n (c :: t.toList)) ∧
      (s.toList.getLast? = some c →
        (∀ n, hexTokens n s.toList <+: hexTokens n (s ++ t).toList) ∧
        ∀ a k v, (ExtractMode.tokens.extract s).value a k = some v →
          (ExtractMode.tokens.extract (s ++ t)).value a k = some v) := by
  refine ⟨fun hs => ⟨?_, ?_, ?_⟩, fun c hc => ⟨?_, fun hs => ?_⟩⟩
  · exact value_labelled_append hs t
  · exact sha1_labelled_append_eq_none_iff hs t
  · intro a k v hv
    rw [value_labelled_append hs, hv, Option.some_or]
  · exact fun n => hexTokens_append_cons n s.toList t.toList hc
  · have hfirst : ∀ n, hexTokens n s.toList <+: hexTokens n (s ++ t).toList := fun n =>
      String.toList_append ▸ hexTokens_prefix hs hc n t.toList
    exact ⟨hfirst, fun a k v hv => value_byTokens_of_prefix hfirst hv⟩

/-- The second piece says something else about a hash that is found already, and something new in a
last line without a newline. -/
theorem extract_append_of_second_value :
    let v := "0123456789abcdef0123456789abcdef"
    let s := "MD5 hash stored in file: " ++ v ++ "\n"
    let t := "md5 hash stored in file: ff\nSHA1 hash calculated over data: n/a"
    IsComplete s ∧ s.toList.getLast? = some '\n' ∧ isWhitespace '\n' = true ∧
      (ExtractMode.labelled.extract (s ++ t)).value .md5 .stored = some v ∧
      (ExtractMode.labelled.extract (s ++ t)).value .sha1 .computed = some "N/A" ∧
      (ExtractMode.labelled.extract (s ++ t)).sha1 ≠ none ∧
      (ExtractMode.tokens.extract (s ++ t)).value .md5 .stored = some v ∧
      hexTokens 32 (s.toList ++ '\u3000' :: t.toList) = [v.toList] := by
  intro v s t
  have hs : IsComplete s := by decide +kernel
  have hlast : s.toList.getLast? = some '\n' := by decide +kernel
  have hc : isWhitespace '\n' = true := by decide
  obtain ⟨hvalue, hsha1, hkept⟩ := (extract_append s t).1 hs
  have htokens := ((extract_append s t).2 '\n' hc).2 hlast
  refine ⟨hs, hlast, hc, ?_, ?_, ?_, ?_, ?_⟩
  · exact hkept .md5 .stored v (by decide +kernel)
  · rw [hvalue .sha1 .computed]
    decide +kernel
  · rw [Ne, hsha1]
    decide +kernel
  · exact htokens.2 .md5 .stored v (by decide +kernel)
  · rw [((extract_append s t).2 '\u3000' (by decide)).1 32]
    decide +kernel

end CrossCheck.Extract
