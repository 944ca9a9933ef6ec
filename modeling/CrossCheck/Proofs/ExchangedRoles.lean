import CrossCheck.Proofs.Comparison

/-! # Exchanged roles

With the roles exchanged each check finds the same with the two values exchanged
(`Discrepancy.swap`). SHA1 is looked at if the reference has it, so of two findings of which one has
SHA1 only the other way round does the comparison say anything about it
(`filter_concerns_sha1_of_candidate_only`). Otherwise the whole outcome is mirrored
(`swap_ofFindings`).

Agreement is transitive (`Agrees.trans`), and it is symmetric up to a SHA1 that the reference lacks
(`Agrees.symm`). -/

namespace CrossCheck

namespace Discrepancy

/-- The discrepancy with the roles exchanged. -/
def swap : Discrepancy → Discrepancy
  | exitCode x y => exitCode y x
  | hash a k x y => hash a k y x
  | missing a k => missing a k

/-! ### One check -/

theorem map_swap_ofExitCodes (x y : Int) : (ofExitCodes x y).map swap = ofExitCodes y x := by
  unfold ofExitCodes
  by_cases h : x = y
  · rw [if_pos h, if_pos h.symm, List.map_nil]
  · rw [if_neg h, if_neg (Ne.symm h), List.map_singleton, swap]

theorem map_swap_ofValues (a : Algorithm) (k : HashKind) (x y : Option String) :
    (ofValues a k x y).map swap = ofValues a k y x := by
  unfold ofValues
  by_cases hnone : x = none ∧ y = none
  · rw [if_pos hnone, if_pos hnone.symm, List.map_singleton, swap]
  rw [if_neg hnone, if_neg (mt And.symm hnone)]
  by_cases h : x = y
  · rw [if_pos h, if_pos h.symm, List.map_nil]
  · rw [if_neg h, if_neg (Ne.symm h), List.map_singleton, swap]

theorem map_swap_ofPairs (a : Algorithm) (p q : HashPair) :
    (ofPairs a p q).map swap = ofPairs a q p := by
  rw [ofPairs, List.map_append, map_swap_ofValues, map_swap_ofValues, ofPairs]

theorem concerns_of_mem_ofPairs {a b : Algorithm} {p q : HashPair} {d : Discrepancy}
    (hd : d ∈ ofPairs b p q) : d.concerns a = decide (b = a) := by
  rcases List.mem_append.mp hd with hd | hd <;>
    rcases mem_ofValues.mp hd with ⟨rfl, -⟩ | ⟨rfl, -⟩ <;> rfl

/-! ### Exit codes and MD5 -/

theorem filter_not_concerns_sha1_between (r c : Finding) :
    (between r c).filter (fun d => !d.concerns .sha1) =
      ofExitCodes r.exitCode c.exitCode ++ ofPairs .md5 r.hashes.md5 c.hashes.md5 := by
  have hexit : ∀ d ∈ ofExitCodes r.exitCode c.exitCode, (!d.concerns .sha1) = true := by
    intro d hd
    obtain ⟨rfl, -⟩ := mem_ofExitCodes.mp hd
    rfl
  have hmd5 : ∀ d ∈ ofPairs .md5 r.hashes.md5 c.hashes.md5, (!d.concerns .sha1) = true :=
    fun d hd => by rw [concerns_of_mem_ofPairs hd]; rfl
  have hsha1 : ∀ p q, ∀ d ∈ ofPairs .sha1 p q, ¬ (!d.concerns .sha1) = true :=
    fun p q d hd => by rw [concerns_of_mem_ofPairs hd]; decide
  rw [between, List.filter_append, List.filter_append, List.filter_eq_self.mpr hexit,
    List.filter_eq_self.mpr hmd5]
  rcases r.hashes.sha1 with _ | p
  · exact List.append_nil _
  · rw [List.filter_eq_nil_iff.mpr (hsha1 _ _), List.append_nil]

theorem map_swap_filter_not_concerns_sha1 (a b : Finding) :
    ((between a b).filter fun d => !d.concerns .sha1).map swap =
      (between b a).filter fun d => !d.concerns .sha1 := by
  rw [filter_not_concerns_sha1_between, filter_not_concerns_sha1_between, List.map_append,
    map_swap_ofExitCodes, map_swap_ofPairs]

/-! ### SHA1 -/

theorem map_swap_filter_concerns_sha1 {a b : Finding}
    (h : a.hashes.sha1.isSome = b.hashes.sha1.isSome) :
    ((between a b).filter (concerns .sha1)).map swap = (between b a).filter (concerns .sha1) := by
  rw [filter_concerns_sha1_between, filter_concerns_sha1_between]
  rcases ha : a.hashes.sha1 with _ | p <;> rcases hb : b.hashes.sha1 with _ | q
  · rfl
  · simp [ha, hb] at h
  · simp [ha, hb] at h
  · exact map_swap_ofPairs .sha1 p q

/-- **A SHA1 on one side only** is not looked at with that side as the candidate. With it as the
reference both kinds are found at fault. -/
theorem filter_concerns_sha1_of_candidate_only {a b : Finding} (ha : a.hashes.sha1 = none)
    (hb : b.hashes.sha1.isSome) :
    (between a b).filter (concerns .sha1) = [] ∧
      ((between b a).filter (concerns .sha1)).map check =
        [.value .sha1 .stored, .value .sha1 .computed] := by
  obtain ⟨q, hq⟩ := Option.isSome_iff_exists.mp hb
  rw [filter_concerns_sha1_between, filter_concerns_sha1_between, ha, hq]
  exact ⟨rfl, map_check_ofPairs_empty .sha1 q⟩

theorem between_eq_append_filter (r c : Finding) :
    between r c = (between r c).filter (fun d => !d.concerns .sha1) ++
      (between r c).filter (concerns .sha1) := by
  rw [filter_not_concerns_sha1_between, filter_concerns_sha1_between, between]
  rcases r.hashes.sha1 with _ | p <;> rfl

/-- **The discrepancies are mirrored** if both findings have SHA1 or neither does. -/
theorem map_swap_between {a b : Finding} (h : a.hashes.sha1.isSome = b.hashes.sha1.isSome) :
    (between a b).map swap = between b a := by
  rw [between_eq_append_filter a b, between_eq_append_filter b a, List.map_append,
    map_swap_filter_not_concerns_sha1, map_swap_filter_concerns_sha1 h]

end Discrepancy

/-! ### Agreement -/

namespace Finding

variable {a b c : Finding}

theorem SameValue.symm {g : Algorithm} {k : HashKind} (h : SameValue a b g k) :
    SameValue b a g k := by
  obtain ⟨v, ha, hb⟩ := h
  exact ⟨v, hb, ha⟩

theorem SameValue.trans {g : Algorithm} {k : HashKind} (h : SameValue a b g k)
    (h' : SameValue b c g k) : SameValue a c g k := by
  obtain ⟨v, ha, hb⟩ := h
  obtain ⟨w, hb', hc⟩ := h'
  obtain rfl : v = w := Option.some.inj (hb.symm.trans hb')
  exact ⟨v, ha, hc⟩

theorem SameValue.isSome {k : HashKind} (h : SameValue a b .sha1 k) : b.hashes.sha1.isSome := by
  obtain ⟨v, -, hb⟩ := h
  by_contra hnone
  rw [Hashes.value, Option.not_isSome_iff_eq_none.mp hnone] at hb
  cases k <;> cases hb

/-- **Agreement is transitive.** A SHA1 of the first finding is one of the second too, so that it is
looked at in both comparisons. -/
theorem Agrees.trans (h : a.Agrees b) (h' : b.Agrees c) : a.Agrees c where
  exitCode := h.exitCode.trans h'.exitCode
  md5 k := (h.md5 k).trans (h'.md5 k)
  sha1 ha k := (h.sha1 ha k).trans (h'.sha1 (h.sha1 ha k).isSome k)

/-- **Agreement is symmetric** up to a SHA1 that the reference lacks. -/
theorem Agrees.symm (h : a.Agrees b) (hsha1 : b.hashes.sha1.isSome → a.hashes.sha1.isSome) :
    b.Agrees a where
  exitCode := h.exitCode.symm
  md5 k := (h.md5 k).symm
  sha1 hb k := (h.sha1 (hsha1 hb) k).symm

/-- A candidate that agrees with a reference of which the reverse is not so has SHA1, and the
reference has none. -/
theorem Agrees.sha1_of_not_symm (h : a.Agrees b) (hn : ¬ b.Agrees a) :
    a.hashes.sha1 = none ∧ b.hashes.sha1.isSome := by
  have hne : ¬ (b.hashes.sha1.isSome → a.hashes.sha1.isSome) := fun hsha1 => hn (h.symm hsha1)
  obtain ⟨hb, ha⟩ := Classical.not_imp.mp hne
  exact ⟨Option.not_isSome_iff_eq_none.mp ha, hb⟩

end Finding

namespace Outcome

open Discrepancy

/-- The outcome with the roles exchanged. -/
def swap (o : Outcome) : Outcome where
  reference := o.candidate
  candidate := o.reference
  referenceExitCode := o.candidateExitCode
  candidateExitCode := o.referenceExitCode
  discrepancies := o.discrepancies.map Discrepancy.swap

theorem swap_ofFindings (m n : String) {a b : Finding}
    (h : a.hashes.sha1.isSome = b.hashes.sha1.isSome) :
    (ofFindings m a n b).swap = ofFindings n b m a := by
  simp only [swap, ofFindings, map_swap_between h]

theorem failed_ofFindings_eq_false_iff {m n : String} {a b : Finding} :
    (ofFindings m a n b).failed = false ↔ a.Agrees b :=
  failed_eq_false_iff.trans between_eq_nil_iff

/-- **Exchanged roles mirror what is found** about the exit codes and MD5, and all of the outcome if
both findings have SHA1 or neither does. If one of them has it, only the comparison that has that
one as the reference finds anything about it, and then both kinds. So passing is transitive, and it
goes one way only for a reference without SHA1 and a candidate with it. -/
theorem ofFindings_exchanged (m n : String) (a b : Finding) :
    let o := ofFindings m a n b
    let o' := ofFindings n b m a
    (o'.discrepancies.filter fun d => !d.concerns .sha1) =
      (o.discrepancies.filter fun d => !d.concerns .sha1).map Discrepancy.swap ∧
    (a.hashes.sha1.isSome = b.hashes.sha1.isSome →
      o'.discrepancies.filter (concerns .sha1) =
        (o.discrepancies.filter (concerns .sha1)).map Discrepancy.swap ∧ o' = o.swap) ∧
    (a.hashes.sha1 = none → b.hashes.sha1.isSome →
      o.discrepancies.filter (concerns .sha1) = [] ∧
        (o'.discrepancies.filter (concerns .sha1)).map check =
          [.value .sha1 .stored, .value .sha1 .computed]) ∧
    (o.failed = false → ∀ (p : String) (c : Finding), (ofFindings n b p c).failed = false →
      (ofFindings m a p c).failed = false) ∧
    (o.failed = false → o'.failed = true → a.hashes.sha1 = none ∧ b.hashes.sha1.isSome) := by
  refine ⟨(map_swap_filter_not_concerns_sha1 a b).symm, fun h => ?_,
    filter_concerns_sha1_of_candidate_only, fun hab p c hbc => ?_, fun hab hba => ?_⟩
  · exact ⟨(map_swap_filter_concerns_sha1 h).symm, (swap_ofFindings m n h).symm⟩
  · rw [failed_ofFindings_eq_false_iff] at hab hbc ⊢
    exact hab.trans hbc
  · rw [← Bool.not_eq_false, failed_ofFindings_eq_false_iff] at hba
    exact (failed_ofFindings_eq_false_iff.mp hab).sha1_of_not_symm hba

/-- A finding without SHA1 passes against one with it and not the other way round, and that one
differs from a third in the exit code and in every hash but one. -/
theorem ofFindings_exchanged_of_candidate_sha1 :
    let a : Finding := ⟨0, ⟨⟨some "a", some "b"⟩, none⟩⟩
    let b : Finding := ⟨0, ⟨⟨some "a", some "b"⟩, some ⟨some "c", some "d"⟩⟩⟩
    let c : Finding := ⟨1, ⟨⟨some "a", none⟩, some ⟨none, some "e"⟩⟩⟩
    (ofFindings "m" a "n" b).failed = false ∧ (ofFindings "n" b "p" b).failed = false ∧
      (ofFindings "m" a "p" b).failed = false ∧ (ofFindings "n" b "m" a).failed = true ∧
      a.hashes.sha1 = none ∧ b.hashes.sha1.isSome ∧
      ((ofFindings "n" b "m" a).discrepancies.filter (concerns .sha1)).map check =
        [.value .sha1 .stored, .value .sha1 .computed] ∧
      b.hashes.sha1.isSome = c.hashes.sha1.isSome ∧
      ofFindings "p" c "n" b = (ofFindings "n" b "p" c).swap := by
  intro a b c
  have hab : (ofFindings "m" a "n" b).failed = false := by decide
  have hba : (ofFindings "n" b "m" a).failed = true := by decide
  have hbb : (ofFindings "n" b "p" b).failed = false := by decide
  have hsome : b.hashes.sha1.isSome = c.hashes.sha1.isSome := rfl
  obtain ⟨-, -, honly, htrans, hsymm⟩ := ofFindings_exchanged "m" "n" a b
  obtain ⟨-, hboth, -⟩ := ofFindings_exchanged "n" "p" b c
  obtain ⟨ha, hb⟩ := hsymm hab hba
  exact ⟨hab, hbb, htrans hab "p" b hbb, hba, ha, hb, (honly ha hb).2, hsome, (hboth hsome).2⟩

end Outcome

end CrossCheck
