import CrossCheck.Comparison
import Mathlib.Data.List.Nodup
import Mathlib.Tactic.SplitIfs

/-! # What a comparison finds

The discrepancies between two findings are determined by what is so: a discrepancy is listed if and
only if it holds (`mem_between`), each check adds at most one, and they stand in the order of the
checks (`sublist_between`). There are none if and only if the findings agree
(`between_eq_nil_iff`).

SHA1 is looked at only if the reference has it, so agreement says nothing about the SHA1 of a
candidate whose reference has none. -/

namespace CrossCheck

/-! ### Values and checks -/

/-- The value of a hash, absent if it was not reported. -/
def Hashes.value (h : Hashes) (a : Algorithm) (k : HashKind) : Option String :=
  match a with
  | .md5 => h.md5.get k
  | .sha1 => (h.sha1.getD {}).get k

/-- Both kinds of hash in order. -/
def HashKind.order : List HashKind := [stored, computed]

@[simp]
theorem HashKind.mem_order (k : HashKind) : k ∈ order := by cases k <;> simp [order]

/-- A check that a comparison makes: of the exit codes, or of one hash. -/
inductive Check where
  | exitCode
  | value (algorithm : Algorithm) (kind : HashKind)
  deriving DecidableEq, Repr

/-- All checks in order. -/
def Check.order : List Check :=
  [exitCode, value .md5 .stored, value .md5 .computed, value .sha1 .stored, value .sha1 .computed]

namespace Discrepancy

/-- The check that a discrepancy comes from. -/
def check : Discrepancy → Check
  | exitCode _ _ => .exitCode
  | hash a k _ _ => .value a k
  | missing a k => .value a k

/-- A discrepancy is about the hashes of an algorithm. -/
def concerns (a : Algorithm) : Discrepancy → Bool
  | exitCode _ _ => false
  | hash b _ _ _ => b = a
  | missing b _ => b = a

end Discrepancy

namespace Finding

/-- The algorithms that a comparison with the reference `r` looks at. -/
def algorithms (r : Finding) : List Algorithm :=
  if r.hashes.sha1.isSome then [.md5, .sha1] else [.md5]

@[simp]
theorem mem_algorithms {r : Finding} {a : Algorithm} :
    a ∈ r.algorithms ↔ a = .md5 ∨ r.hashes.sha1.isSome := by
  unfold algorithms
  cases a <;> split_ifs with h <;> simp [h]

/-- Both findings report the hash, with the same value. -/
def SameValue (r c : Finding) (a : Algorithm) (k : HashKind) : Prop :=
  ∃ v, r.hashes.value a k = some v ∧ c.hashes.value a k = some v

/-- **Agreement** of the candidate `c` with the reference `r`. -/
structure Agrees (r c : Finding) : Prop where
  exitCode : r.exitCode = c.exitCode
  md5 : ∀ k, SameValue r c .md5 k
  sha1 : r.hashes.sha1.isSome → ∀ k, SameValue r c .sha1 k

end Finding

/-- **What a discrepancy says** about the reference `r` and the candidate `c`. Values that differ
are not both absent, so no hash is found to differ and to be missing. -/
def Discrepancy.Holds (r c : Finding) : Discrepancy → Prop
  | exitCode x y => x = r.exitCode ∧ y = c.exitCode ∧ x ≠ y
  | hash a k x y =>
    a ∈ r.algorithms ∧ x = r.hashes.value a k ∧ y = c.hashes.value a k ∧ x ≠ y
  | missing a k => a ∈ r.algorithms ∧ r.hashes.value a k = none ∧ c.hashes.value a k = none

namespace Discrepancy

/-! ### One check -/

theorem mem_ofExitCodes {x y : Int} {d : Discrepancy} :
    d ∈ ofExitCodes x y ↔ d = exitCode x y ∧ x ≠ y := by
  unfold ofExitCodes
  split_ifs with h <;> simp [h]

theorem mem_ofValues {a : Algorithm} {k : HashKind} {x y : Option String} {d : Discrepancy} :
    d ∈ ofValues a k x y ↔
      d = missing a k ∧ x = none ∧ y = none ∨ d = hash a k x y ∧ x ≠ y := by
  unfold ofValues
  split_ifs with h1 h2
  · simp [h1]
  · simp only [List.not_mem_nil, false_iff, not_or, not_and, not_not]
    exact ⟨fun _ hx hy => h1 ⟨hx, hy⟩, fun _ => h2⟩
  · simp only [List.mem_singleton]
    constructor
    · exact fun hd => Or.inr ⟨hd, h2⟩
    · rintro (⟨-, hxy⟩ | ⟨hd, -⟩)
      · exact absurd hxy h1
      · exact hd

theorem ofExitCodes_eq_nil_iff {x y : Int} : ofExitCodes x y = [] ↔ x = y := by
  unfold ofExitCodes
  split_ifs with h <;> simp [h]

theorem ofValues_eq_nil_iff {a : Algorithm} {k : HashKind} {x y : Option String} :
    ofValues a k x y = [] ↔ ∃ v, x = some v ∧ y = some v := by
  unfold ofValues
  split_ifs with h1 h2
  · simp [h1]
  · subst h2
    obtain ⟨v, hv⟩ := Option.ne_none_iff_exists'.mp fun hx => h1 ⟨hx, hx⟩
    simp [hv]
  · simp only [false_iff]
    rintro ⟨v, hx, hy⟩
    exact h2 (hx.trans hy.symm)

theorem sublist_ofExitCodes (x y : Int) :
    ((ofExitCodes x y).map check).Sublist [.exitCode] := by
  unfold ofExitCodes
  split_ifs <;> simp [check]

theorem sublist_ofValues (a : Algorithm) (k : HashKind) (x y : Option String) :
    ((ofValues a k x y).map check).Sublist [.value a k] := by
  unfold ofValues
  split_ifs <;> simp [check]

/-! ### All checks -/

theorem between_eq (r c : Finding) :
    between r c = ofExitCodes r.exitCode c.exitCode ++
      r.algorithms.flatMap fun a => HashKind.order.flatMap fun k =>
        ofValues a k (r.hashes.value a k) (c.hashes.value a k) := by
  unfold between Finding.algorithms
  rcases h : r.hashes.sha1 with _ | p <;>
    simp [h, ofPairs, HashKind.order, Hashes.value, HashPair.get]

/-- **Soundness and completeness:** what is listed is what holds. -/
theorem mem_between {r c : Finding} {d : Discrepancy} : d ∈ between r c ↔ d.Holds r c := by
  simp only [between_eq, List.mem_append, List.mem_flatMap, HashKind.mem_order, true_and,
    mem_ofExitCodes, mem_ofValues]
  cases d with
  | exitCode x y =>
    simp only [Holds, exitCode.injEq, reduceCtorEq, false_and, or_self, exists_false, and_false,
      or_false]
    constructor
    · rintro ⟨⟨rfl, rfl⟩, h⟩; exact ⟨rfl, rfl, h⟩
    · rintro ⟨rfl, rfl, h⟩; exact ⟨⟨rfl, rfl⟩, h⟩
  | hash a k x y =>
    simp only [Holds, hash.injEq, reduceCtorEq, false_and, false_or]
    constructor
    · rintro ⟨b, hb, l, ⟨rfl, rfl, rfl, rfl⟩, h⟩; exact ⟨hb, rfl, rfl, h⟩
    · rintro ⟨ha, rfl, rfl, h⟩; exact ⟨a, ha, k, ⟨rfl, rfl, rfl, rfl⟩, h⟩
  | missing a k =>
    simp only [Holds, missing.injEq, reduceCtorEq, false_and, or_false, false_or]
    constructor
    · rintro ⟨b, hb, l, ⟨rfl, rfl⟩, h⟩; exact ⟨hb, h⟩
    · rintro ⟨ha, h⟩; exact ⟨a, ha, k, ⟨rfl, rfl⟩, h⟩

/-- **The order** of the discrepancies is that of the checks, each of which adds at most one. -/
theorem sublist_between (r c : Finding) : ((between r c).map check).Sublist Check.order := by
  have h : ∀ a (p q : HashPair),
      ((ofPairs a p q).map check).Sublist [.value a .stored, .value a .computed] := fun a p q => by
    rw [ofPairs, List.map_append]
    exact (sublist_ofValues ..).append (sublist_ofValues ..)
  have ho : Check.order = [Check.exitCode] ++ [.value .md5 .stored, .value .md5 .computed] ++
      [.value .sha1 .stored, .value .sha1 .computed] := rfl
  rw [between, List.map_append, List.map_append, ho]
  refine ((sublist_ofExitCodes ..).append (h .md5 _ _)).append ?_
  split
  · exact List.nil_sublist _
  · exact h .sha1 _ _

theorem nodup_between (r c : Finding) : (between r c).Nodup :=
  List.Nodup.of_map _ ((sublist_between r c).nodup (by decide))

theorem between_eq_nil_iff {r c : Finding} : between r c = [] ↔ r.Agrees c := by
  simp only [between_eq, List.append_eq_nil_iff, ofExitCodes_eq_nil_iff, List.flatMap_eq_nil_iff,
    ofValues_eq_nil_iff, HashKind.mem_order, forall_true_left, Finding.mem_algorithms]
  constructor
  · rintro ⟨he, h⟩
    exact ⟨he, h .md5 (Or.inl rfl), fun hs => h .sha1 (Or.inr hs)⟩
  · rintro ⟨he, h5, h1⟩
    refine ⟨he, fun a ha => ?_⟩
    cases a with
    | md5 => exact h5
    | sha1 => exact h1 (ha.resolve_left (by simp))

/-! ### The discrepancies of one algorithm -/

theorem filter_concerns_ofExitCodes (a : Algorithm) (x y : Int) :
    (ofExitCodes x y).filter (concerns a) = [] := by
  unfold ofExitCodes
  split_ifs <;> simp [concerns]

theorem filter_concerns_ofPairs (a b : Algorithm) (p q : HashPair) :
    (ofPairs b p q).filter (concerns a) = if b = a then ofPairs b p q else [] := by
  unfold ofPairs ofValues
  by_cases h : b = a <;> split_ifs <;> simp [concerns, h]

theorem filter_concerns_sha1_between (r c : Finding) :
    (between r c).filter (concerns .sha1) =
      (r.hashes.sha1.map fun p => ofPairs .sha1 p (c.hashes.sha1.getD {})).getD [] := by
  unfold between
  rw [List.filter_append, List.filter_append, filter_concerns_ofExitCodes, filter_concerns_ofPairs]
  rcases r.hashes.sha1 with _ | p
  · rfl
  · exact filter_concerns_ofPairs ..

theorem map_check_ofPairs_empty (a : Algorithm) (p : HashPair) :
    (ofPairs a p {}).map check = [.value a .stored, .value a .computed] := by
  have h : ∀ k x, (ofValues a k x none).map check = [.value a k] := fun k x => by
    cases x <;> rfl
  rw [ofPairs, List.map_append, h, h]
  rfl

/-- A hash that is looked at passes if and only if both findings have the same value for it. -/
theorem forall_check_ne_iff {r c : Finding} {a : Algorithm} (ha : a ∈ r.algorithms)
    (k : HashKind) : (∀ d ∈ between r c, d.check ≠ .value a k) ↔ r.SameValue c a k := by
  constructor
  · intro h
    by_contra hn
    have hv : ofValues a k (r.hashes.value a k) (c.hashes.value a k) ≠ [] :=
      mt ofValues_eq_nil_iff.mp hn
    obtain ⟨d, hd⟩ := List.exists_mem_of_ne_nil _ hv
    rcases mem_ofValues.mp hd with ⟨rfl, hx, hy⟩ | ⟨rfl, hne⟩
    · exact h (missing a k) (mem_between.mpr ⟨ha, hx, hy⟩) rfl
    · exact h (hash a k _ _) (mem_between.mpr ⟨ha, rfl, rfl, hne⟩) rfl
  · rintro ⟨v, hr, hc⟩ d hd hk
    have hh := mem_between.mp hd
    cases d with
    | exitCode x y => cases hk
    | hash b l x y =>
      cases hk
      obtain ⟨-, rfl, rfl, hne⟩ := hh
      exact hne (hr.trans hc.symm)
    | missing b l =>
      cases hk
      obtain ⟨-, hn, -⟩ := hh
      exact Option.some_ne_none v (hr.symm.trans hn)

end Discrepancy

instance (r c : Finding) : Decidable (r.Agrees c) :=
  decidable_of_iff _ Discrepancy.between_eq_nil_iff

namespace Outcome

theorem failed_eq_false_iff {o : Outcome} : o.failed = false ↔ o.discrepancies = [] := by
  simp [failed]

/-- **A comparison is sound, complete and ordered.** It lists what holds and nothing else, each
thing once and in the order of the checks; a hash that is looked at passes only if both sides have
it and have the same; and a reference with SHA1 finds both SHA1 values of a candidate without it at
fault. -/
theorem discrepancies_ofFindings (m n : String) (r c : Finding) :
    let o := ofFindings m r n c
    (∀ d, d ∈ o.discrepancies ↔ d.Holds r c) ∧
    (∀ a ∈ r.algorithms, ∀ k,
      (∀ d ∈ o.discrepancies, d.check ≠ .value a k) ↔ r.SameValue c a k) ∧
    o.discrepancies.Nodup ∧ (o.discrepancies.map Discrepancy.check).Sublist Check.order ∧
    (o.failed = false ↔ r.Agrees c) ∧
    (r.hashes.sha1.isSome → c.hashes.sha1 = none →
      (o.discrepancies.filter (Discrepancy.concerns .sha1)).map Discrepancy.check =
        [.value .sha1 .stored, .value .sha1 .computed]) := by
  refine ⟨fun d => Discrepancy.mem_between, fun a ha k => Discrepancy.forall_check_ne_iff ha k,
    Discrepancy.nodup_between r c, Discrepancy.sublist_between r c,
    failed_eq_false_iff.trans Discrepancy.between_eq_nil_iff, fun hr hc => ?_⟩
  obtain ⟨p, hp⟩ := Option.isSome_iff_exists.mp hr
  show ((Discrepancy.between r c).filter _).map _ = _
  rw [Discrepancy.filter_concerns_sha1_between, hp, hc]
  exact Discrepancy.map_check_ofPairs_empty .sha1 p

/-- A candidate without SHA1 agrees in all else with a reference that has one of the two values. -/
theorem discrepancies_sha1_of_reference_only :
    let r : Finding := ⟨0, ⟨⟨some "a", some "b"⟩, some ⟨some "c", none⟩⟩⟩
    let c : Finding := ⟨0, ⟨⟨some "a", some "b"⟩, none⟩⟩
    r.hashes.sha1.isSome ∧ c.hashes.sha1 = none ∧ Algorithm.sha1 ∈ r.algorithms ∧
      ¬ r.SameValue c .sha1 .computed ∧
      ((ofFindings "m" r "n" c).discrepancies.filter (Discrepancy.concerns .sha1)).map
        Discrepancy.check = [.value .sha1 .stored, .value .sha1 .computed] := by
  intro r c
  obtain ⟨-, hv, -, -, -, h1⟩ := discrepancies_ofFindings "m" "n" r c
  refine ⟨rfl, rfl, by decide, fun h => ?_, h1 rfl rfl⟩
  exact (hv .sha1 (by decide) .computed).mpr h (.missing .sha1 .computed) (by decide) rfl

end Outcome

end CrossCheck
