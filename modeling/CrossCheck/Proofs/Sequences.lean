import Mathlib.Data.List.Forall2
import Mathlib.Data.List.TakeWhile

/-! # Items one by one

What comes of the items of a list that are taken one by one, up to the first that ends it: by a
predicate (`upTo`), by having no value (`findSome?_congr_map`, `foldlM_eq_none_iff`) or by an error
(`mapM_eq_error_iff`). -/

namespace CrossCheck

/-! ### Beginnings -/

section Beginnings
variable {α : Type}

theorem head?_dropWhile {p : α → Bool} {s : List α} :
    ∀ c ∈ (s.dropWhile p).head?, p c = false := by
  intro c hc
  have h := List.head?_dropWhile_not p s
  rw [Option.mem_def.mp hc] at h
  simpa using h

theorem dropWhile_of_head? {p : α → Bool} {s : List α} (h : ∀ c ∈ s.head?, p c = false) :
    s.dropWhile p = s := by
  rcases s with _ | ⟨c, s⟩
  · rfl
  · exact List.dropWhile_cons_of_neg (by simp [h c rfl])

theorem getElem?_of_prefix {vs ws : List α} (h : vs <+: ws) {i : Nat} {v : α}
    (hv : vs[i]? = some v) : ws[i]? = some v := by
  obtain ⟨hi, rfl⟩ := List.getElem?_eq_some_iff.mp hv
  exact List.prefix_iff_getElem?.mp h i hi

end Beginnings

/-! ### Up to the first -/

/-- The items up to the first that satisfies `p`, that one included. -/
def upTo {α : Type} (p : α → Bool) : List α → List α
  | [] => []
  | x :: xs => x :: if p x then [] else upTo p xs

section UpTo
variable {α β : Type} {p : α → Bool}

theorem upTo_append (p : α → Bool) (xs ys : List α) :
    upTo p (xs ++ ys) = upTo p xs ++ if xs.any p then [] else upTo p ys := by
  induction xs with
  | nil => rfl
  | cons x xs ih => cases h : p x <;> simp [upTo, h, ih]

theorem upTo_of_all {xs : List α} (h : ∀ x ∈ xs, p x = false) : upTo p xs = xs := by
  induction xs with
  | nil => rfl
  | cons x xs ih =>
    obtain ⟨hx, hxs⟩ := List.forall_mem_cons.mp h
    simp [upTo, hx, ih hxs]

theorem upTo_of_first {xs ys : List α} {x : α} (hxs : ∀ y ∈ xs, p y = false) (hx : p x = true) :
    upTo p (xs ++ x :: ys) = xs ++ [x] := by
  have ha : xs.any p = false := List.any_eq_false.mpr fun y hy => by simp [hxs y hy]
  rw [upTo_append, upTo_of_all hxs, ha]
  simp [upTo, hx]

theorem upTo_append_drop (p : α → Bool) (xs : List α) :
    upTo p xs ++ xs.drop (upTo p xs).length = xs := by
  induction xs with
  | nil => rfl
  | cons x xs ih => cases h : p x <;> simp [upTo, h, ih]

/-- Lists one after the other are cut in the first of them that has an item which satisfies `p`. -/
theorem upTo_flatMap (f : β → List α) (xs : List β) :
    upTo p (xs.flatMap f) = (upTo (fun x => (f x).any p) xs).flatMap fun x => upTo p (f x) := by
  induction xs with
  | nil => rfl
  | cons x xs ih =>
    rw [List.flatMap_cons, upTo_append, ih]
    cases h : (f x).any p <;> simp [upTo, h]

theorem all_or_exists_first (p : α → Bool) (xs : List α) :
    (∀ x ∈ xs, p x = false) ∨
      ∃ ys x zs, xs = ys ++ x :: zs ∧ (∀ y ∈ ys, p y = false) ∧ p x = true := by
  induction xs with
  | nil => simp
  | cons x xs ih =>
    rcases hx : p x with _ | _
    · rcases ih with h | ⟨ys, y, zs, rfl, hys, hy⟩
      · exact Or.inl (List.forall_mem_cons.mpr ⟨hx, h⟩)
      · exact Or.inr ⟨x :: ys, y, zs, rfl, List.forall_mem_cons.mpr ⟨hx, hys⟩, hy⟩
    · exact Or.inr ⟨[], x, xs, rfl, by simp, hx⟩

end UpTo

/-! ### Steps that may fail -/

section Steps
variable {α β ε σ : Type}

theorem findSome?_congr_map {f : α → Option β} {xs ys : List α}
    (h : xs.map f = ys.map f) : xs.findSome? f = ys.findSome? f := by
  have hmap : ∀ zs : List α, zs.findSome? f = (zs.map f).findSome? id := fun zs => by
    rw [List.findSome?_map, Function.id_comp]
  rw [hmap, hmap, h]

/-- If it does not depend on the steps before whether one can be taken, then one of them cannot. -/
theorem foldlM_eq_none_iff {step : σ → α → Option σ} {wrong : α → Prop}
    (hstep : ∀ s a, step s a = none ↔ wrong a) (as : List α) (s : σ) :
    as.foldlM step s = none ↔ ∃ a ∈ as, wrong a := by
  induction as generalizing s with
  | nil => simp
  | cons a as ih =>
    rw [List.foldlM_cons, List.exists_mem_cons_iff, ← hstep s a]
    rcases hs : step s a with _ | s'
    · simp
    · simpa using ih s'

variable {f : α → Except ε β}

theorem exists_first_cons_iff {P Q : α → Prop} {a : α} {as : List α} :
    (∃ before b after, a :: as = before ++ b :: after ∧ (∀ c ∈ before, P c) ∧ Q b) ↔
      Q a ∨ P a ∧ ∃ before b after, as = before ++ b :: after ∧ (∀ c ∈ before, P c) ∧ Q b := by
  constructor
  · rintro ⟨_ | ⟨c, before⟩, b, after, h, hbefore, hb⟩
    · obtain ⟨rfl, -⟩ := List.cons.inj h
      exact Or.inl hb
    · obtain ⟨rfl, rfl⟩ := List.cons.inj h
      obtain ⟨ha, hbefore⟩ := List.forall_mem_cons.mp hbefore
      exact Or.inr ⟨ha, before, b, after, rfl, hbefore, hb⟩
  · rintro (ha | ⟨ha, before, b, after, rfl, hbefore, hb⟩)
    · exact ⟨[], a, as, rfl, by simp, ha⟩
    · exact ⟨a :: before, b, after, rfl, List.forall_mem_cons.mpr ⟨ha, hbefore⟩, hb⟩

theorem mapM_eq_error_iff {as : List α} {e : ε} :
    as.mapM f = .error e ↔ ∃ before a after, as = before ++ a :: after ∧
      (∀ b ∈ before, ∃ y, f b = .ok y) ∧ f a = .error e := by
  induction as with
  | nil => simp [pure, Except.pure]
  | cons a as ih =>
    rw [exists_first_cons_iff, ← ih, List.mapM_cons]
    rcases f a with e' | y
    · simp [bind, Except.bind]
    · rcases as.mapM f with e' | ys <;> simp [bind, Except.bind, pure, Except.pure]

theorem mapM_eq_ok_iff {as : List α} {ys : List β} :
    as.mapM f = .ok ys ↔ List.Forall₂ (fun a y => f a = .ok y) as ys := by
  induction as generalizing ys with
  | nil => cases ys <;> simp [pure, Except.pure]
  | cons a as ih =>
    rw [List.mapM_cons]
    rcases ha : f a with e | y
    · cases ys <;> simp [bind, Except.bind, ha]
    · rcases has : as.mapM f with e | ys' <;> cases ys <;>
        simp [bind, Except.bind, pure, Except.pure, ← ih, ha, has]

theorem exists_mapM_iff {as : List α} :
    (∃ ys, as.mapM f = .ok ys) ↔ ∀ a ∈ as, ∃ y, f a = .ok y := by
  induction as with
  | nil => simp [pure, Except.pure]
  | cons a as ih =>
    rw [List.forall_mem_cons, ← ih, List.mapM_cons]
    rcases f a with e | y
    · simp [bind, Except.bind]
    · rcases as.mapM f with e | ys <;> simp [bind, Except.bind, pure, Except.pure]

end Steps

end CrossCheck
