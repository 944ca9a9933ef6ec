import CrossCheck.Proofs.Words
import CrossCheck.Settings

/-! # Extensions in normal form

A configured extension is trimmed first and then loses the dots before it. What is left is said by
what stands around it (`Stripped`, `normalExtension_eq_iff`). It starts with no dot and ends in no
white space. But white space between the dots and the rest is at no end when the extension is
trimmed, and it is not looked at again. So the extensions that settings keep have no white space
around them, and stay as they are when they are set once more, if and only if none of those given
has such a gap (`extensions_normal_iff`). One that has is kept with a blank before it
(`not_normal_of_gap`). -/

namespace CrossCheck

open Text

/-! ### One extension -/

/-- **What is taken off an extension** around `x`: the white space `g` and the dots `ds` before it,
and the white space `t` after it, all of them as far as they go. -/
structure TakenOff (g ds x t : List Char) : Prop where
  before : ∀ c ∈ g, isWhitespace c = true
  dots : ∀ c ∈ ds, c = '.'
  after : ∀ c ∈ t, isWhitespace c = true
  first : ∀ c ∈ (ds ++ x).head?, isWhitespace c = false
  no_dot : ∀ c ∈ x.head?, c ≠ '.'
  last : ∀ c ∈ x.getLast?, isWhitespace c = false

/-- **What is left of an extension** is `x`. -/
def Stripped (e x : List Char) : Prop :=
  ∃ g ds t, e = g ++ (ds ++ x ++ t) ∧ TakenOff g ds x t

theorem isWhitespace_dot : isWhitespace '.' = false := by decide

theorem TakenOff.last_dots_append {g ds x t : List Char} (h : TakenOff g ds x t) :
    ∀ c ∈ (ds ++ x).getLast?, isWhitespace c = false := by
  intro c hc
  rcases eq_or_ne x [] with rfl | hx
  · rw [List.append_nil] at hc
    rw [h.dots c (List.mem_of_getLast? hc), isWhitespace_dot]
  · rw [List.getLast?_append_of_ne_nil _ hx] at hc
    exact h.last c hc

theorem Stripped.eq {e x : List Char} (h : Stripped e x) : (trim e).dropWhile (· = '.') = x := by
  obtain ⟨g, ds, t, rfl, h⟩ := h
  rw [trim_white_append h.before h.first h.last_dots_append h.after,
    List.dropWhile_append_of_pos (by simpa using h.dots),
    dropWhile_of_head? (by simpa using h.no_dot)]

theorem stripped_dropWhile (e : List Char) : Stripped e ((trim e).dropWhile (· = '.')) := by
  obtain ⟨g, t, he, hg, ht⟩ := exists_trim e
  have htrim : (trim e).takeWhile (· = '.') ++ (trim e).dropWhile (· = '.') = trim e :=
    List.takeWhile_append_dropWhile
  refine ⟨g, (trim e).takeWhile (· = '.'), t, by rw [htrim, ← he], hg,
    fun c hc => by simpa using List.mem_takeWhile_imp (p := (· = '.')) hc, ht, ?_,
    fun c hc => of_decide_eq_false (head?_dropWhile (p := (· = '.')) c hc), fun c hc => ?_⟩
  · rw [htrim]
    exact head?_trim e
  · refine getLast?_trim e c ?_
    rw [← htrim, List.getLast?_append, Option.mem_def.mp hc]
    rfl

/-- **The normal form of an extension** is what is left of it. -/
theorem normalExtension_eq_iff {e x : String} :
    normalExtension e = x ↔ Stripped e.toList x.toList := by
  rw [normalExtension, ← String.toList_inj, String.toList_ofList]
  exact ⟨fun h => h ▸ stripped_dropWhile e.toList, Stripped.eq⟩

/-! ### White space behind dots -/

/-- **A gap** in an extension: white space between the dots before it and the rest of it. -/
def HasGap (e : List Char) : Prop :=
  ∃ g ds c r, e = g ++ (ds ++ c :: r) ∧ (∀ d ∈ g, isWhitespace d = true) ∧ ds ≠ [] ∧
    (∀ d ∈ ds, d = '.') ∧ isWhitespace c = true ∧ ∃ d ∈ r, isWhitespace d = false

theorem Stripped.hasGap {e x : List Char} {c : Char} (h : Stripped e (c :: x))
    (hc : isWhitespace c = true) : HasGap e := by
  obtain ⟨g, ds, t, rfl, h⟩ := h
  have hds : ds ≠ [] := by
    rintro rfl
    rw [h.first c rfl] at hc
    cases hc
  have hx : x ≠ [] := by
    rintro rfl
    rw [h.last c rfl] at hc
    cases hc
  have hlast : x.getLast hx ∈ (c :: x).getLast? := by
    rw [List.getLast?_cons_of_ne_nil hx, Option.mem_def, List.getLast?_eq_some_getLast]
  exact ⟨g, ds, c, x ++ t, by simp, h.before, hds, h.dots, hc, _,
    List.mem_append_left t (List.getLast_mem hx), h.last _ hlast⟩

theorem HasGap.exists_stripped {e : List Char} (h : HasGap e) :
    ∃ c x, Stripped e (c :: x) ∧ isWhitespace c = true := by
  obtain ⟨g, ds, c, r, rfl, hg, hne, hds, hc, d, hd, hsolid⟩ := h
  obtain ⟨t, hr, ht⟩ := exists_trimEnd r
  have hend : trimEnd r ≠ [] := by
    intro hnil
    rw [hnil, List.nil_append] at hr
    rw [ht d (hr ▸ hd)] at hsolid
    cases hsolid
  refine ⟨c, trimEnd r, ⟨g, ds, t, ?_, hg, hds, ht, ?_, ?_, ?_⟩, hc⟩
  · rw [List.append_assoc ds, List.cons_append, ← hr]
  · obtain ⟨d', ds, rfl⟩ := List.exists_cons_of_ne_nil hne
    rintro _ ⟨⟩
    rw [hds d' List.mem_cons_self, isWhitespace_dot]
  · rintro _ ⟨⟩ rfl
    rw [isWhitespace_dot] at hc
    cases hc
  · rw [List.getLast?_cons_of_ne_nil hend, trimEnd, List.getLast?_reverse]
    exact head?_dropWhile

/-- **White space is left before an extension** if and only if it has a gap. -/
theorem head?_normalExtension_iff {e : String} :
    (∀ c ∈ (normalExtension e).toList.head?, isWhitespace c = false) ↔ ¬ HasGap e.toList := by
  have hstripped : Stripped e.toList (normalExtension e).toList := normalExtension_eq_iff.mp rfl
  constructor
  · intro h hgap
    obtain ⟨c, x, hx, hc⟩ := hgap.exists_stripped
    rw [← hstripped.eq, hx.eq] at h
    rw [h c rfl] at hc
    cases hc
  · intro h c hc
    by_contra hwhite
    rw [Bool.not_eq_false] at hwhite
    rcases hx : (normalExtension e).toList with _ | ⟨d, x⟩
    · rw [hx] at hc
      cases hc
    · rw [hx] at hc hstripped
      obtain rfl : d = c := Option.some.inj hc
      exact h (hstripped.hasGap hwhite)

/-! ### All extensions -/

/-- **A normal extension:** there is something of it, no dot before it and no white space around it.
-/
structure IsNormalExtension (x : String) : Prop where
  ne_empty : x ≠ ""
  no_dot : ∀ c ∈ x.toList.head?, c ≠ '.'
  no_white_before : ∀ c ∈ x.toList.head?, isWhitespace c = false
  no_white_after : ∀ c ∈ x.toList.getLast?, isWhitespace c = false

/-- A normal extension is its own normal form, and nothing else is but the empty one. -/
theorem normalExtension_eq_self_iff {x : String} (hne : x ≠ "") :
    normalExtension x = x ↔ IsNormalExtension x := by
  rw [normalExtension_eq_iff]
  constructor
  · rintro ⟨g, ds, t, hx, h⟩
    -- nothing can be taken off
    have hlength := congrArg List.length hx
    simp only [List.length_append] at hlength
    obtain rfl : ds = [] := List.eq_nil_of_length_eq_zero (by omega)
    exact ⟨hne, h.no_dot, h.first, h.last⟩
  · intro h
    exact ⟨[], [], [], by simp, by simp, by simp, by simp, h.no_white_before, h.no_dot,
      h.no_white_after⟩

theorem mem_normalExtensions {es : List String} {x : String} :
    x ∈ normalExtensions es ↔ (∃ e ∈ es, normalExtension e = x) ∧ x ≠ "" := by
  simp [normalExtensions]

theorem normalExtensions_eq_self_iff {es : List String} :
    normalExtensions es = es ↔ ∀ e ∈ es, normalExtension e = e ∧ e ≠ "" := by
  have hself : es.map normalExtension = es ↔ ∀ e ∈ es, normalExtension e = e := by
    conv_lhs => rhs; rw [← List.map_id es]
    exact List.map_inj_left
  constructor
  · intro h e he
    have hlength : (normalExtensions es).length = (es.map normalExtension).length := by
      rw [h, List.length_map]
    have hmap : normalExtensions es = es.map normalExtension :=
      List.filter_sublist.eq_of_length hlength
    refine ⟨hself.mp (hmap.symm.trans h) e he, ?_⟩
    exact (mem_normalExtensions.mp (h.symm ▸ he)).2
  · intro h
    rw [normalExtensions, hself.mpr fun e he => (h e he).1, List.filter_eq_self]
    exact fun e he => by simp [(h e he).2]

/-- The settings with other extensions. -/
def Settings.withExtensions (s : Settings) (es : List String) : Settings :=
  s.apply { extensions := some es }

@[simp]
theorem Settings.extensions_withExtensions (s : Settings) (es : List String) :
    (s.withExtensions es).extensions = normalExtensions es := rfl

/-- **The extensions that settings keep** are what is left of those given, if anything is. Each
starts with no dot and ends in no white space. They are normal, and setting them once more changes
nothing, if and only if no extension given has white space between the dots before it and the rest
of it. -/
theorem extensions_normal_iff (s : Settings) (es : List String) :
    let kept := (s.withExtensions es).extensions
    (∀ x, x ∈ kept ↔ (∃ e ∈ es, Stripped e.toList x.toList) ∧ x ≠ "") ∧
    (∀ x ∈ kept, x ≠ "" ∧ (∀ c ∈ x.toList.head?, c ≠ '.') ∧
      ∀ c ∈ x.toList.getLast?, isWhitespace c = false) ∧
    ((∀ x ∈ kept, IsNormalExtension x) ↔ ∀ e ∈ es, ¬ HasGap e.toList) ∧
    (((s.withExtensions es).withExtensions kept).extensions = kept ↔
      ∀ e ∈ es, ¬ HasGap e.toList) := by
  intro kept
  have hmem : ∀ x, x ∈ kept ↔ (∃ e ∈ es, Stripped e.toList x.toList) ∧ x ≠ "" := by
    intro x
    simp only [← normalExtension_eq_iff]
    exact mem_normalExtensions
  have hleft : ∀ x ∈ kept, x ≠ "" ∧ (∀ c ∈ x.toList.head?, c ≠ '.') ∧
      ∀ c ∈ x.toList.getLast?, isWhitespace c = false := by
    intro x hx
    obtain ⟨⟨e, -, _, _, _, -, h⟩, hne⟩ := (hmem x).mp hx
    exact ⟨hne, h.no_dot, h.last⟩
  have hnormal : (∀ x ∈ kept, IsNormalExtension x) ↔ ∀ e ∈ es, ¬ HasGap e.toList := by
    constructor
    · intro h e he hgap
      have hkept : normalExtension e ∈ kept := by
        refine mem_normalExtensions.mpr ⟨⟨e, he, rfl⟩, fun hempty => ?_⟩
        -- with a gap there is white space left at least
        refine head?_normalExtension_iff.mp (fun c hc => ?_) hgap
        rw [hempty] at hc
        cases hc
      exact head?_normalExtension_iff.mp (h _ hkept).no_white_before hgap
    · intro h x hx
      obtain ⟨⟨e, he, rfl⟩, -⟩ := mem_normalExtensions.mp hx
      obtain ⟨hne, hdot, hlast⟩ := hleft _ hx
      exact ⟨hne, hdot, head?_normalExtension_iff.mpr (h e he), hlast⟩
  refine ⟨hmem, hleft, hnormal, ?_⟩
  rw [← hnormal, Settings.extensions_withExtensions, normalExtensions_eq_self_iff]
  refine forall₂_congr fun x hx => ?_
  have hne := (hleft x hx).1
  rw [normalExtension_eq_self_iff hne, and_iff_left hne]

/-- With white space behind its dot an extension is kept with white space before it, and setting it
once more takes that off. -/
theorem not_normal_of_gap :
    ¬ ∀ (s : Settings) (es : List String),
      let kept := (s.withExtensions es).extensions
      (∀ x ∈ kept, IsNormalExtension x) ∧
        ((s.withExtensions es).withExtensions kept).extensions = kept := by
  intro h
  have hkept : normalExtensions [". x"] = [" x"] := by decide +kernel
  have hagain : normalExtensions [" x"] = ["x"] := by decide +kernel
  have hsame := (h {} [". x"]).2
  simp only [Settings.extensions_withExtensions, hkept, hagain] at hsame
  exact absurd hsame (by decide)

end CrossCheck
