import CrossCheck.Toml.Document
import Mathlib.Data.List.Nodup
import Mathlib.Data.Option.Basic
import Mathlib.Tactic.SplitIfs

/-! # Keys of documents

No table of a document has a key twice, however deep it lies (`keysOnce_of_parse?`): each statement
leaves the tables like that. An entry is added under a new key, a table is opened in place of one
that is there, and the tables on the way keep their keys (`KeysOnce.reach`). -/

namespace CrossCheck.Toml

/-- **Each table has each of its keys once,** the value itself if it is one, and all within it. -/
inductive Value.KeysOnce : Value → Prop
  | text (s : String) : KeysOnce (.text s)
  | boolean (b : Bool) : KeysOnce (.boolean b)
  | number (written : List Char) : KeysOnce (.number written)
  | time (written : List Char) : KeysOnce (.time written)
  | array {grown : Bool} {items : List Value} :
    (∀ v ∈ items, KeysOnce v) → KeysOnce (.array grown items)
  | table {origin : Origin} {es : Entries} :
    (es.map Prod.fst).Nodup → (∀ e ∈ es, KeysOnce e.2) → KeysOnce (.table origin es)

/-- The entries have different keys, and so have those of all tables within them. -/
structure Entries.KeysOnce (es : Entries) : Prop where
  nodup : (es.map Prod.fst).Nodup
  values : ∀ e ∈ es, e.2.KeysOnce

namespace Value

theorem keysOnce_array {grown : Bool} {items : List Value} :
    (array grown items).KeysOnce ↔ ∀ v ∈ items, v.KeysOnce := by
  constructor
  · intro h
    cases h with
    | array hitems => exact hitems
  · exact .array

theorem keysOnce_table {origin : Origin} {es : Entries} :
    (table origin es).KeysOnce ↔ es.KeysOnce := by
  constructor
  · intro h
    cases h with
    | table hnodup hvalues => exact ⟨hnodup, hvalues⟩
  · exact fun h => .table h.nodup h.values

end Value

namespace Entries

open Value (keysOnce_array keysOnce_table)

variable {es es' : Entries} {key : String} {v : Value} {origin : Origin}

/-! ### One table -/

theorem keysOnce_nil : KeysOnce [] where
  nodup := List.nodup_nil
  values e he := by cases he

theorem KeysOnce.of_lookup (h : es.KeysOnce) (hv : es.lookup key = some v) : v.KeysOnce := by
  obtain ⟨before, after, rfl, -⟩ := List.lookup_eq_some_iff.mp hv
  exact h.values (key, v) (by simp)

theorem KeysOnce.concat (h : es.KeysOnce) (hkey : es.lookup key = none) (hv : v.KeysOnce) :
    KeysOnce (es ++ [(key, v)]) where
  nodup := by
    rw [List.map_append, List.map_singleton, ← List.concat_eq_append, List.nodup_concat]
    refine ⟨fun hmem => ?_, h.nodup⟩
    obtain ⟨e, he, rfl⟩ := List.mem_map.mp hmem
    simpa using List.lookup_eq_none_iff.mp hkey e he
  values e he := by
    rcases List.mem_append.mp he with he | he
    · exact h.values e he
    · rw [List.mem_singleton.mp he]
      exact hv

theorem map_fst_replace (es : Entries) (key : String) (v : Value) :
    (es.replace key v).map Prod.fst = es.map Prod.fst := by
  rw [replace, List.map_map]
  refine List.map_congr_left fun e _ => ?_
  by_cases hkey : e.1 = key <;> simp [hkey]

theorem KeysOnce.replace (h : es.KeysOnce) (key : String) (hv : v.KeysOnce) :
    (es.replace key v).KeysOnce where
  nodup := by rw [map_fst_replace]; exact h.nodup
  values e he := by
    obtain ⟨d, hd, rfl⟩ := List.mem_map.mp he
    split_ifs
    · exact hv
    · exact h.values d hd

/-! ### Tables within tables -/

/-- **The tables on the way** to one that is changed. -/
theorem KeysOnce.reach {dotted : Bool} {change : Origin → Entries → Option Entries}
    (hchange : ∀ origin es es', es.KeysOnce → change origin es = some es' → es'.KeysOnce)
    (path : List String) (h : es.KeysOnce)
    (hreach : es.reach dotted change path origin = some es') : es'.KeysOnce := by
  induction path generalizing origin es es' with
  | nil => exact hchange origin es es' h hreach
  | cons key path ih =>
    rw [Entries.reach] at hreach
    -- The next table is a new one, one that is there, or the last of an array of tables.
    split at hreach
    · next hkey =>
      obtain ⟨inner, hinner, hes⟩ := Option.bind_eq_some_iff.mp hreach
      cases hes
      exact h.concat hkey (keysOnce_table.mpr (ih keysOnce_nil hinner))
    · next o inner hkey =>
      have hinner := keysOnce_table.mp (h.of_lookup hkey)
      obtain ⟨_, -, hreach⟩ := Option.bind_eq_some_iff.mp hreach
      obtain ⟨inner', hinner', hes⟩ := Option.bind_eq_some_iff.mp hreach
      cases hes
      exact h.replace key (keysOnce_table.mpr (ih hinner hinner'))
    · next items hkey =>
      have hitems := keysOnce_array.mp (h.of_lookup hkey)
      split at hreach
      · next o inner hlast =>
        have hinner := keysOnce_table.mp (hitems _ (List.mem_of_getLast? hlast))
        obtain ⟨inner', hinner', hes⟩ := Option.bind_eq_some_iff.mp hreach
        cases hes
        refine h.replace key (keysOnce_array.mpr (List.forall_mem_append.mpr ⟨?_, ?_⟩))
        · exact fun w hw => hitems w (List.dropLast_subset items hw)
        · exact List.forall_mem_singleton.mpr (keysOnce_table.mpr (ih hinner hinner'))
      · cases hreach
    · cases hreach

theorem KeysOnce.reachLast {dotted : Bool} {change : String → Origin → Entries → Option Entries}
    (hchange : ∀ key origin es es', es.KeysOnce → change key origin es = some es' → es'.KeysOnce)
    {path : List String} (h : es.KeysOnce)
    (hreach : es.reachLast dotted path origin change = some es') : es'.KeysOnce := by
  obtain ⟨key, -, hreach⟩ := Option.bind_eq_some_iff.mp hreach
  exact h.reach (hchange key) _ hreach

/-! ### The three statements -/

theorem KeysOnce.insert {path : List String} (h : es.KeysOnce) (hv : v.KeysOnce)
    (hinsert : es.insert path v origin = some es') : es'.KeysOnce := by
  refine h.reachLast (fun key origin es es' h hchange => ?_) hinsert
  obtain ⟨_, -, hchange⟩ := Option.bind_eq_some_iff.mp hchange
  obtain ⟨_, hkey, hes⟩ := Option.bind_eq_some_iff.mp hchange
  cases hes
  have hnone := (Option.guard_eq_some' _).mp hkey
  exact h.concat (Option.isNone_iff_eq_none.mp hnone) hv

theorem KeysOnce.openTable {path : List String} (h : es.KeysOnce)
    (hopen : es.openTable path = some es') : es'.KeysOnce := by
  refine h.reachLast (fun key origin es es' h hchange => ?_) hopen
  split at hchange
  · next hkey =>
    cases hchange
    exact h.concat hkey (keysOnce_table.mpr keysOnce_nil)
  · next inner hkey =>
    cases hchange
    exact h.replace key (keysOnce_table.mpr (keysOnce_table.mp (h.of_lookup hkey)))
  · cases hchange

theorem KeysOnce.openElement {path : List String} (h : es.KeysOnce)
    (hopen : es.openElement path = some es') : es'.KeysOnce := by
  have hempty : ∀ w ∈ [Value.table .header []], w.KeysOnce :=
    List.forall_mem_singleton.mpr (keysOnce_table.mpr keysOnce_nil)
  refine h.reachLast (fun key origin es es' h hchange => ?_) hopen
  split at hchange
  · next hkey =>
    cases hchange
    exact h.concat hkey (keysOnce_array.mpr hempty)
  · next items hkey =>
    cases hchange
    have hitems := keysOnce_array.mp (h.of_lookup hkey)
    exact h.replace key (keysOnce_array.mpr (List.forall_mem_append.mpr ⟨hitems, hempty⟩))
  · cases hchange

end Entries

/-! ### Values as they are read -/

theorem keysOnce_of_scalar? {s : List Char} {v : Value} {r : Rest s.length}
    (h : scalar? s = some (v, r)) : v.KeysOnce := by
  unfold scalar? at h
  dsimp only at h
  split_ifs at h
  · obtain ⟨w, hw, hv⟩ := Option.map_eq_some_iff.mp h
    cases hv
    unfold Scalar.value? at hw
    split_ifs at hw <;> cases hw <;> constructor

theorem length_lt_of_skipGap_eq_cons {s r : List Char} {c : Char} (h : skipGap s = c :: r) :
    r.length < s.length := by
  have hgap := length_skipGap s
  rw [h] at hgap
  exact hgap

-- By the length of what is left to read, as the readers go: the value of an item may start where
-- the item does, hence the second number.
mutual

theorem keysOnce_of_value? {n levels : Nat} {s : List Char} {h : s.length ≤ n} {v : Value}
    {r : Rest n} (hv : value? levels s h = some (v, r)) : v.KeysOnce := by
  match s with
  | [] => simp [value?.eq_def] at hv
  | c :: s =>
    rw [value?.eq_def] at hv
    dsimp only at hv
    split_ifs at hv
    · match levels with
      | 0 => cases hv
      | levels + 1 =>
        obtain ⟨x, hx, hxv⟩ := Option.map_eq_some_iff.mp hv
        cases hxv
        exact Value.keysOnce_array.mpr (keysOnce_of_items? (by simp) hx)
    · match levels with
      | 0 => cases hv
      | levels + 1 =>
        obtain ⟨x, hx, hxv⟩ := Option.map_eq_some_iff.mp hv
        cases hxv
        exact Value.keysOnce_table.mpr (keysOnce_of_fields? Entries.keysOnce_nil hx)
    · obtain ⟨x, -, hxv⟩ := Option.map_eq_some_iff.mp hv
      cases hxv
      exact .text _
    · obtain ⟨x, hx, hxv⟩ := Option.map_eq_some_iff.mp hv
      cases hxv
      exact keysOnce_of_scalar? hx
  termination_by (s.length, 0)

theorem keysOnce_of_items? {n levels : Nat} {read : List Value} {s : List Char} {h : s.length < n}
    {items : List Value} {r : Rest n} (hread : ∀ v ∈ read, v.KeysOnce)
    (hitems : items? levels read s h = some (items, r)) : ∀ v ∈ items, v.KeysOnce := by
  have hgap := length_skipGap s
  rw [items?.eq_def] at hitems
  dsimp only at hitems
  split at hitems
  · cases hitems
    simpa using hread
  · split at hitems
    · cases hitems
    · next v r₁ hr₁ hv =>
      have hread' : ∀ w ∈ v :: read, w.KeysOnce :=
        List.forall_mem_cons.mpr ⟨keysOnce_of_value? hv, hread⟩
      split at hitems
      · next r₂ hr₂ =>
        have hlt : r₂.length < r₁.length := length_lt_of_skipGap_eq_cons hr₂
        exact keysOnce_of_items? hread' hitems
      · cases hitems
        exact fun w hw => hread' w (List.mem_reverse.mp hw)
      · cases hitems
  termination_by (s.length, 1)
  decreasing_by all_goals simp only [Prod.lex_def]; omega

theorem keysOnce_of_fields? {n levels : Nat} {read : Entries} {s : List Char} {h : s.length < n}
    {es : Entries} {r : Rest n} (hread : read.KeysOnce)
    (hfields : fields? levels read s h = some (es, r)) : es.KeysOnce := by
  have hgap := length_skipGap s
  rw [fields?.eq_def] at hfields
  dsimp only at hfields
  split at hfields
  · cases hfields
    exact hread
  · split at hfields
    · cases hfields
    · next path r₁ hr₁ hpath =>
      split at hfields
      · cases hfields
      · next r₂ hr₂ hequals =>
        split at hfields
        · cases hfields
        · next v r₃ hr₃ hv =>
          split at hfields
          · cases hfields
          · next read' hinsert =>
            have hread' := hread.insert (keysOnce_of_value? hv) hinsert
            split at hfields
            · next r₄ hr₄ =>
              have hlt : r₄.length < r₃.length := length_lt_of_skipGap_eq_cons hr₄
              exact keysOnce_of_fields? hread' hfields
            · cases hfields
              exact hread'
            · cases hfields
  termination_by (s.length, 1)
  decreasing_by all_goals simp only [Prod.lex_def]; omega

end

/-! ### Documents -/

/-- The value of a statement, if it has one, gives each key once. -/
def Statement.KeysOnce : Statement → Prop
  | .entry _ v => v.KeysOnce
  | _ => True

theorem keysOnce_of_statement? {s : List Char} {st : Statement} {r : Rest s.length}
    (h : statement? s = some (st, r)) : st.KeysOnce := by
  unfold statement? at h
  split at h
  · split at h
    · obtain ⟨⟨path, r₃, _⟩, -, h⟩ := Option.bind_eq_some_iff.mp h
      obtain ⟨⟨r₄, _⟩, -, h⟩ := Option.bind_eq_some_iff.mp h
      obtain ⟨⟨r₅, _⟩, -, h⟩ := Option.bind_eq_some_iff.mp h
      obtain ⟨⟨r₆, _⟩, -, h⟩ := Option.bind_eq_some_iff.mp h
      cases h
      trivial
    · obtain ⟨⟨path, r₂, _⟩, -, h⟩ := Option.bind_eq_some_iff.mp h
      obtain ⟨⟨r₃, _⟩, -, h⟩ := Option.bind_eq_some_iff.mp h
      obtain ⟨⟨r₄, _⟩, -, h⟩ := Option.bind_eq_some_iff.mp h
      cases h
      trivial
  · obtain ⟨⟨path, r₁, _⟩, -, h⟩ := Option.bind_eq_some_iff.mp h
    obtain ⟨⟨r₂, _⟩, -, h⟩ := Option.bind_eq_some_iff.mp h
    obtain ⟨⟨v, r₃, _⟩, hv, h⟩ := Option.bind_eq_some_iff.mp h
    obtain ⟨⟨r₄, _⟩, -, h⟩ := Option.bind_eq_some_iff.mp h
    cases h
    exact keysOnce_of_value? hv

theorem keysOnce_of_statementsFrom? {read sts : List Statement} {s : List Char}
    (hread : ∀ st ∈ read, st.KeysOnce) (h : statementsFrom? read s = some sts) :
    ∀ st ∈ sts, st.KeysOnce := by
  fun_induction statementsFrom? read s with
  | case1 read s _ =>
    cases h
    exact fun st hst => hread st (List.mem_reverse.mp hst)
  | case2 read s _ _ => cases h
  | case3 read s _ st r _ hst ih =>
    exact ih (List.forall_mem_cons.mpr ⟨keysOnce_of_statement? hst, hread⟩) h

namespace Document

/-- **One statement** added to a document. -/
theorem keysOnce_of_add? {x y : List String × Entries} {st : Statement} (hx : x.2.KeysOnce)
    (hst : st.KeysOnce) (h : add? x st = some y) : y.2.KeysOnce := by
  obtain ⟨here, es⟩ := x
  cases st with
  | header path =>
    obtain ⟨es', hes', rfl⟩ := Option.map_eq_some_iff.mp h
    exact hx.openTable hes'
  | element path =>
    obtain ⟨es', hes', rfl⟩ := Option.map_eq_some_iff.mp h
    exact hx.openElement hes'
  | entry path v =>
    obtain ⟨es', hes', rfl⟩ := Option.map_eq_some_iff.mp h
    exact hx.reach (fun _ _ _ hes hinsert => hes.insert hst hinsert) here hes'

theorem keysOnce_of_foldlM_add? {sts : List Statement} {x y : List String × Entries}
    (hx : x.2.KeysOnce) (hsts : ∀ st ∈ sts, st.KeysOnce) (h : sts.foldlM add? x = some y) :
    y.2.KeysOnce := by
  induction sts generalizing x with
  | nil =>
    cases h
    exact hx
  | cons st sts ih =>
    obtain ⟨hst, hsts⟩ := List.forall_mem_cons.mp hsts
    rw [List.foldlM_cons] at h
    obtain ⟨z, hz, h⟩ := Option.bind_eq_some_iff.mp h
    exact ih (keysOnce_of_add? hx hst hz) hsts h

/-- **A document gives each key of each table once.** -/
theorem keysOnce_of_parse? {text : String} {es : Entries} (h : parse? text = some es) :
    es.KeysOnce := by
  obtain ⟨sts, hsts, h⟩ := Option.bind_eq_some_iff.mp h
  obtain ⟨x, hx, rfl⟩ := Option.map_eq_some_iff.mp h
  refine keysOnce_of_foldlM_add? Entries.keysOnce_nil ?_ hx
  exact keysOnce_of_statementsFrom? (fun st hst => absurd hst List.not_mem_nil) hsts

end Document

end CrossCheck.Toml
