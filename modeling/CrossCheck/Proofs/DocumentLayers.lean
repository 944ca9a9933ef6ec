import CrossCheck.Proofs.DocumentKeys
import CrossCheck.Proofs.Sequences
import CrossCheck.Proofs.Layering

/-! # What documents say

A document is a layer unless there is a mistake in one of its entries (`ofEntries?_eq_none_iff`): a
key that means nothing, at the top or in a verifier's table, or a value of the wrong shape. Where
keys are not given twice, the layer then holds what is under each key and nothing else
(`says_of_ofEntries?`).

Both come from the steps by which the entries are added one by one: whether an entry can be added is
a matter of that entry alone (`foldlM_eq_none_iff`), and it changes the field of its key
(`fills_of_foldlM`). -/

namespace CrossCheck

open Toml

/-! ### Entries one by one -/

section
variable {σ α : Type} {step : σ → String × Value → Option σ}

/-- **A field holds what is given under its key,** and without that key nothing. -/
structure Toml.Entries.Fills (es : Entries) (key : String) (reads : Value → α → Prop)
    (nothing x : α) : Prop where
  given : ∀ v, (key, v) ∈ es → reads v x
  absent : key ∉ es.map Prod.fst → x = nothing

/-- **Entries with different keys fill the fields of their keys,** if each changes that field only.
-/
theorem fills_of_foldlM (get : σ → α) {es : Entries} {key : String} {reads : Value → α → Prop}
    (hnodup : (es.map Prod.fst).Nodup)
    (hkey : ∀ v, (key, v) ∈ es → ∀ s s', step s (key, v) = some s' → reads v (get s'))
    (hother : ∀ e s s', e.1 ≠ key → step s e = some s' → get s' = get s) {s s' : σ}
    (h : es.foldlM step s = some s') : es.Fills key reads (get s) (get s') := by
  induction es generalizing s with
  | nil =>
    cases h
    exact ⟨fun v hv => absurd hv List.not_mem_nil, fun _ => rfl⟩
  | cons e es ih =>
    obtain ⟨hnew, hnodup⟩ := List.nodup_cons.mp hnodup
    rw [List.foldlM_cons] at h
    obtain ⟨t, ht, h⟩ := Option.bind_eq_some_iff.mp h
    -- If the first entry has the key, no entry after it does, and the field keeps what it gives.
    have hrest := ih hnodup (fun v hv => hkey v (List.mem_cons_of_mem e hv)) h
    refine ⟨fun v hv => ?_, fun habsent => ?_⟩
    · rcases List.mem_cons.mp hv with rfl | hv
      · rw [hrest.absent hnew]
        exact hkey v List.mem_cons_self s t ht
      · exact hrest.given v hv
    · obtain ⟨hne, habsent⟩ := not_or.mp (mt List.mem_cons.mpr habsent)
      rw [hrest.absent habsent]
      exact hother e s t (Ne.symm hne) ht

end

/-! ### Strings, lists of strings and modes -/

theorem eq_none_iff_not_exists {α : Type} {o : Option α} {reads : α → Prop}
    (h : ∀ a, o = some a ↔ reads a) : o = none ↔ ¬ ∃ a, reads a := by
  simp only [← h, ← Option.isSome_iff_exists, Option.not_isSome_iff_eq_none]

/-- The name of a mode in documents. -/
def ExtractMode.name : ExtractMode → String
  | .tokens => "tokens"
  | .labelled => "labelled"

theorem ExtractMode.ofName?_eq_some_iff {name : String} {m : ExtractMode} :
    ofName? name = some m ↔ name = m.name := by
  unfold ofName?
  split_ifs with htokens hlabelled
  · subst htokens
    cases m <;> simp [ExtractMode.name]
  · subst hlabelled
    cases m <;> simp [ExtractMode.name]
  · cases m <;> simp [ExtractMode.name, htokens, hlabelled]

/-- The value is the list of the strings. -/
def Toml.Value.IsTexts (v : Value) (ts : List String) : Prop :=
  ∃ grown, v = .array grown (ts.map .text)

/-- **A value gives a mode** by its name, or as a table with one entry of that name with nothing in
it. -/
inductive Toml.Value.IsMode : Value → ExtractMode → Prop
  | name (m : ExtractMode) : IsMode (.text m.name) m
  | table (m : ExtractMode) {origin inner : Origin} :
    IsMode (.table origin [(m.name, .table inner [])]) m
  | array (m : ExtractMode) {origin : Origin} {grown : Bool} :
    IsMode (.table origin [(m.name, .array grown [])]) m

namespace Layer

theorem text?_eq_some_iff {v : Value} {s : String} : text? v = some s ↔ v = .text s := by
  cases v <;> simp [text?]

theorem texts?_eq_some_iff {v : Value} {ts : List String} :
    texts? v = some ts ↔ v.IsTexts ts := by
  have hitems : ∀ items : List Value, items.mapM text? = some ts ↔ items = ts.map .text := by
    intro items
    induction items generalizing ts with
    | nil => cases ts <;> simp
    | cons v items ih =>
      simp only [List.mapM_cons, Option.bind_eq_bind, Option.bind_eq_some_iff, Option.pure_def,
        Option.some.injEq, text?_eq_some_iff, ih]
      constructor
      · rintro ⟨t, rfl, ts, rfl, rfl⟩
        rfl
      · intro h
        obtain ⟨t, ts, rfl, ht, hts⟩ := List.map_eq_cons_iff.mp h.symm
        exact ⟨t, ht.symm, ts, hts.symm, rfl⟩
  cases v <;> simp [texts?, Value.IsTexts, hitems]

theorem holdsNothing_iff {v : Value} :
    holdsNothing v = true ↔ (∃ origin, v = .table origin []) ∨ ∃ grown, v = .array grown [] := by
  cases v <;> simp [holdsNothing]

theorem mode?_eq_some_iff {v : Value} {m : ExtractMode} : mode? v = some m ↔ v.IsMode m := by
  unfold mode?
  split
  · rw [ExtractMode.ofName?_eq_some_iff]
    constructor
    · rintro rfl
      exact .name m
    · intro h
      cases h
      rfl
  · next origin name v =>
    rw [Option.ite_none_right_eq_some, holdsNothing_iff, ExtractMode.ofName?_eq_some_iff]
    constructor
    · rintro ⟨⟨inner, rfl⟩ | ⟨grown, rfl⟩, rfl⟩
      · exact .table m
      · exact .array m
    · intro h
      cases h with
      | table m => exact ⟨Or.inl ⟨_, rfl⟩, rfl⟩
      | array m => exact ⟨Or.inr ⟨_, rfl⟩, rfl⟩
  · next hname htable =>
    simp only [reduceCtorEq, false_iff]
    intro h
    cases h with
    | name m => exact hname _ rfl
    | table m => exact htable _ _ _ rfl
    | array m => exact htable _ _ _ rfl

end Layer

/-! ### Verifiers -/

theorem Role.name_injective : Function.Injective Role.name := by
  intro role other h
  cases role <;> cases other <;> simp [Role.name] at h ⊢

theorem Role.name_ne_extensions (role : Role) : role.name ≠ "extensions" := by
  cases role <;> decide

theorem Role.name_ne_extract (role : Role) : role.name ≠ "extract" := by
  cases role <;> decide

/-- The keys of a verifier's table. -/
def VerifierLayer.keys : List String := ["name", "command"]

/-- **What a verifier's table says.** -/
structure VerifierLayer.Says (l : VerifierLayer) (es : Entries) : Prop where
  name : es.Fills "name" (fun v x => ∃ s, v = .text s ∧ x = some s) none l.name
  command : es.Fills "command" (fun v x => ∃ s, v = .text s ∧ x = some s) none l.command

/-- **A value describes a verifier** as a table, or as an array that starts with its name and its
command. -/
inductive Toml.Value.IsVerifier : Value → VerifierLayer → Prop
  | table {l : VerifierLayer} {origin : Origin} {es : Entries} :
    l.Says es → IsVerifier (.table origin es) l
  | array {grown : Bool} {name command : String} {rest : List Value} :
    IsVerifier (.array grown (.text name :: .text command :: rest)) { name, command }

/-- A table of strings. -/
def Toml.Value.IsTable (v : Value) : Prop :=
  ∃ origin es, v = .table origin es ∧ ∀ e ∈ es, ∃ s, e.2 = .text s

/-- An array that starts with two strings. -/
def Toml.Value.IsPair (v : Value) : Prop :=
  ∃ grown name command rest, v = .array grown (.text name :: .text command :: rest)

namespace Layer

theorem addToVerifier?_eq (l : VerifierLayer) (e : String × Value) :
    addToVerifier? l e =
      if e.1 = "name" then (text? e.2).map fun s => { l with name := some s }
      else if e.1 = "command" then (text? e.2).map fun s => { l with command := some s }
      else none := by
  unfold addToVerifier?
  cases text? e.2 <;> rfl

theorem addToVerifier?_eq_some_iff {l l' : VerifierLayer} {e : String × Value} :
    addToVerifier? l e = some l' ↔ ∃ s, e.2 = .text s ∧
      (e.1 = "name" ∧ l' = { l with name := some s } ∨
        e.1 = "command" ∧ l' = { l with command := some s }) := by
  rw [addToVerifier?_eq]
  split_ifs with hname hcommand
  · simp [hname, text?_eq_some_iff, @eq_comm _ l']
  · simp [hcommand, text?_eq_some_iff, @eq_comm _ l']
  · simp [hname, hcommand]

theorem addToVerifier?_eq_none_iff (l : VerifierLayer) (e : String × Value) :
    addToVerifier? l e = none ↔ e.1 ∉ VerifierLayer.keys ∨ ¬ ∃ s, e.2 = .text s := by
  rw [addToVerifier?_eq]
  split_ifs with hname hcommand
  · rw [Option.map_eq_none_iff, eq_none_iff_not_exists fun _ => text?_eq_some_iff]
    simp [VerifierLayer.keys, hname]
  · rw [Option.map_eq_none_iff, eq_none_iff_not_exists fun _ => text?_eq_some_iff]
    simp [VerifierLayer.keys, hcommand]
  · simp [VerifierLayer.keys, hname, hcommand]

theorem verifier?_eq_none_iff {v : Value} :
    verifier? v = none ↔
      (∃ origin es, v = .table origin es ∧ ∃ e ∈ es, e.1 ∉ VerifierLayer.keys) ∨
        ¬ v.IsTable ∧ ¬ v.IsPair := by
  have htable : ∀ es : Entries, es.foldlM addToVerifier? {} = none ↔
      (∃ e ∈ es, e.1 ∉ VerifierLayer.keys) ∨ ¬ ∀ e ∈ es, ∃ s, e.2 = .text s := by
    intro es
    simp only [foldlM_eq_none_iff addToVerifier?_eq_none_iff, and_or_left, exists_or, not_forall]
    simp
  unfold verifier?
  split
  · next origin es => simp [htable, Value.IsTable, Value.IsPair]
  · simp [Value.IsPair]
  · next hnotable hnopair =>
    refine iff_of_true rfl (Or.inr ⟨?_, ?_⟩)
    · rintro ⟨origin, es, hv, -⟩
      exact hnotable origin es hv
    · rintro ⟨grown, name, command, rest, hv⟩
      exact hnopair grown name command rest hv

theorem says_of_verifier? {v : Value} {l : VerifierLayer} (hv : v.KeysOnce)
    (h : verifier? v = some l) : v.IsVerifier l := by
  unfold verifier? at h
  split at h
  · next origin es =>
    have hnodup := (Value.keysOnce_table.mp hv).nodup
    refine .table ⟨?_, ?_⟩
    · refine fills_of_foldlM VerifierLayer.name hnodup (fun v _ s s' hs => ?_)
        (fun e s s' hne hs => ?_) h
      · obtain ⟨t, ht, ⟨-, rfl⟩ | ⟨hkey, -⟩⟩ := addToVerifier?_eq_some_iff.mp hs
        · exact ⟨t, ht, rfl⟩
        · simp at hkey
      · obtain ⟨t, -, ⟨hkey, -⟩ | ⟨-, rfl⟩⟩ := addToVerifier?_eq_some_iff.mp hs
        · exact absurd hkey hne
        · rfl
    · refine fills_of_foldlM VerifierLayer.command hnodup (fun v _ s s' hs => ?_)
        (fun e s s' hne hs => ?_) h
      · obtain ⟨t, ht, ⟨hkey, -⟩ | ⟨-, rfl⟩⟩ := addToVerifier?_eq_some_iff.mp hs
        · simp at hkey
        · exact ⟨t, ht, rfl⟩
      · obtain ⟨t, -, ⟨-, rfl⟩ | ⟨hkey, -⟩⟩ := addToVerifier?_eq_some_iff.mp hs
        · rfl
        · exact absurd hkey hne
  · cases h
    exact .array
  · cases h

/-! ### Documents -/

/-- The keys of a document. -/
def keys : List String := ["reference", "candidate", "extensions", "extract"]

theorem name_mem_keys (role : Role) : role.name ∈ keys := by cases role <;> decide

/-- **A mistake** in an entry of a document. -/
inductive Mistake (e : String × Value) : Prop
  | key : e.1 ∉ keys → Mistake e
  | verifierKey (role : Role) {origin : Origin} {es : Entries} {d : String × Value} :
    e = (role.name, .table origin es) → d ∈ es → d.1 ∉ VerifierLayer.keys → Mistake e
  | verifier (role : Role) : e.1 = role.name → ¬ e.2.IsTable → ¬ e.2.IsPair → Mistake e
  | extensions : e.1 = "extensions" → (¬ ∃ ts, e.2.IsTexts ts) → Mistake e
  | extract : e.1 = "extract" → (¬ ∃ m, e.2.IsMode m) → Mistake e

/-- **What a document says:** what is under each of its keys, and nothing else. -/
structure Says (l : Layer) (es : Entries) : Prop where
  verifier : ∀ role, es.Fills role.name Value.IsVerifier {} (l.verifier role)
  extensions : es.Fills "extensions" (fun v x => ∃ ts, v.IsTexts ts ∧ x = some ts) none l.extensions
  extract : es.Fills "extract" (fun v x => ∃ m, v.IsMode m ∧ x = some m) none l.extract

theorem add?_eq (l : Layer) (e : String × Value) :
    add? l e =
      if e.1 = "reference" then (verifier? e.2).map fun v => { l with reference := v }
      else if e.1 = "candidate" then (verifier? e.2).map fun v => { l with candidate := v }
      else if e.1 = "extensions" then (texts? e.2).map fun ts => { l with extensions := some ts }
      else if e.1 = "extract" then (mode? e.2).map fun m => { l with extract := some m }
      else none := by
  unfold add?
  cases texts? e.2 <;> cases mode? e.2 <;> rfl

/-- What can be wrong with an entry is a matter of its key: under the name of a role, it is a value
that does not describe a verifier. -/
theorem mistake_iff_of_role {e : String × Value} {role : Role} (he : e.1 = role.name) :
    Mistake e ↔ verifier? e.2 = none := by
  obtain ⟨key, v⟩ := e
  obtain rfl : key = role.name := he
  rw [verifier?_eq_none_iff]
  constructor
  · intro h
    cases h with
    | key h => exact absurd (name_mem_keys role) h
    | verifierKey _ he hd hkey =>
      obtain ⟨-, rfl⟩ := Prod.mk.inj he
      exact Or.inl ⟨_, _, rfl, _, hd, hkey⟩
    | verifier _ _ htable hpair => exact Or.inr ⟨htable, hpair⟩
    | extensions h => exact absurd h role.name_ne_extensions
    | extract h => exact absurd h role.name_ne_extract
  · rintro (⟨origin, es, rfl, d, hd, hkey⟩ | ⟨htable, hpair⟩)
    · exact .verifierKey role rfl hd hkey
    · exact .verifier role rfl htable hpair

theorem mistake_iff_of_extensions {e : String × Value} (he : e.1 = "extensions") :
    Mistake e ↔ texts? e.2 = none := by
  have hrole : ∀ role : Role, e.1 ≠ role.name := fun role => he ▸ role.name_ne_extensions.symm
  rw [eq_none_iff_not_exists fun _ => texts?_eq_some_iff]
  refine ⟨fun h => ?_, .extensions he⟩
  cases h with
  | key h => exact absurd (by rw [he]; decide) h
  | verifierKey role h => exact absurd (by rw [h]) (hrole role)
  | verifier role h => exact absurd h (hrole role)
  | extensions _ h => exact h
  | extract h => simp [he] at h

theorem mistake_iff_of_extract {e : String × Value} (he : e.1 = "extract") :
    Mistake e ↔ mode? e.2 = none := by
  have hrole : ∀ role : Role, e.1 ≠ role.name := fun role => he ▸ role.name_ne_extract.symm
  rw [eq_none_iff_not_exists fun _ => mode?_eq_some_iff]
  refine ⟨fun h => ?_, .extract he⟩
  cases h with
  | key h => exact absurd (by rw [he]; decide) h
  | verifierKey role h => exact absurd (by rw [h]) (hrole role)
  | verifier role h => exact absurd h (hrole role)
  | extensions h => simp [he] at h
  | extract _ h => exact h

theorem add?_eq_none_iff (l : Layer) (e : String × Value) : add? l e = none ↔ Mistake e := by
  rw [add?_eq]
  split_ifs with hreference hcandidate hextensions hextract
  · rw [Option.map_eq_none_iff]
    exact (@mistake_iff_of_role e .reference hreference).symm
  · rw [Option.map_eq_none_iff]
    exact (@mistake_iff_of_role e .candidate hcandidate).symm
  · rw [Option.map_eq_none_iff]
    exact (mistake_iff_of_extensions hextensions).symm
  · rw [Option.map_eq_none_iff]
    exact (mistake_iff_of_extract hextract).symm
  · exact iff_of_true rfl (.key (by simp [keys, hreference, hcandidate, hextensions, hextract]))

/-- **A document is a layer** unless there is a mistake in it. -/
theorem ofEntries?_eq_none_iff {es : Entries} : ofEntries? es = none ↔ ∃ e ∈ es, Mistake e :=
  foldlM_eq_none_iff add?_eq_none_iff es {}

/-! ### What an entry changes -/

/-- The layer with what it says about one verifier replaced. -/
def setVerifier (l : Layer) (v : VerifierLayer) : Role → Layer
  | .reference => { l with reference := v }
  | .candidate => { l with candidate := v }

@[simp]
theorem verifier_setVerifier (l : Layer) (v : VerifierLayer) (role : Role) :
    (l.setVerifier v role).verifier role = v := by cases role <;> rfl

theorem verifier_setVerifier_of_ne (l : Layer) (v : VerifierLayer) {role other : Role}
    (h : other ≠ role) : (l.setVerifier v role).verifier other = l.verifier other := by
  cases role <;> cases other
  · exact absurd rfl h
  · rfl
  · rfl
  · exact absurd rfl h

@[simp]
theorem extensions_setVerifier (l : Layer) (v : VerifierLayer) (role : Role) :
    (l.setVerifier v role).extensions = l.extensions := by cases role <;> rfl

@[simp]
theorem extract_setVerifier (l : Layer) (v : VerifierLayer) (role : Role) :
    (l.setVerifier v role).extract = l.extract := by cases role <;> rfl

theorem add?_cases {l l' : Layer} {e : String × Value} (h : add? l e = some l') :
    (∃ role v, e.1 = role.name ∧ verifier? e.2 = some v ∧ l' = l.setVerifier v role) ∨
      (∃ ts, e.1 = "extensions" ∧ e.2.IsTexts ts ∧ l' = { l with extensions := some ts }) ∨
      ∃ m, e.1 = "extract" ∧ e.2.IsMode m ∧ l' = { l with extract := some m } := by
  rw [add?_eq] at h
  split_ifs at h with hreference hcandidate hextensions hextract
  · obtain ⟨v, hv, rfl⟩ := Option.map_eq_some_iff.mp h
    exact Or.inl ⟨.reference, v, hreference, hv, rfl⟩
  · obtain ⟨v, hv, rfl⟩ := Option.map_eq_some_iff.mp h
    exact Or.inl ⟨.candidate, v, hcandidate, hv, rfl⟩
  · obtain ⟨ts, hts, rfl⟩ := Option.map_eq_some_iff.mp h
    exact Or.inr (Or.inl ⟨ts, hextensions, texts?_eq_some_iff.mp hts, rfl⟩)
  · obtain ⟨m, hm, rfl⟩ := Option.map_eq_some_iff.mp h
    exact Or.inr (Or.inr ⟨m, hextract, mode?_eq_some_iff.mp hm, rfl⟩)

section
variable {es : Entries} {l : Layer} (hes : es.KeysOnce) (h : ofEntries? es = some l)
include hes h

theorem fills_verifier (role : Role) :
    es.Fills role.name Value.IsVerifier {} (l.verifier role) := by
  have hempty : Layer.verifier {} role = {} := by cases role <;> rfl
  rw [← hempty]
  refine fills_of_foldlM (fun l => l.verifier role) hes.nodup (fun v hv s s' hs => ?_)
    (fun e s s' hne hs => ?_) h
  · obtain ⟨other, w, hother, hw, rfl⟩ | ⟨ts, hkey, -⟩ | ⟨m, hkey, -⟩ := add?_cases hs
    · obtain rfl : role = other := Role.name_injective hother
      rw [verifier_setVerifier]
      exact says_of_verifier? (hes.values _ hv) hw
    · exact absurd hkey role.name_ne_extensions
    · exact absurd hkey role.name_ne_extract
  · obtain ⟨other, w, hother, -, rfl⟩ | ⟨ts, -, -, rfl⟩ | ⟨m, -, -, rfl⟩ := add?_cases hs
    · refine verifier_setVerifier_of_ne s w ?_
      rintro rfl
      exact hne hother
    · cases role <;> rfl
    · cases role <;> rfl

theorem fills_extensions :
    es.Fills "extensions" (fun v x => ∃ ts, v.IsTexts ts ∧ x = some ts) none l.extensions := by
  refine fills_of_foldlM Layer.extensions hes.nodup (fun v _ s s' hs => ?_)
    (fun e s s' hne hs => ?_) h
  · obtain ⟨role, w, hrole, -⟩ | ⟨ts, -, hts, rfl⟩ | ⟨m, hkey, -⟩ := add?_cases hs
    · exact absurd hrole.symm role.name_ne_extensions
    · exact ⟨ts, hts, rfl⟩
    · simp at hkey
  · obtain ⟨role, w, -, -, rfl⟩ | ⟨ts, hkey, -⟩ | ⟨m, -, -, rfl⟩ := add?_cases hs
    · exact extensions_setVerifier s w role
    · exact absurd hkey hne
    · rfl

theorem fills_extract :
    es.Fills "extract" (fun v x => ∃ m, v.IsMode m ∧ x = some m) none l.extract := by
  refine fills_of_foldlM Layer.extract hes.nodup (fun v _ s s' hs => ?_)
    (fun e s s' hne hs => ?_) h
  · obtain ⟨role, w, hrole, -⟩ | ⟨ts, hkey, -⟩ | ⟨m, -, hm, rfl⟩ := add?_cases hs
    · exact absurd hrole.symm role.name_ne_extract
    · simp at hkey
    · exact ⟨m, hm, rfl⟩
  · obtain ⟨role, w, -, -, rfl⟩ | ⟨ts, -, -, rfl⟩ | ⟨m, hkey, -⟩ := add?_cases hs
    · exact extract_setVerifier s w role
    · rfl
    · exact absurd hkey hne

/-- **The layer of a document says what the document says.** -/
theorem says_of_ofEntries? : l.Says es where
  verifier := fills_verifier hes h
  extensions := fills_extensions hes h
  extract := fills_extract hes h

end

end Layer

end CrossCheck
