import CrossCheck.Proofs.CharacterBytes
import Mathlib.Data.Char
import Mathlib.Tactic.NormNum

/-! # Text with replacements

Decoding bytes that are not all UTF-8 leaves U+FFFD for each piece that is no character. The pieces
are told by the characters alone (`Gap`): a piece is a byte that begins no character, or the bytes
of a character that has begun, up to the first that cannot belong to it. Cut into characters and
such pieces (`Replaced`), bytes have one text, and that is what the decoder gives (`replaced_iff`).

The decoder is between two bytes, and has taken some since the last character or piece
(`Decoder.Holds`). A sequence that has begun stands for the characters that begin with these bytes
(`Sequence.After`), so whether the next byte is taken is whether some character goes on with it. -/

namespace CrossCheck.Text.Utf8

/-- The bytes are the first ones of some character, perhaps all of them. -/
def Begins (p : List UInt8) : Prop :=
  ∃ c : Char, p <+: String.utf8EncodeChar c

theorem begins_of_eq {c : Char} {p : List UInt8} (h : String.utf8EncodeChar c = p) : Begins p :=
  ⟨c, h ▸ List.prefix_refl _⟩

theorem Begins.of_append {p q : List UInt8} (h : Begins (p ++ q)) : Begins p := by
  obtain ⟨c, hc⟩ := h
  exact ⟨c, (List.prefix_append p q).trans hc⟩

/-- **A piece that is no character,** at the start of bytes that go on with `rest`. -/
inductive Gap : List UInt8 → List UInt8 → Prop
  /-- A byte that begins no character. -/
  | byte {b : UInt8} {rest : List UInt8} : ¬ Begins [b] → Gap [b] rest
  /-- A beginning of a character that the next byte does not go on with. -/
  | cut {g rest : List UInt8} : g ≠ [] → Begins g → (∀ c, ¬ String.utf8EncodeChar c <+: g) →
    (∀ b ∈ rest.head?, ¬ Begins (g ++ [b])) → Gap g rest

/-- **The text of bytes,** with U+FFFD for each piece that is no character. -/
inductive Replaced : List UInt8 → List Char → Prop
  | nil : Replaced [] []
  | character {rest : List UInt8} {t : List Char} (c : Char) :
    Replaced rest t → Replaced (String.utf8EncodeChar c ++ rest) (c :: t)
  | gap {g rest : List UInt8} {t : List Char} :
    Gap g rest → Replaced rest t → Replaced (g ++ rest) ('\ufffd' :: t)

/-! ### The bytes of a character -/

/-- The last `n` bytes of a character, none of which is its first. -/
def lowBytes : Nat → Nat → List UInt8
  | 0, _ => []
  | n + 1, v => lowByte (v / 64 ^ n) :: lowBytes n v

/-- The first byte of the character with the given code. -/
def leadCode (v : Nat) : Nat :=
  if v ≤ 0x7f then v
  else if v ≤ 0x7ff then v / 64 % 32 + 192
  else if v ≤ 0xffff then v / 4096 % 16 + 224
  else v / 262144 % 8 + 240

/-- The number of bytes after the first. -/
def further (v : Nat) : Nat :=
  if v ≤ 0x7f then 0 else if v ≤ 0x7ff then 1 else if v ≤ 0xffff then 2 else 3

theorem codeBytes_eq (v : Nat) : codeBytes v = .ofNat (leadCode v) :: lowBytes (further v) v := by
  unfold codeBytes leadCode further
  split_ifs <;> simp [lowBytes]

theorem toNat_ofNat_leadCode (v : Nat) : (UInt8.ofNat (leadCode v)).toNat = leadCode v := by
  refine UInt8.toNat_ofNat_of_lt' (?_ : _ < 256)
  unfold leadCode
  split_ifs <;> omega

theorem toNat_lowByte (v : Nat) : (lowByte v).toNat = v % 64 + 128 :=
  UInt8.toNat_ofNat_of_lt' (show _ < 256 by omega)

@[simp]
theorem length_lowBytes (n v : Nat) : (lowBytes n v).length = n := by
  induction n with
  | zero => rfl
  | succ n ih => rw [lowBytes, List.length_cons, ih]

theorem further_eq_of_leadCode_eq {v w : Nat} (hv : v < 0x110000) (hw : w < 0x110000)
    (h : leadCode v = leadCode w) : further v = further w := by
  unfold leadCode at h
  unfold further
  split_ifs at h ⊢ <;> omega

theorem toNat_lt (c : Char) : c.val.toNat < 0x110000 := by
  have hc : c.val.toNat < 0xd800 ∨ 0xdfff < c.val.toNat ∧ c.val.toNat < 0x110000 := c.valid
  omega

/-- **No character begins another.** -/
theorem length_eq_of_prefix {c d : Char}
    (h : String.utf8EncodeChar c <+: String.utf8EncodeChar d) :
    (String.utf8EncodeChar c).length = (String.utf8EncodeChar d).length := by
  rw [utf8EncodeChar_eq, utf8EncodeChar_eq, codeBytes_eq, codeBytes_eq] at h ⊢
  have hlead : leadCode c.val.toNat = leadCode d.val.toNat := by
    have hbyte := congrArg UInt8.toNat (List.cons_prefix_cons.mp h).1
    rwa [toNat_ofNat_leadCode, toNat_ofNat_leadCode] at hbyte
  have hfurther := further_eq_of_leadCode_eq (toNat_lt c) (toNat_lt d) hlead
  rw [List.length_cons, List.length_cons, length_lowBytes, length_lowBytes, hfurther]

theorem eq_of_utf8EncodeChar_eq {c d : Char}
    (h : String.utf8EncodeChar c = String.utf8EncodeChar d) : c = d := by
  have hc := @ByteArray.utf8DecodeChar?_utf8EncodeChar_append .empty c
  rw [h, ByteArray.utf8DecodeChar?_utf8EncodeChar_append] at hc
  exact (Option.some.inj hc).symm

theorem exists_char_of_isValidChar {v : Nat} (h : v.isValidChar) :
    ∃ c : Char, c.val.toNat = v ∧ Char.ofNat v = c := by
  refine ⟨Char.ofNat v, ?_, rfl⟩
  rw [Char.ofNat, dif_pos h]
  rfl

/-! ### Sequences -/

/-- The codes that a sequence may still come to. -/
def Sequence.Admits (s : Sequence) (v : Nat) : Prop :=
  v / 64 ^ s.due = s.bits ∧ s.low ≤ v / 64 ^ (s.due - 1) % 64 + 0x80 ∧
    v / 64 ^ (s.due - 1) % 64 + 0x80 ≤ s.high

/-- **What a sequence stands for** that has begun with the given bytes: the characters that begin
with them, and their bytes that are still due. -/
structure Sequence.After (s : Sequence) (p : List UInt8) : Prop where
  due : 0 < s.due
  low : 0x80 ≤ s.low
  ordered : s.low ≤ s.high
  high : s.high ≤ 0xbf
  admits : ∀ v, s.Admits v → v.isValidChar ∧ codeBytes v = p ++ lowBytes s.due v
  only : ∀ c : Char, p <+: String.utf8EncodeChar c → s.Admits c.val.toNat

namespace Sequence

/-- The sequence with one more byte. -/
def next (s : Sequence) (b : UInt8) : Sequence :=
  ⟨64 * s.bits + (b.toNat - 0x80), s.due - 1, 0x80, 0xbf⟩

variable {s : Sequence} {p : List UInt8} {b : UInt8}

theorem after_singleton (hdue : 0 < s.due) (hlow : 0x80 ≤ s.low) (hordered : s.low ≤ s.high)
    (hhigh : s.high ≤ 0xbf)
    (h : ∀ v, s.Admits v ↔ v.isValidChar ∧ leadCode v = b.toNat)
    (hfurther : ∀ v, v.isValidChar → leadCode v = b.toNat → further v = s.due) :
    s.After [b] where
  due := hdue
  low := hlow
  ordered := hordered
  high := hhigh
  admits v hv := by
    obtain ⟨hvalid, hlead⟩ := (h v).mp hv
    refine ⟨hvalid, ?_⟩
    rw [codeBytes_eq, hlead, hfurther v hvalid hlead, UInt8.ofNat_toNat]
    rfl
  only c hp := by
    rw [utf8EncodeChar_eq, codeBytes_eq, List.cons_prefix_cons] at hp
    refine (h _).mpr ⟨c.valid, ?_⟩
    rw [hp.1, toNat_ofNat_leadCode]

/-- **One more byte:** the codes are those that have it next. -/
theorem After.admits_next_iff (h : s.After p) (hdue : s.due ≠ 1) (hlow : s.low ≤ b.toNat)
    (hhigh : b.toNat ≤ s.high) (v : Nat) :
    (s.next b).Admits v ↔ s.Admits v ∧ v / 64 ^ (s.due - 1) % 64 + 0x80 = b.toNat := by
  have hdue' := h.due
  have hlow' := h.low
  have hhigh' := h.high
  obtain ⟨n, hn⟩ : ∃ n, s.due = n + 2 := ⟨s.due - 2, by omega⟩
  have hdiv : v / 64 ^ (n + 2) = v / 64 ^ (n + 1) / 64 := by
    rw [Nat.div_div_eq_div_mul, ← Nat.pow_succ]
  unfold Admits next
  rw [hn]
  dsimp only
  rw [Nat.add_one_sub_one, Nat.add_one_sub_one, hdiv]
  generalize v / 64 ^ (n + 1) = x
  generalize v / 64 ^ n = y
  omega

/-- **One more byte** that the sequence allows, but not the last one. -/
theorem After.next (h : s.After p) (hdue : s.due ≠ 1) (hlow : s.low ≤ b.toNat)
    (hhigh : b.toNat ≤ s.high) : (s.next b).After (p ++ [b]) := by
  have hadmits := h.admits_next_iff hdue hlow hhigh
  have hpos := h.due
  obtain ⟨n, hn⟩ : ∃ n, s.due = n + 1 := ⟨s.due - 1, by omega⟩
  have hbyte : ∀ v, v / 64 ^ (s.due - 1) % 64 + 0x80 = b.toNat ↔ lowByte (v / 64 ^ n) = b := by
    intro v
    rw [← UInt8.toNat_inj, toNat_lowByte, hn, Nat.add_one_sub_one]
  refine ⟨?_, le_refl _, (by decide : 0x80 ≤ 0xbf), le_refl _, fun v hv => ?_, fun c hc => ?_⟩
  · show 0 < s.due - 1
    omega
  · obtain ⟨hv, hb⟩ := (hadmits v).mp hv
    obtain ⟨hvalid, hbytes⟩ := h.admits v hv
    refine ⟨hvalid, ?_⟩
    rw [hbytes, hn, lowBytes, (hbyte v).mp hb, List.append_assoc, List.singleton_append]
    show _ = p ++ b :: lowBytes (s.due - 1) v
    rw [hn, Nat.add_one_sub_one]
  · have hv := h.only c ((List.prefix_append p [b]).trans hc)
    refine (hadmits _).mpr ⟨hv, (hbyte _).mpr ?_⟩
    rw [utf8EncodeChar_eq, (h.admits _ hv).2, List.prefix_append_right_inj, hn, lowBytes,
      List.cons_prefix_cons] at hc
    exact hc.1.symm

/-- **The last byte:** a sequence that it ends is a character. -/
theorem After.complete (h : s.After p) (hdue : s.due = 1) (hlow : s.low ≤ b.toNat)
    (hhigh : b.toNat ≤ s.high) :
    String.utf8EncodeChar (.ofNat (64 * s.bits + (b.toNat - 0x80))) = p ++ [b] := by
  have hlow' := h.low
  have hhigh' := h.high
  have hadmits : s.Admits (64 * s.bits + (b.toNat - 0x80)) := by
    unfold Admits
    rw [hdue, pow_one, Nat.sub_self, pow_zero, Nat.div_one]
    omega
  obtain ⟨hvalid, hbytes⟩ := h.admits _ hadmits
  obtain ⟨c, hc, hofNat⟩ := exists_char_of_isValidChar hvalid
  have hbyte : lowByte ((64 * s.bits + (b.toNat - 0x80)) / 64 ^ 0) = b := by
    rw [← UInt8.toNat_inj, toNat_lowByte, pow_zero, Nat.div_one]
    omega
  rw [hofNat, utf8EncodeChar_eq, hc, hbytes, hdue, lowBytes, hbyte]
  rfl

/-- A sequence allows the bytes with which some character goes on. -/
theorem After.bounds (h : s.After p) (hb : Begins (p ++ [b])) :
    s.low ≤ b.toNat ∧ b.toNat ≤ s.high := by
  obtain ⟨c, hc⟩ := hb
  have hv := h.only c ((List.prefix_append p [b]).trans hc)
  have hpos := h.due
  obtain ⟨n, hn⟩ : ∃ n, s.due = n + 1 := ⟨s.due - 1, by omega⟩
  rw [utf8EncodeChar_eq, (h.admits _ hv).2, List.prefix_append_right_inj, hn, lowBytes,
    List.cons_prefix_cons] at hc
  rw [hc.1, toNat_lowByte]
  have hbounds := hv.2
  rwa [hn, Nat.add_one_sub_one] at hbounds

theorem After.begins (h : s.After p) : Begins p := by
  have hpos := h.due
  have hlow := h.low
  have hordered := h.ordered
  have hhigh := h.high
  obtain ⟨n, hn⟩ : ∃ n, s.due = n + 1 := ⟨s.due - 1, by omega⟩
  have hadmits : s.Admits ((64 * s.bits + (s.low - 0x80)) * 64 ^ n) := by
    unfold Admits
    rw [hn, Nat.add_one_sub_one, pow_succ, ← Nat.div_div_eq_div_mul,
      Nat.mul_div_cancel _ (Nat.pos_of_neZero _)]
    omega
  obtain ⟨hvalid, hbytes⟩ := h.admits _ hadmits
  obtain ⟨c, hc, -⟩ := exists_char_of_isValidChar hvalid
  refine ⟨c, ?_⟩
  rw [utf8EncodeChar_eq, hc, hbytes]
  exact List.prefix_append _ _

theorem After.not_complete (h : s.After p) (c : Char) : String.utf8EncodeChar c ≠ p := by
  intro hc
  have hv := h.only c (hc ▸ List.prefix_refl _)
  have hlength := congrArg List.length (h.admits _ hv).2
  rw [← utf8EncodeChar_eq, hc, List.length_append, length_lowBytes] at hlength
  have hpos := h.due
  omega

end Sequence

namespace Decoder

/-! ### The first byte -/

/-- The sequence that a byte begins. -/
def begun? (b : Nat) : Option Sequence :=
  if 0xc2 ≤ b ∧ b ≤ 0xdf then some ⟨b - 0xc0, 1, 0x80, 0xbf⟩
  else if b = 0xe0 then some ⟨0, 2, 0xa0, 0xbf⟩
  else if b = 0xed then some ⟨0xd, 2, 0x80, 0x9f⟩
  else if 0xe1 ≤ b ∧ b ≤ 0xef then some ⟨b - 0xe0, 2, 0x80, 0xbf⟩
  else if b = 0xf0 then some ⟨0, 3, 0x90, 0xbf⟩
  else if 0xf1 ≤ b ∧ b ≤ 0xf3 then some ⟨b - 0xf0, 3, 0x80, 0xbf⟩
  else if b = 0xf4 then some ⟨4, 3, 0x80, 0x8f⟩
  else none

/-- The decoder after a byte that is no character, which begins a sequence or is a piece. -/
def start (read : List (Option Char)) : Option Sequence → Decoder
  | none => ⟨none, none :: read⟩
  | some s => ⟨some s, read⟩

theorem first_eq (read : List (Option Char)) (b : Nat) :
    first read b = if b < 0x80 then ⟨none, some (.ofNat b) :: read⟩
      else start read (begun? b) := by
  unfold first begun?
  simp only [apply_ite (start read)]
  rfl

theorem after_of_begun? {b : UInt8} {s : Sequence} (h : begun? b.toNat = some s) :
    s.After [b] := by
  unfold begun? at h
  -- one goal for each row of the table
  split_ifs at h
  all_goals
    obtain rfl := Option.some.inj h
    refine Sequence.after_singleton ?_ ?_ ?_ ?_ (fun v => ?_) fun v => ?_
    all_goals simp only [Sequence.Admits, leadCode, further, Nat.isValidChar]
    all_goals norm_num
    all_goals
      split_ifs <;> omega

/-- A byte that begins no sequence is no first byte of a character, unless it is ASCII. -/
theorem leadCode_ne_of_begun?_eq_none {b v : Nat} (hb : 0x80 ≤ b) (h : begun? b = none)
    (hv : v < 0x110000) : leadCode v ≠ b := by
  have hout : b < 0xc2 ∨ 0xf4 < b := by
    unfold begun? at h
    split_ifs at h
    omega
  unfold leadCode
  split_ifs <;> omega

/-- **The first byte** is a character, begins some, or begins none. -/
theorem first_cases (read : List (Option Char)) (b : UInt8) :
    (∃ c, String.utf8EncodeChar c = [b] ∧ first read b.toNat = ⟨none, some c :: read⟩) ∨
    (∃ s, s.After [b] ∧ first read b.toNat = ⟨some s, read⟩) ∨
    ¬ Begins [b] ∧ first read b.toNat = ⟨none, none :: read⟩ := by
  rw [first_eq]
  by_cases hb : b.toNat < 0x80
  · have hvalid : b.toNat.isValidChar := Or.inl (by omega)
    obtain ⟨c, hc, hofNat⟩ := exists_char_of_isValidChar hvalid
    have hlead : leadCode b.toNat = b.toNat := if_pos (by omega)
    have hfurther : further b.toNat = 0 := if_pos (by omega)
    refine Or.inl ⟨c, ?_, ?_⟩
    · rw [utf8EncodeChar_eq, hc, codeBytes_eq, hlead, hfurther, UInt8.ofNat_toNat]
      rfl
    · rw [if_pos hb, hofNat]
  rw [if_neg hb]
  rcases hbegun : begun? b.toNat with _ | s
  · refine Or.inr (Or.inr ⟨?_, rfl⟩)
    rintro ⟨c, hc⟩
    rw [utf8EncodeChar_eq, codeBytes_eq, List.cons_prefix_cons] at hc
    refine leadCode_ne_of_begun?_eq_none (by omega) hbegun (toNat_lt c) ?_
    rw [hc.1, toNat_ofNat_leadCode]
  · exact Or.inr (Or.inl ⟨s, after_of_begun? hbegun, rfl⟩)

/-! ### One byte -/

/-- The decoder has taken the given bytes since the last character or piece. -/
def Holds (d : Decoder) (p : List UInt8) : Prop :=
  match d.begun with
  | none => p = []
  | some s => s.After p

variable {d : Decoder} {p : List UInt8} {b : UInt8}

theorem step_of_begun {s : Sequence} (hd : d.begun = some s) (hlow : s.low ≤ b.toNat)
    (hhigh : b.toNat ≤ s.high) :
    d.step b = if s.due = 1 then ⟨none, some (.ofNat (64 * s.bits + (b.toNat - 0x80))) :: d.read⟩
      else ⟨some (s.next b), d.read⟩ := by
  unfold step
  rw [hd]
  exact if_pos ⟨hlow, hhigh⟩

/-- **A byte that some character goes on with** completes it or not. -/
theorem step_of_begins (h : d.Holds p) (hb : Begins (p ++ [b])) :
    (∃ c, String.utf8EncodeChar c = p ++ [b] ∧ d.step b = ⟨none, some c :: d.read⟩) ∨
    ∃ s, s.After (p ++ [b]) ∧ d.step b = ⟨some s, d.read⟩ := by
  unfold Holds at h
  rcases hd : d.begun with _ | s
  · rw [hd] at h
    obtain rfl := h
    have hstep : d.step b = first d.read b.toNat := by rw [step, hd]
    rw [hstep, List.nil_append]
    rcases first_cases d.read b with hc | hs | ⟨hn, -⟩
    · exact Or.inl hc
    · exact Or.inr hs
    · exact absurd hb hn
  · rw [hd] at h
    obtain ⟨hlow, hhigh⟩ := h.bounds hb
    rw [step_of_begun hd hlow hhigh]
    by_cases hdue : s.due = 1
    · rw [if_pos hdue]
      exact Or.inl ⟨_, h.complete hdue hlow hhigh, rfl⟩
    · rw [if_neg hdue]
      exact Or.inr ⟨_, h.next hdue hlow hhigh, rfl⟩

/-- **A byte that no character goes on with** leaves what has begun as a piece, and starts anew. -/
theorem step_of_not_begins (h : d.Holds p) (hp : p ≠ []) (hb : ¬ Begins (p ++ [b])) :
    d.step b = step ⟨none, none :: d.read⟩ b := by
  unfold Holds at h
  rcases hd : d.begun with _ | s
  · rw [hd] at h
    exact absurd h hp
  · rw [hd] at h
    have hout : ¬ (s.low ≤ b.toNat ∧ b.toNat ≤ s.high) := by
      rintro ⟨hlow, hhigh⟩
      refine hb ?_
      by_cases hdue : s.due = 1
      · exact begins_of_eq (h.complete hdue hlow hhigh)
      · exact (h.next hdue hlow hhigh).begins
    unfold step
    rw [hd]
    exact if_neg hout

/-! ### Many bytes -/

theorem holds_nil (read : List (Option Char)) : Holds ⟨none, read⟩ [] := rfl

/-- **A character** is read. -/
theorem run_character {c : Char} {q : List UInt8} (h : d.Holds p) (hq : q ≠ [])
    (hc : String.utf8EncodeChar c = p ++ q) : q.foldl step d = ⟨none, some c :: d.read⟩ := by
  induction q generalizing d p with
  | nil => exact absurd rfl hq
  | cons b q ih =>
    rw [List.append_cons] at hc
    have hb : Begins (p ++ [b]) := (begins_of_eq hc).of_append
    rw [List.foldl_cons]
    rcases step_of_begins h hb with ⟨c', hc', hstep⟩ | ⟨s, hs, hstep⟩
    · -- complete characters are as long as each other
      have hlength := length_eq_of_prefix (hc'.symm ▸ hc.symm ▸ List.prefix_append _ _ :
        String.utf8EncodeChar c' <+: String.utf8EncodeChar c)
      rw [hc, hc'] at hlength
      simp only [List.length_append] at hlength
      obtain rfl : q = [] := List.length_eq_zero_iff.mp (by omega)
      rw [List.append_nil, ← hc'] at hc
      rw [hstep, eq_of_utf8EncodeChar_eq hc]
      rfl
    · have hq' : q ≠ [] := by
        rintro rfl
        rw [List.append_nil] at hc
        exact hs.not_complete c hc
      rw [hstep]
      exact ih hs hq' hc

/-- **A beginning of a character** is taken, and nothing is read. -/
theorem run_begins {q : List UInt8} (h : d.Holds p) (hq : Begins (p ++ q))
    (hno : ∀ c, ¬ String.utf8EncodeChar c <+: p ++ q) :
    (q.foldl step d).Holds (p ++ q) ∧ (q.foldl step d).read = d.read := by
  induction q generalizing d p with
  | nil =>
    rw [List.append_nil]
    exact ⟨h, rfl⟩
  | cons b q ih =>
    rw [List.append_cons] at hq hno ⊢
    rw [List.foldl_cons]
    rcases step_of_begins h hq.of_append with ⟨c, hc, -⟩ | ⟨s, hs, hstep⟩
    · exact absurd (hc ▸ List.prefix_append _ _) (hno c)
    · rw [hstep]
      exact ih hs hq hno

/-- What was read before the bytes comes before what is read of them. -/
def behind (read : List (Option Char)) (d : Decoder) : Decoder :=
  ⟨d.begun, d.read ++ read⟩

theorem step_behind (read : List (Option Char)) (d : Decoder) (b : UInt8) :
    (behind read d).step b = behind read (d.step b) := by
  have hfirst : ∀ read' : List (Option Char),
      first (read' ++ read) b.toNat = behind read (first read' b.toNat) := by
    intro read'
    rw [first_eq, first_eq]
    split_ifs
    · rfl
    · cases begun? b.toNat <;> rfl
  unfold step
  rw [show (behind read d).begun = d.begun from rfl]
  rcases d.begun with _ | s
  · exact hfirst d.read
  · simp only []
    split_ifs
    · rfl
    · rfl
    · exact hfirst (none :: d.read)

theorem run_behind (read : List (Option Char)) (d : Decoder) (bytes : List UInt8) :
    bytes.foldl step (behind read d) = behind read (bytes.foldl step d) := by
  induction bytes generalizing d with
  | nil => rfl
  | cons b bytes ih => rw [List.foldl_cons, step_behind, ih, List.foldl_cons]

theorem finish_run (read : List (Option Char)) (bytes : List UInt8) :
    (bytes.foldl step ⟨none, read⟩).finish = read.reverse ++ scan bytes := by
  have hrun := run_behind read {} bytes
  rw [show behind read {} = ⟨none, read⟩ from rfl] at hrun
  rw [hrun, scan, finish, finish, behind]
  rcases (bytes.foldl step {}).begun with _ | s <;> simp

end Decoder

/-! ### The text -/

open Decoder

theorem decode_character (c : Char) (rest : List UInt8) :
    decode (String.utf8EncodeChar c ++ rest) = c :: decode rest := by
  have hrun := run_character (holds_nil []) (String.utf8EncodeChar_ne_nil (c := c))
    (List.nil_append _).symm
  rw [decode, scan, List.foldl_append, hrun, finish_run]
  rfl

/-- **A piece that is no character** gives U+FFFD, whatever comes after it. -/
theorem decode_gap {g rest : List UInt8} (h : Gap g rest) :
    decode (g ++ rest) = '\ufffd' :: decode rest := by
  suffices hrun : (rest.foldl step (g.foldl step {})).finish =
      (rest.foldl step ⟨none, [none]⟩).finish by
    rw [decode, scan, List.foldl_append, hrun, finish_run]
    rfl
  cases h with
  | @byte b rest hb =>
    have hstep : step {} b = ⟨none, [none]⟩ := by
      rcases first_cases [] b with ⟨c, hc, -⟩ | ⟨s, hs, -⟩ | ⟨-, hfirst⟩
      · exact absurd (begins_of_eq hc) hb
      · exact absurd hs.begins hb
      · exact hfirst
    rw [List.foldl_cons, List.foldl_nil, hstep]
  | cut hne hg hno hrest =>
    obtain ⟨hholds, hread⟩ := run_begins (holds_nil []) hg hno
    rw [List.nil_append] at hholds
    rcases rest with _ | ⟨b, rest⟩
    · -- the bytes end in the middle of the piece
      rw [List.foldl_nil, List.foldl_nil]
      unfold Holds at hholds
      rcases hbegun : (g.foldl step {}).begun with _ | s
      · rw [hbegun] at hholds
        exact absurd hholds hne
      · rw [finish, hbegun, hread]
        rfl
    · rw [List.foldl_cons, step_of_not_begins hholds hne (hrest b rfl), hread]
      rfl

/-- **Where no character stands,** there is a piece that is none. -/
theorem exists_gap {p : List UInt8} (rest : List UInt8) (hne : p ≠ []) (hp : Begins p)
    (hno : ∀ c, ¬ String.utf8EncodeChar c <+: p ++ rest) :
    ∃ g t, p ++ rest = g ++ t ∧ g ≠ [] ∧ Gap g t := by
  induction rest generalizing p with
  | nil =>
    rw [List.append_nil] at hno
    exact ⟨p, [], rfl, hne, .cut hne hp hno (by simp)⟩
  | cons b rest ih =>
    by_cases hb : Begins (p ++ [b])
    · obtain ⟨g, t, hgt, hg, hgap⟩ := ih (by simp) hb (by rwa [← List.append_cons])
      exact ⟨g, t, by rw [List.append_cons, hgt], hg, hgap⟩
    · refine ⟨p, b :: rest, rfl, hne, .cut hne hp ?_ ?_⟩
      · exact fun c hc => hno c (hc.trans (List.prefix_append _ _))
      · rintro _ ⟨⟩
        exact hb

theorem exists_gap_of_cons {b : UInt8} {rest : List UInt8}
    (hno : ∀ c, ¬ String.utf8EncodeChar c <+: b :: rest) :
    ∃ g t, b :: rest = g ++ t ∧ g ≠ [] ∧ Gap g t := by
  by_cases hb : Begins [b]
  · exact exists_gap rest (List.cons_ne_nil b []) hb hno
  · exact ⟨[b], rest, rfl, List.cons_ne_nil b [], .byte hb⟩

theorem replaced_decode (bytes : List UInt8) : Replaced bytes (decode bytes) := by
  rcases bytes with _ | ⟨b, rest⟩
  · exact .nil
  by_cases hchar : ∃ c, String.utf8EncodeChar c <+: b :: rest
  · obtain ⟨c, t, ht⟩ := hchar
    have hlt : t.length < (b :: rest).length := by
      have hpos := List.length_pos_iff.mpr (String.utf8EncodeChar_ne_nil (c := c))
      rw [← ht, List.length_append]
      omega
    rw [← ht, decode_character]
    exact .character c (replaced_decode t)
  · obtain ⟨g, t, hgt, hg, hgap⟩ := exists_gap_of_cons (not_exists.mp hchar)
    have hlt : t.length < (b :: rest).length := by
      have hpos := List.length_pos_iff.mpr hg
      rw [hgt, List.length_append]
      omega
    rw [hgt, decode_gap hgap]
    exact .gap hgap (replaced_decode t)
termination_by bytes.length
decreasing_by
  · exact hlt
  · exact hlt

/-- **The decoder gives the text of bytes,** the only one there is. -/
theorem replaced_iff {bytes : List UInt8} {t : List Char} :
    Replaced bytes t ↔ decode bytes = t := by
  constructor
  · intro h
    induction h with
    | nil => rfl
    | character c _ ih => rw [decode_character, ih]
    | gap hgap _ ih => rw [decode_gap hgap, ih]
  · rintro rfl
    exact replaced_decode bytes

theorem decode_encode (s : List Char) : decode (encode s) = s := by
  induction s with
  | nil => rfl
  | cons c s ih => rw [encode, List.flatMap_cons, decode_character, ← encode, ih]

theorem decode?_eq_some_iff {bytes : List UInt8} {s : List Char} :
    decode? bytes = some s ↔ encode s = bytes := by
  simp only [decode?]
  constructor
  · intro h
    split_ifs at h with hb
    exact Option.some.inj h ▸ hb
  · rintro rfl
    rw [decode_encode]
    exact if_pos rfl

end CrossCheck.Text.Utf8
