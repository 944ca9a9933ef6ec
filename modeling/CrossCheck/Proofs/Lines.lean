import CrossCheck.Text.Line
import Mathlib.Data.List.Basic

/-! # Lines of a byte stream

A stream is read as lines, and a newline ends each of them but perhaps the last (`LineList`,
`lineList_decodedLines`). This rests on what the decoder of UTF-8 makes of newlines: a newline byte
gives a newline and ends whatever has begun (`decode_append_newline`), and no other byte gives one
(`newline_mem_decode_iff`), since a character of several bytes is never that small
(`Sequence.Sound`). -/

namespace CrossCheck.Text

namespace Utf8

/-- **What a sequence that has begun keeps to:** its next byte is no ASCII, and its character will
be none either. -/
structure Sequence.Sound (s : Sequence) : Prop where
  low : 0x80 ≤ s.low
  next : 2 ≤ 64 * s.bits + (s.low - 0x80)
  last : s.due = 1 → 2 ≤ s.bits

namespace Decoder

/-- What a decoder keeps to. -/
def Sound (d : Decoder) : Prop :=
  ∀ s ∈ d.begun, s.Sound

theorem ofNat_eq_newline_iff {n : Nat} : Char.ofNat n = '\n' ↔ n = 10 := by
  constructor
  · intro h
    by_cases hn : n.isValidChar
    · rw [Char.ofNat, dif_pos hn] at h
      exact congrArg Char.toNat h
    · rw [Char.ofNat, dif_neg hn] at h
      exact absurd h (by decide)
  · rintro rfl
    rfl

theorem sound_first (read : List (Option Char)) (b : Nat) : (first read b).Sound := by
  intro s hs
  unfold first at hs
  split_ifs at hs <;> simp only [Option.mem_def, reduceCtorEq, Option.some.injEq] at hs <;>
    subst hs <;> refine ⟨?_, ?_, ?_⟩ <;> dsimp only <;> omega

theorem newline_mem_first_iff {read : List (Option Char)} {b : Nat} :
    some '\n' ∈ (first read b).read ↔ some '\n' ∈ read ∨ b = 10 := by
  unfold first
  split_ifs with h
  · simp only [List.mem_cons, Option.some.injEq]
    rw [eq_comm, ofNat_eq_newline_iff, or_comm]
  all_goals
    simp
    try omega

/-- **One byte** keeps a decoder sound. -/
theorem Sound.step {d : Decoder} (h : d.Sound) (byte : UInt8) : (d.step byte).Sound := by
  unfold Decoder.step
  rcases hd : d.begun with _ | s
  · exact sound_first _ _
  have hs := h s hd
  simp only []
  split_ifs with hb hdue
  · simp [Sound]
  · intro t ht
    obtain rfl := Option.some.inj ht
    have hlow := hs.low
    have hnext := hs.next
    refine ⟨?_, ?_, ?_⟩ <;> dsimp only <;> omega
  · exact sound_first _ _

/-- **One byte** gives a newline if and only if it is one. -/
theorem newline_mem_step_iff {d : Decoder} (h : d.Sound) {byte : UInt8} :
    some '\n' ∈ (d.step byte).read ↔ some '\n' ∈ d.read ∨ byte.toNat = 10 := by
  unfold Decoder.step
  rcases hd : d.begun with _ | s
  · exact newline_mem_first_iff
  have hs := h s hd
  simp only []
  split_ifs with hb hdue
  · have hlow := hs.low
    have hlast := hs.last hdue
    have hbits : '\n' ≠ Char.ofNat (64 * s.bits + (byte.toNat - 0x80)) := by
      rw [ne_comm, Ne, ofNat_eq_newline_iff]
      omega
    have hbyte : byte.toNat ≠ 10 := by omega
    simp [hbits, hbyte]
  · have hlow := hs.low
    have hbyte : byte.toNat ≠ 10 := by omega
    simp [hbyte]
  · rw [newline_mem_first_iff]
    simp

theorem newline_mem_finish_iff {d : Decoder} : some '\n' ∈ d.finish ↔ some '\n' ∈ d.read := by
  unfold finish
  cases d.begun <;> simp

theorem step_newline {d : Decoder} (h : d.Sound) :
    d.step newlineByte = ⟨none, some '\n' :: d.finish.reverse⟩ := by
  unfold Decoder.step finish
  rcases hd : d.begun with _ | s
  · simp [first, newlineByte]
  · have hlow : ¬ (s.low ≤ newlineByte.toNat ∧ newlineByte.toNat ≤ s.high) := by
      have := (h s hd).low
      rw [show newlineByte.toNat = 10 from rfl]
      omega
    simp only [if_neg hlow]
    simp [first, newlineByte]

/-- **All bytes** keep a decoder sound. -/
theorem Sound.run {d : Decoder} (h : d.Sound) (bytes : List UInt8) :
    (bytes.foldl Decoder.step d).Sound := by
  induction bytes generalizing d with
  | nil => exact h
  | cons b bytes ih => exact ih (h.step b)

/-- **All bytes** together give newlines if and only if there is one among them. -/
theorem newline_mem_run_iff {d : Decoder} (h : d.Sound) {bytes : List UInt8} :
    some '\n' ∈ (bytes.foldl Decoder.step d).read ↔
      some '\n' ∈ d.read ∨ newlineByte ∈ bytes := by
  induction bytes generalizing d with
  | nil => simp
  | cons b bytes ih =>
    have hb : b.toNat = 10 ↔ newlineByte = b := by
      rw [eq_comm, ← UInt8.toNat_inj]
      exact Iff.rfl
    rw [List.foldl_cons, ih (h.step b), newline_mem_step_iff h, hb, List.mem_cons, or_assoc]

theorem sound_empty : Decoder.Sound {} := by simp [Sound]

end Decoder

theorem newline_mem_decode_iff {bytes : List UInt8} :
    '\n' ∈ decode bytes ↔ newlineByte ∈ bytes := by
  have hscan : some '\n' ∈ scan bytes ↔ newlineByte ∈ bytes := by
    rw [scan, Decoder.newline_mem_finish_iff, Decoder.newline_mem_run_iff Decoder.sound_empty]
    simp
  rw [← hscan, decode, List.mem_map]
  constructor
  · rintro ⟨_ | c, hc, h⟩
    · exact absurd h (by decide)
    · cases h
      exact hc
  · exact fun h => ⟨_, h, rfl⟩

theorem decode_append_newline (bytes : List UInt8) :
    decode (bytes ++ [newlineByte]) = decode bytes ++ ['\n'] := by
  have hscan : scan (bytes ++ [newlineByte]) = scan bytes ++ [some '\n'] := by
    rw [scan, List.foldl_append, List.foldl_cons, List.foldl_nil,
      Decoder.step_newline (Decoder.sound_empty.run bytes)]
    simp [Decoder.finish, scan]
  rw [decode, hscan, List.map_append]
  rfl

end Utf8

/-- **Lines as they are read off a stream:** a newline ends each but perhaps the last. -/
inductive LineList : List (List Char) → Prop
  | nil : LineList []
  /-- A last line without a newline. -/
  | rest {t : List Char} : '\n' ∉ t → LineList [t]
  | ended {t : List Char} {ls : List (List Char)} :
      '\n' ∉ t → LineList ls → LineList ((t ++ ['\n']) :: ls)

namespace LineList

variable {l : List Char} {ls : List (List Char)}

theorem tail (h : LineList (l :: ls)) : LineList ls := by
  cases h with
  | rest _ => exact .nil
  | ended _ h => exact h

theorem eq_nil_of_rest (h : LineList (l :: ls)) (hl : l.getLast? ≠ some '\n') : ls = [] := by
  cases h with
  | rest _ => rfl
  | ended _ _ => exact absurd List.getLast?_concat hl

theorem exists_of_mem (h : LineList ls) (hl : l ∈ ls) :
    ∃ t, '\n' ∉ t ∧ (l = t ∨ l = t ++ ['\n']) := by
  induction h with
  | nil => cases hl
  | rest ht => exact ⟨_, ht, Or.inl (List.mem_singleton.mp hl)⟩
  | ended ht _ ih =>
    rcases List.mem_cons.mp hl with rfl | hl
    · exact ⟨_, ht, Or.inr rfl⟩
    · exact ih hl

end LineList

theorem byteLines_of_newline_notMem {bytes : List UInt8} (h : newlineByte ∉ bytes) :
    byteLines bytes = if bytes = [] then [] else [bytes] := by
  unfold byteLines
  rw [List.splitOn_eq_singleton h]
  cases bytes <;> rfl

theorem byteLines_append_newline {f : List UInt8} (hf : newlineByte ∉ f) (bytes : List UInt8) :
    byteLines (f ++ newlineByte :: bytes) = (f ++ [newlineByte]) :: byteLines bytes := by
  unfold byteLines
  rw [List.splitOn_append_cons_self, List.splitOn_eq_singleton hf, List.singleton_append]
  obtain ⟨g, fields, hg⟩ := List.exists_cons_of_ne_nil (List.splitOn_ne_nil newlineByte bytes)
  rw [hg]
  simp

/-- **Line by line:** what holds of every text without the separator, and of a line before any text
of which it holds, holds of all texts. -/
@[elab_as_elim]
theorem line_induction {α : Type} [DecidableEq α] (sep : α) {P : List α → Prop}
    (last : ∀ s, sep ∉ s → P s) (line : ∀ s t, sep ∉ s → P t → P (s ++ sep :: t)) (s : List α) :
    P s := by
  by_cases h : sep ∈ s
  · obtain ⟨l, t, hs, hl⟩ := List.eq_append_cons_of_mem h
    rw [hs]
    exact line l t hl (line_induction sep last line t)
  · exact last s h
termination_by s.length
decreasing_by
  rw [hs, List.length_append, List.length_cons]
  omega

/-- **A stream is read as lines.** -/
theorem lineList_decodedLines (bytes : List UInt8) : LineList (decodedLines bytes) := by
  unfold decodedLines
  induction bytes using line_induction newlineByte with
  | last f hf =>
    rw [byteLines_of_newline_notMem hf]
    split_ifs
    · exact .nil
    · exact .rest (mt Utf8.newline_mem_decode_iff.mp hf)
  | line f rest hf ih =>
    rw [byteLines_append_newline hf, List.map_cons, Utf8.decode_append_newline]
    exact .ended (mt Utf8.newline_mem_decode_iff.mp hf) ih

end CrossCheck.Text
