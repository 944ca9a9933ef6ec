import CrossCheck.Text.Utf8
import Mathlib.Tactic.SplitIfs

/-! # The bytes of a character

A character of ASCII is one byte. All bytes of any other character are outside ASCII, so that what
is found of ASCII in the bytes of a text is in the text (`ofNat_mem_encode_iff`). -/

namespace CrossCheck.Text.Utf8

/-- The byte after the first that holds the six lowest bits of a number. -/
def lowByte (v : Nat) : UInt8 := .ofNat (v % 64 + 128)

/-- The bytes of the character with the given code. -/
def codeBytes (v : Nat) : List UInt8 :=
  if v ≤ 0x7f then [.ofNat v]
  else if v ≤ 0x7ff then [.ofNat (v / 64 % 32 + 192)] ++ [lowByte v]
  else if v ≤ 0xffff then [.ofNat (v / 4096 % 16 + 224)] ++ [lowByte (v / 64)] ++ [lowByte v]
  else [.ofNat (v / 262144 % 8 + 240)] ++ [lowByte (v / 4096)] ++ [lowByte (v / 64)] ++ [lowByte v]

theorem utf8EncodeChar_eq (c : Char) : String.utf8EncodeChar c = codeBytes c.val.toNat := rfl

theorem mem_codeBytes_iff {v : Nat} {b : UInt8} (hb : b.toNat < 128) :
    b ∈ codeBytes v ↔ v = b.toNat := by
  have hlow : ∀ v, b ≠ lowByte v := by
    rintro v rfl
    have htoNat : (lowByte v).toNat = v % 64 + 128 := UInt8.toNat_ofNat_of_lt' (by omega : _ < 256)
    omega
  have hlead : ∀ n, 128 ≤ n → n < 256 → b ≠ .ofNat n := by
    rintro n hn hn' rfl
    rw [UInt8.toNat_ofNat_of_lt' hn'] at hb
    omega
  unfold codeBytes
  split_ifs with h1 h2 h3
  · rw [List.mem_singleton, ← UInt8.toNat_inj, UInt8.toNat_ofNat_of_lt' (by omega : v < 256)]
    exact eq_comm
  all_goals
    refine iff_of_false ?_ (by omega)
    simp only [List.mem_append, List.mem_singleton, hlow, or_false]
    exact hlead _ (by omega) (by omega)

/-- **A character of ASCII** has its byte wherever it stands, and nothing else has that byte. -/
theorem ofNat_mem_encode_iff {s : List Char} {c : Char} (hc : c.toNat < 128) :
    UInt8.ofNat c.toNat ∈ encode s ↔ c ∈ s := by
  have hbyte : (UInt8.ofNat c.toNat).toNat = c.toNat :=
    UInt8.toNat_ofNat_of_lt' (by omega : _ < 256)
  have hcode : ∀ d : Char, UInt8.ofNat c.toNat ∈ String.utf8EncodeChar d ↔ d = c := fun d => by
    rw [utf8EncodeChar_eq, mem_codeBytes_iff (by rwa [hbyte]), hbyte]
    exact ⟨fun h => Char.ext (UInt32.toNat_inj.mp h), fun h => h ▸ rfl⟩
  simp [encode, hcode]

end CrossCheck.Text.Utf8
