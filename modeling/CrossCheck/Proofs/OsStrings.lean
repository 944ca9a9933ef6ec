import CrossCheck.Path
import CrossCheck.Proofs.Replacement

/-! # Names that are text

A text is read back from the name that it makes, so that it is a name of its own
(`ofText_injective`), and only such a name has a text (`text?_eq_some_iff`). What separates the
parts of a path is ASCII, and stands in the bytes of a text only where it stands in the text. -/

namespace CrossCheck

namespace OsString

@[simp]
theorem display_ofText (s : String) : (ofText s).display = s := by
  rw [display, ofText, Text.Utf8.decode_encode, String.ofList_toList]

theorem ofText_injective : Function.Injective ofText := fun s t h => by
  simpa using congrArg display h

theorem text?_eq_some_iff {name : OsString} {s : String} :
    name.text? = some s ↔ ofText s = name := by
  simp only [text?, Option.map_eq_some_iff, Text.Utf8.decode?_eq_some_iff]
  constructor
  · rintro ⟨t, ht, rfl⟩
    cases name
    simpa [ofText] using ht
  · rintro rfl
    exact ⟨s.toList, rfl, String.ofList_toList⟩

end OsString

namespace Path

open Text.Utf8

theorem dot_mem_encode_iff {s : List Char} : dot ∈ encode s ↔ '.' ∈ s :=
  ofNat_mem_encode_iff (by decide : '.'.toNat < 128)

theorem slash_mem_encode_iff {s : List Char} : slash ∈ encode s ↔ '/' ∈ s :=
  ofNat_mem_encode_iff (by decide : '/'.toNat < 128)

end Path

end CrossCheck
