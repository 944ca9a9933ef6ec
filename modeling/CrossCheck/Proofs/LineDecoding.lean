import CrossCheck.Proofs.Lines
import CrossCheck.Proofs.Replacement

/-! # Decoding line by line

A stream is cut at its newlines, and each line is decoded by itself. Nothing is lost by that and
nothing changed (`decodedLines_exact`): a newline byte ends whatever has begun before it
(`decode_append_cons`), so the lines together are the text of the whole stream, and each of them
depends on its own bytes alone. -/

namespace CrossCheck.Text

open Utf8

/-- **A stream in its segments:** those that a newline ends, and the rest after the last newline. -/
structure Segments (bytes : List UInt8) (segments : List (List UInt8)) (rest : List UInt8) : Prop
    where
  bytes_eq : bytes = segments.flatMap (fun f => f ++ [newlineByte]) ++ rest
  newline_notMem : ∀ f ∈ segments, newlineByte ∉ f
  newline_notMem_rest : newlineByte ∉ rest

theorem Segments.nil {bytes : List UInt8} (h : newlineByte ∉ bytes) : Segments bytes [] bytes :=
  ⟨rfl, by simp, h⟩

theorem Segments.cons {f bytes rest : List UInt8} {segments : List (List UInt8)}
    (h : Segments bytes segments rest) (hf : newlineByte ∉ f) :
    Segments (f ++ newlineByte :: bytes) (f :: segments) rest where
  bytes_eq := by simp [h.bytes_eq]
  newline_notMem := List.forall_mem_cons.mpr ⟨hf, h.newline_notMem⟩
  newline_notMem_rest := h.newline_notMem_rest

/-- **At a newline** a text is the texts of its two parts with the newline between them. -/
theorem decode_append_cons (f bytes : List UInt8) :
    decode (f ++ newlineByte :: bytes) = decode f ++ '\n' :: decode bytes := by
  have hsound := Decoder.sound_empty.run f
  have hscan : scan (f ++ newlineByte :: bytes) = scan f ++ some '\n' :: scan bytes := by
    rw [scan, List.foldl_append, List.foldl_cons, Decoder.step_newline hsound, Decoder.finish_run]
    simp [scan]
  rw [decode, hscan, List.map_append, List.map_cons]
  rfl

theorem decodedLines_append_cons {f : List UInt8} (hf : newlineByte ∉ f) (bytes : List UInt8) :
    decodedLines (f ++ newlineByte :: bytes) = (decode f ++ ['\n']) :: decodedLines bytes := by
  unfold decodedLines
  rw [byteLines_append_newline hf, List.map_cons, decode_append_newline]

theorem decodedLines_of_newline_notMem {bytes : List UInt8} (h : newlineByte ∉ bytes) :
    decodedLines bytes = if bytes = [] then [] else [decode bytes] := by
  unfold decodedLines
  rw [byteLines_of_newline_notMem h]
  split_ifs <;> rfl

/-- **Segment by segment,** from the first newline on. -/
theorem exists_segments (bytes : List UInt8) : ∃ segments rest, Segments bytes segments rest ∧
    decodedLines bytes =
      segments.map (fun f => decode f ++ ['\n']) ++ (if rest = [] then [] else [decode rest]) ∧
    (decodedLines bytes).flatten = decode bytes := by
  induction bytes using line_induction newlineByte with
  | last bytes h =>
    refine ⟨[], bytes, .nil h, decodedLines_of_newline_notMem h, ?_⟩
    rw [decodedLines_of_newline_notMem h]
    split_ifs with hnil
    · rw [hnil]
      rfl
    · rw [List.flatten_cons, List.flatten_nil, List.append_nil]
  | line f bytes hf ih =>
    obtain ⟨segments, rest, hsegments, hlines, hflatten⟩ := ih
    have hcons := decodedLines_append_cons hf bytes
    refine ⟨f :: segments, rest, hsegments.cons hf, ?_, ?_⟩
    · rw [hcons, hlines]
      rfl
    · rw [hcons, List.flatten_cons, hflatten, decode_append_cons, List.append_assoc,
        List.singleton_append]

/-- **Decoding line by line loses and changes nothing.** The lines of a stream together are the text
of all its bytes, with U+FFFD for each piece that is no character. There is one line for each
segment that a newline ends, which is the text of the segment and a newline, and one more for the
rest if there is any; no text of a segment has a newline in it. So what a text is written as is read
as that text. -/
theorem decodedLines_exact (bytes : List UInt8) :
    (∀ t, Replaced bytes t ↔ (decodedLines bytes).flatten = t) ∧
    (∃ segments rest, Segments bytes segments rest ∧
      decodedLines bytes =
        segments.map (fun f => decode f ++ ['\n']) ++ (if rest = [] then [] else [decode rest]) ∧
      ∀ f ∈ rest :: segments, Replaced f (decode f) ∧ '\n' ∉ decode f) ∧
    ∀ s, (decodedLines (encode s)).flatten = s := by
  refine ⟨fun t => ?_, ?_, fun s => ?_⟩
  · obtain ⟨_, _, -, -, hflatten⟩ := exists_segments bytes
    rw [hflatten, replaced_iff]
  · obtain ⟨segments, rest, hsegments, hlines, -⟩ := exists_segments bytes
    refine ⟨segments, rest, hsegments, hlines, fun f hf => ⟨replaced_decode f, ?_⟩⟩
    rw [newline_mem_decode_iff]
    rcases List.mem_cons.mp hf with rfl | hf
    · exact hsegments.newline_notMem_rest
    · exact hsegments.newline_notMem f hf
  · obtain ⟨_, _, -, -, hflatten⟩ := exists_segments (encode s)
    rw [hflatten, decode_encode]

/-- A character that is cut off by a newline, a surrogate and a byte that is never used, an empty
line, and a character that is cut off by the end. -/
example : decodedLines
      [0x61, 0xe2, 0x82, 0x0a, 0xed, 0xa0, 0x80, 0xff, 0x62, 0x0a, 0x0a, 0xc3, 0xa9, 0xf0, 0x9f] =
    ["a\ufffd\n".toList, "\ufffd\ufffd\ufffd\ufffdb\n".toList, ['\n'], "\u00e9\ufffd".toList] := by
  decide +kernel

end CrossCheck.Text
