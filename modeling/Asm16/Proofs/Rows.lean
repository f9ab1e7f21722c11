import Asm16.Line.Report
import Asm16.Proofs.Spellings

set_option autoImplicit false

namespace Asm16

theorem Report.ofResult_row (row : Row) (result : Except Rejection Encoding) :
    (ofResult row result).row =
      match result with
      | .ok e => { row with binary := some e.word.bits, hex := some e.word.hex }
      | .error rejection => { row with error := some rejection.message } := by
  cases result with
  | ok e => simp only [ofResult, ofEncoding, Word.hexOfBits_bits]
  | error rejection => rfl

namespace Row

-- A shorthand and its expansion take the same way from here on.
theorem ofLine_eq (seq : Nat) (line : String) :
    ofLine seq line =
      let row : Row :=
        { seq, source := Text.trim line
          expanded := (Shorthand.ofLine? line).map Shorthand.expansion }
      match Encoding.ofLine (expand line) with
      | .ok e => { row with binary := some e.word.bits, hex := some e.word.hex }
      | .error rejection => { row with error := some rejection.message } := by
  unfold ofLine Report.ofLine expand
  cases Shorthand.ofLine? line with
  | none => simp only [Report.ofResult_row, Option.map_none]
  | some shorthand => simp only [Report.ofResult_row, Option.map_some]

theorem ofLine_hex (seq : Nat) (line : String) :
    (ofLine seq line).hex = (Encoding.ofLine (expand line)).toOption.map fun e => e.word.hex := by
  rw [ofLine_eq]
  cases Encoding.ofLine (expand line) <;> rfl

theorem ofLine_renumber (seq shift : Nat) (line : String) :
    ofLine (seq + shift) line = { ofLine seq line with seq := (ofLine seq line).seq + shift } := by
  cases encoded : Encoding.ofLine (expand line) <;> simp only [ofLine_eq, encoded]

theorem ofLine_seq (seq : Nat) (line : String) : (ofLine seq line).seq = seq := by
  rw [ofLine_eq]
  cases Encoding.ofLine (expand line) <;> rfl

theorem source_ofLine (seq : Nat) (line : String) : (ofLine seq line).source = Text.trim line := by
  cases encoded : Encoding.ofLine (expand line) <;> simp only [ofLine_eq, encoded]

theorem ofLine_expanded (seq : Nat) (line : String) :
    (ofLine seq line).expanded = (Shorthand.ofLine? line).map Shorthand.expansion := by
  cases encoded : Encoding.ofLine (expand line) <;> simp only [ofLine_eq, encoded]

def verdict : Except Rejection Encoding → String
  | .ok e => e.word.bits ++ " | " ++ e.word.hex
  | .error _ => syntaxError

theorem text_ofLine (seq : Nat) (line : String) :
    (ofLine seq line).text =
      Text.column 4 (toString seq) ++ "| " ++ Text.column 21 (Text.trim line) ++ "| " ++
        verdict (Encoding.ofLine (expand line)) := by
  rw [ofLine_eq]
  cases Encoding.ofLine (expand line) with
  | ok e => simp only [text, verdict]
  | error rejection => simp only [text, verdict]

end Row

theorem Encoding.ofLine_congr (line other : String) (same : tokens line = tokens other) :
    ofLine line = ofLine other := by
  unfold ofLine Invocation.ofLine?
  rw [same]

theorem Shorthand.ofLine_congr (line other : String) (same : tokens line = tokens other) :
    ofLine? line = ofLine? other := by
  unfold ofLine? Invocation.ofLine?
  rw [same]

theorem Encoding.ofLine_expand_congr (line other : String) (same : tokens line = tokens other) :
    ofLine (expand line) = ofLine (expand other) := by
  unfold expand
  rw [Shorthand.ofLine_congr line other same]
  cases Shorthand.ofLine? other with
  | none => exact ofLine_congr line other same
  | some shorthand => rfl

theorem Row.ofLine_source (seq : Nat) (line other : String) (same : tokens line = tokens other) :
    ofLine seq other = { ofLine seq line with source := Text.trim other } := by
  have encoded := Encoding.ofLine_expand_congr line other same
  cases result : Encoding.ofLine (expand other) <;>
    simp only [ofLine_eq, encoded, result, Shorthand.ofLine_congr line other same]

theorem Row.ofLine_congr (seq : Nat) (line other : String) (same : tokens line = tokens other)
    (trimmed : Text.trim line = Text.trim other) : ofLine seq line = ofLine seq other := by
  rw [ofLine_eq, ofLine_eq, Encoding.ofLine_expand_congr line other same, trimmed,
    Shorthand.ofLine_congr line other same]

section Trailing

variable (cs : List Char) (c : Char)

theorem tokens_append_separator (separates : isSeparator c.toUpper = true) :
    tokens (String.ofList (cs ++ [c])) = tokens (String.ofList cs) := by
  have split := List.splitOnP_append_cons (cs.map Char.toUpper) [] separates
  simp [tokens, Text.upper, split]

theorem trim_append_blank (blank : Text.isBlank c = true) :
    Text.trim (String.ofList (cs ++ [c])) = Text.trim (String.ofList cs) := by
  have left : Text.trimLeft (cs ++ [c]) =
      if (Text.trimLeft cs).isEmpty then [] else Text.trimLeft cs ++ [c] := by
    simp [Text.trimLeft, List.dropWhile_append, blank]
  simp only [Text.trim, String.toList_ofList, left]
  split
  · rename_i empty
    rw [List.isEmpty_iff.1 empty]
  · simp [Text.trimRight, Text.trimLeft, blank]

theorem allBlank_append_blank (blank : Text.isBlank c = true) :
    Text.allBlank (String.ofList (cs ++ [c])) = Text.allBlank (String.ofList cs) := by
  simp [Text.allBlank, blank]

end Trailing

end Asm16
