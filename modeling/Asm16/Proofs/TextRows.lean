import Asm16.Proofs.Grammar
import Asm16.Proofs.Immediates
import Asm16.Proofs.Rows
import Mathlib.Data.List.DropRight

set_option autoImplicit false

namespace Asm16

namespace Text

theorem trimRight_eq (cs : List Char) : trimRight cs = cs.rdropWhile isBlank := rfl

theorem trimLeft_trimRight (cs : List Char) :
    trimLeft (trimRight (trimLeft cs)) = trimRight (trimLeft cs) := by
  obtain ⟨rest, parts⟩ := List.rdropWhile_prefix isBlank (trimLeft cs)
  rw [← trimRight_eq] at parts
  cases trimmed : trimRight (trimLeft cs) with
  | nil => rfl
  | cons c front =>
    -- The first character that is left is the one at which the blanks of the line end.
    have solid : isBlank c = false := by
      have first := List.head?_dropWhile_not isBlank cs
      rw [← trimLeft, ← parts, trimmed] at first
      exact first
    rw [trimLeft, List.dropWhile_cons_of_neg (by simp [solid])]

theorem trim_trim (s : String) : trim (trim s) = trim s := by
  simp only [trim, String.toList_ofList, trimLeft_trimRight]
  rw [trimRight_eq, trimRight_eq, List.rdropWhile_idempotent]

theorem trim_column (width : Nat) (s : String) : trim (column width s) = trim s := by
  have padded (count : Nat) : trim (s ++ String.ofList (List.replicate count ' ')) = trim s := by
    induction count with
    | zero => simp
    | succ count ih =>
      have longer := trim_append_blank (s.toList ++ List.replicate count ' ') ' ' rfl
      simpa [List.replicate_succ', String.ofList_append] using longer.trans (by simpa using ih)
  exact padded _

end Text

theorem isGap_of_blank (text : List Char) (blank : ∀ c ∈ text, Text.isBlank c = true) :
    isGap (String.ofList text) = true := by
  simp only [isGap, String.toList_ofList, List.all_eq_true]
  intro c member
  simp [isSeparator, blank c member]

theorem tokens_trim (line : String) : tokens (Text.trim line) = tokens line := by
  have front : ∀ c ∈ line.toList.takeWhile Text.isBlank, Text.isBlank c = true :=
    fun c member => List.mem_takeWhile_imp member
  have back : ∀ c ∈ (Text.trimLeft line.toList).rtakeWhile Text.isBlank, Text.isBlank c = true :=
    fun c member => List.mem_rtakeWhile_imp member
  have parts : line = String.ofList (line.toList.takeWhile Text.isBlank) ++ (Text.trim line ++
      String.ofList ((Text.trimLeft line.toList).rtakeWhile Text.isBlank)) := by
    rw [Text.trim, Text.trimRight_eq, ← String.ofList_append, List.rdropWhile_append_rtakeWhile,
      Text.trimLeft, ← String.ofList_append, List.takeWhile_append_dropWhile, String.ofList_toList]
  conv_rhs => rw [parts]
  rw [tokens_gap_front _ _ (isGap_of_blank _ front), tokens_gap_back _ _ (isGap_of_blank _ back)]

theorem tokens_column (width : Nat) (s : String) : tokens (Text.column width s) = tokens s := by
  apply tokens_gap_back
  apply isGap_of_blank
  intro c member
  rw [(List.mem_replicate.1 member).2]
  rfl

namespace Row

theorem ofLine_column (seq width : Nat) (line : String) :
    ofLine seq (Text.column width (Text.trim line)) = ofLine seq line := by
  apply ofLine_congr
  · rw [tokens_column, tokens_trim]
  · rw [Text.trim_column, Text.trim_trim]

section Read

variable (cs : List Char)

def readRest : List Char := (cs.dropWhile (· != '|')).drop 2

-- An error ends with a letter that is no hexadecimal digit.
def verdictLength : Nat := if cs.getLast? = some 'R' then 12 else 23

def readSource : String := String.ofList ((readRest cs).rdrop (2 + verdictLength cs))

end Read

def ofText (text : String) : Row :=
  ofLine (Text.splitNumber text.toList).1 (readSource text.toList)

section Back

variable (seq : Nat) (rest : List Char)

theorem splitNumber_column :
    (Text.splitNumber ((Text.column 4 (toString seq)).toList ++ '|' :: rest)).1 = seq := by
  have stop (count : Nat) :
      ∀ c ∈ (List.replicate count ' ' ++ '|' :: rest).head?, c.isDigit = false := by
    cases count <;> simp [List.replicate_succ]
  rw [Text.column, String.toList_append, String.toList_ofList, List.append_assoc,
    Text.splitNumber_repr seq _ (stop _)]

theorem readRest_column :
    readRest ((Text.column 4 (toString seq)).toList ++ '|' :: ' ' :: rest) = rest := by
  have before : ∀ c ∈ (Text.column 4 (toString seq)).toList, (c != '|') = true := by
    intro c member
    rw [Text.column, String.toList_append, List.mem_append, String.toList_ofList,
      List.mem_replicate] at member
    rcases member with digit | ⟨-, rfl⟩
    · have number := Immediate.isDigit_of_mem_repr seq c digit
      rw [bne_iff_ne]
      rintro rfl
      cases number
    · rfl
  rw [readRest, List.dropWhile_append_of_pos before]
  rfl

theorem verdictLength_verdict (front : List Char) (result : Except Rejection Encoding) :
    verdictLength (front ++ (verdict result).toList) = (verdict result).toList.length := by
  cases result with
  | ok e =>
    have last : (front ++ (verdict (.ok e)).toList).getLast? =
        some (Word.hexChar (e.word.nibble 0)) := by
      simp [verdict, Word.hex_toList]
    have digit : Word.hexChar (e.word.nibble 0) ≠ 'R' := by
      intro letter
      have member := Word.hexChar_mem _ (e.word.nibble_lt 0)
      rw [letter] at member
      exact absurd member (by decide)
    rw [verdictLength, last, if_neg (by simpa using digit)]
    simp [verdict, Word.bits, Word.hex, Word.size]
  | error rejection =>
    have last : (front ++ (verdict (.error rejection)).toList).getLast? = some 'R' := by
      simp [verdict, syntaxError]
    rw [verdictLength, last, if_pos rfl]
    simp [verdict, syntaxError]

theorem readSource_text (line : String) (result : Except Rejection Encoding) :
    readSource ((Text.column 4 (toString seq)).toList ++ '|' :: ' ' ::
      (line.toList ++ ("| " ++ verdict result).toList)) = line := by
  have front : (Text.column 4 (toString seq)).toList ++ '|' :: ' ' ::
      (line.toList ++ ("| " ++ verdict result).toList) =
        ((Text.column 4 (toString seq)).toList ++ '|' :: ' ' :: (line.toList ++ ['|', ' '])) ++
          (verdict result).toList := by
    simp
  have ending : 2 + (verdict result).toList.length = ("| " ++ verdict result).toList.length := by
    rw [String.toList_append, List.length_append]
    rfl
  rw [readSource, readRest_column, front, verdictLength_verdict, ending, List.rdrop]
  simp

end Back

theorem ofText_text (seq : Nat) (line : String) :
    ofText (ofLine seq line).text = ofLine seq line := by
  have spelled : (ofLine seq line).text.toList =
      (Text.column 4 (toString seq)).toList ++ '|' :: ' ' ::
        ((Text.column 21 (Text.trim line)).toList ++
          ("| " ++ verdict (Encoding.ofLine (expand line))).toList) := by
    rw [text_ofLine]
    simp
  rw [ofText, spelled, splitNumber_column, readSource_text, ofLine_column]

theorem text_lossless (seq other : Nat) (line more : String)
    (same : (ofLine seq line).text = (ofLine other more).text) :
    ofLine seq line = ofLine other more := by
  rw [← ofText_text seq line, same, ofText_text other more]

theorem long_row_lossless :
    (ofLine 12345 " a| SYNTAX ERROR | 0990").text = (ofLine 12345 "a| SYNTAX ERROR | 0990\t").text ∧
      ofLine 12345 " a| SYNTAX ERROR | 0990" = ofLine 12345 "a| SYNTAX ERROR | 0990\t" := by
  have same : (ofLine 12345 " a| SYNTAX ERROR | 0990").text =
      (ofLine 12345 "a| SYNTAX ERROR | 0990\t").text := by decide +kernel
  exact ⟨same, text_lossless 12345 12345 _ _ same⟩

end Row

end Asm16
