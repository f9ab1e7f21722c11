import Asm16.Proofs.Immediates
import Asm16.Proofs.Lines
import Asm16.Word.Basic

set_option autoImplicit false

namespace Asm16

/-- A check that failed. -/
inductive Trap where
  | pack (fault : PackFault)
  | missingOperand (place : Nat)
  | cut (offset : Nat)
  | negation
  | unreadable (fault : BitsFault)
  deriving DecidableEq, Repr

namespace Text

def byteLength (cs : List Char) : Nat := (cs.map Char.utf8Size).sum

-- The two parts of a text at a byte offset; none inside a character or beyond the end.
def splitAtByte : Nat → List Char → Option (List Char × List Char)
  | 0, cs => some ([], cs)
  | _ + 1, [] => none
  | offset + 1, c :: cs =>
      if c.utf8Size ≤ offset + 1 then
        (splitAtByte (offset + 1 - c.utf8Size) cs).map fun parts => (c :: parts.1, parts.2)
      else none

theorem splitAtByte_append (front back : List Char) :
    splitAtByte (byteLength front) (front ++ back) = some (front, back) := by
  induction front with
  | nil => cases back <;> rfl
  | cons c front ih =>
    have size : byteLength (c :: front) = c.utf8Size + byteLength front := by simp [byteLength]
    obtain ⟨less, positive⟩ := Nat.exists_eq_succ_of_ne_zero (Nat.ne_of_gt c.utf8Size_pos)
    have offset : byteLength (c :: front) = less + byteLength front + 1 := by omega
    rw [offset, List.cons_append, splitAtByte, if_pos (by omega)]
    have rest : less + byteLength front + 1 - c.utf8Size = byteLength front := by omega
    rw [rest, ih]
    rfl

def checkedSplit (offset : Nat) (cs : List Char) : Except Trap (List Char × List Char) :=
  match splitAtByte offset cs with
  | some parts => .ok parts
  | none => .error (.cut offset)

theorem checkedSplit_append (front back : List Char) :
    checkedSplit (byteLength front) (front ++ back) = .ok (front, back) := by
  rw [checkedSplit, splitAtByte_append]

example : checkedSplit 1 "é-".toList = .error (.cut 1) := rfl

theorem utf8_cons (text : String) (c : Char) (cs : List Char) (shape : text.toList = c :: cs) :
    utf8 text = String.utf8EncodeChar c ++ encodeText cs := by
  rw [utf8_eq_encodeText, shape]
  rfl

end Text

namespace Immediate

def minus : UInt8 := 45

def plus : UInt8 := 43

def checkedNegation (v : Int64) : Except Trap Int64 :=
  if v = Int64.minValue then .error .negation else .ok (-v)

def digitsEnd (cs : List Char) : Nat := Text.byteLength (cs.takeWhile Char.isDigit)

def checkedMagnitude (cs : List Char) : Except Trap (Option Int64) :=
  if digitsEnd cs = 0 then .ok none
  else (Text.checkedSplit (digitsEnd cs) cs).map fun parts => wide? parts.1

def checkedSigned (token : String) : Except Trap (Option Int64) :=
  match Text.utf8 token with
  | [] => .ok none
  | first :: _ =>
      if first = minus then do
        let parts ← Text.checkedSplit 1 token.toList
        match ← checkedMagnitude parts.2 with
        | none => .ok none
        | some v => (checkedNegation v).map some
      else if first = plus then do
        let parts ← Text.checkedSplit 1 token.toList
        checkedMagnitude parts.2
      else checkedMagnitude token.toList

def checked (token : String) : Except Trap (Option Int32) :=
  (checkedSigned token).map fun v => v.bind narrow?

theorem checkedMagnitude_eq (cs : List Char) : checkedMagnitude cs = .ok (magnitude? cs) := by
  have split := Text.checkedSplit_append (cs.takeWhile Char.isDigit) (cs.dropWhile Char.isDigit)
  rw [List.takeWhile_append_dropWhile] at split
  rw [magnitude_eq, checkedMagnitude, digitsEnd, split]
  by_cases empty : cs.takeWhile Char.isDigit = []
  · rw [if_pos empty, empty]
    rfl
  · have positive : Text.byteLength (cs.takeWhile Char.isDigit) ≠ 0 := by
      obtain ⟨c, digits, shape⟩ := List.exists_cons_of_ne_nil empty
      have size := c.utf8Size_pos
      simp [shape, Text.byteLength]
      omega
    rw [if_neg empty, if_neg positive]
    rfl

theorem checkedNegation_magnitude (cs : List Char) (v : Int64) (read : magnitude? cs = some v) :
    checkedNegation v = .ok (-v) := by
  have nonneg := magnitude_nonneg cs v read
  have other : v ≠ Int64.minValue := by
    rintro rfl
    rw [Int64.toInt_minValue] at nonneg
    omega
  rw [checkedNegation, if_neg other]

example : checkedNegation Int64.minValue = .error .negation := rfl

theorem checkedSigned_minus (token : String) (cs : List Char) (shape : token.toList = '-' :: cs) :
    checkedSigned token = .ok (signed? ('-' :: cs)) := by
  have split : Text.checkedSplit 1 ('-' :: cs) = .ok (['-'], cs) :=
    Text.checkedSplit_append ['-'] cs
  have bytes : Text.utf8 token = minus :: Text.encodeText cs := Text.utf8_cons token '-' cs shape
  simp only [checkedSigned, bytes, if_true, shape, split, checkedMagnitude_eq, bind, Except.bind]
  cases read : magnitude? cs with
  | none => simp [signed?, read]
  | some v => simp [signed?, read, checkedNegation_magnitude cs v read, Except.map]

theorem checkedSigned_plus (token : String) (cs : List Char) (shape : token.toList = '+' :: cs) :
    checkedSigned token = .ok (signed? ('+' :: cs)) := by
  have split : Text.checkedSplit 1 ('+' :: cs) = .ok (['+'], cs) :=
    Text.checkedSplit_append ['+'] cs
  have bytes : Text.utf8 token = plus :: Text.encodeText cs := Text.utf8_cons token '+' cs shape
  have other : plus ≠ minus := by decide
  simp only [checkedSigned, bytes, if_neg other, if_true, shape, split, checkedMagnitude_eq, bind,
    Except.bind, signed?]

theorem checkedSigned_eq (token : String) :
    checkedSigned token = .ok (signed? token.toList) := by
  cases shape : token.toList with
  | nil =>
    have bytes : Text.utf8 token = [] := by rw [Text.utf8_eq_encodeText, shape]; rfl
    simp only [checkedSigned, bytes]
    rfl
  | cons c cs =>
    by_cases isMinus : c = '-'
    · subst isMinus
      exact checkedSigned_minus token cs shape
    · by_cases isPlus : c = '+'
      · subst isPlus
        exact checkedSigned_plus token cs shape
      · -- A byte of any other character is neither sign, be it the first of several.
        obtain ⟨first, rest, bytes⟩ := List.exists_cons_of_ne_nil
          (String.utf8EncodeChar_ne_nil (c := c))
        have sign (b : UInt8) (d : Char) (ascii : b.toNat < 128) (code : d.toNat = b.toNat)
            (other : c ≠ d) : first ≠ b := by
          rintro rfl
          have member : first ∈ String.utf8EncodeChar c := by simp [bytes]
          exact other (Char.toNat_inj.1
            ((Text.ascii_mem_encodeChar first c ascii member).trans code.symm))
        have whole : Text.utf8 token = first :: (rest ++ Text.encodeText cs) := by
          rw [Text.utf8_cons token c cs shape, bytes]
          rfl
        simp only [checkedSigned, whole, if_neg (sign minus '-' (by decide) rfl isMinus),
          if_neg (sign plus '+' (by decide) rfl isPlus), checkedMagnitude_eq, shape,
          signed_unsigned c cs isMinus isPlus]

theorem checked_eq (token : String) : checked token = .ok (ofToken? token) := by
  rw [checked, checkedSigned_eq]
  rfl

end Immediate

end Asm16
