import Asm16.Proofs.Tokens
import Mathlib.Data.List.TakeWhile

set_option autoImplicit false

namespace Asm16

namespace Immediate

theorem wide_toInt (digits : List Char) :
    (wide? digits).map Int64.toInt =
      if Nat.ofDigitChars 10 digits 0 < 2 ^ 63 then some (Nat.ofDigitChars 10 digits 0 : Int)
      else none := by
  unfold wide?
  by_cases small : Nat.ofDigitChars 10 digits 0 < 2 ^ 63
  · have literal : Nat.ofDigitChars 10 digits 0 < 0x8000000000000000 := small
    simp only [if_pos small, if_pos literal, Option.map_some, Int64.toInt_ofNat_of_lt small]
  · have literal : ¬ Nat.ofDigitChars 10 digits 0 < 0x8000000000000000 := small
    simp only [if_neg small, if_neg literal, Option.map_none]

theorem narrow_toInt (v : Int64) :
    (narrow? v).map Int32.toInt =
      if -2 ^ 31 ≤ v.toInt ∧ v.toInt < 2 ^ 31 then some v.toInt else none := by
  have least : Int32.minValue.toInt = -2 ^ 31 := rfl
  have greatest : Int32.maxValue.toInt = 2 ^ 31 - 1 := rfl
  unfold narrow?
  rw [least, greatest]
  by_cases fits : -2 ^ 31 ≤ v.toInt ∧ v.toInt < 2 ^ 31
  · have closed : -2 ^ 31 ≤ v.toInt ∧ v.toInt ≤ 2 ^ 31 - 1 := by omega
    rw [if_pos fits, if_pos closed, Option.map_some, Int64.toInt_toInt32, Int.bmod_eq_of_le] <;>
      omega
  · have closed : ¬ (-2 ^ 31 ≤ v.toInt ∧ v.toInt ≤ 2 ^ 31 - 1) := by omega
    rw [if_neg fits, if_neg closed, Option.map_none]

theorem signed_unsigned (c : Char) (cs : List Char) (minus : c ≠ '-') (plus : c ≠ '+') :
    signed? (c :: cs) = magnitude? (c :: cs) := by
  unfold signed?
  split <;> simp_all

theorem magnitude_eq (cs : List Char) :
    magnitude? cs =
      if cs.takeWhile Char.isDigit = [] then none else wide? (cs.takeWhile Char.isDigit) := by
  unfold magnitude?
  cases cs.takeWhile Char.isDigit <;> simp

theorem magnitude_nonneg (cs : List Char) (v : Int64) (read : magnitude? cs = some v) :
    0 ≤ v.toInt := by
  have wide := wide_toInt (cs.takeWhile Char.isDigit)
  rw [magnitude_eq] at read
  by_cases empty : cs.takeWhile Char.isDigit = []
  · rw [if_pos empty] at read
    cases read
  · rw [if_neg empty] at read
    rw [read, Option.map_some] at wide
    split at wide
    · rw [Option.some.inj wide]
      exact Int.natCast_nonneg _
    · cases wide

theorem isDigit_of_mem_repr (n : Nat) (c : Char) (member : c ∈ n.repr.toList) :
    c.isDigit = true := by
  rw [Nat.repr_eq_ofList_toDigits, String.toList_ofList] at member
  exact Nat.isDigit_of_mem_toDigits (by decide) (by decide) member

theorem toList_repr_ne_nil (n : Nat) : n.repr.toList ≠ [] := by
  rw [Nat.repr_eq_ofList_toDigits, String.toList_ofList]
  exact Nat.toDigits_ne_nil

theorem repr_isToken (n : Nat) : IsToken n.repr := by
  have range (c : Char) (member : c ∈ n.repr.toList) : 48 ≤ c.toNat ∧ c.toNat ≤ 57 :=
    Char.isDigit_iff_toNat.1 (isDigit_of_mem_repr n c member)
  constructor
  · exact toList_repr_ne_nil n
  · intro c member
    have digit := range c member
    have comma : c ≠ ',' := by
      rintro rfl
      exact absurd digit (by decide)
    simp [isSeparator, Text.isBlank, comma]
    omega
  · intro c member
    have digit := range c member
    rw [← Char.toNat_inj, toUpper_toNat, if_neg (by omega)]

theorem signed_repr (n : Nat) : signed? n.repr.toList = wide? n.repr.toList := by
  have front : n.repr.toList.takeWhile Char.isDigit = n.repr.toList :=
    List.takeWhile_eq_self_iff.2 (isDigit_of_mem_repr n)
  have magnitude : magnitude? n.repr.toList = wide? n.repr.toList := by
    rw [magnitude_eq, front, if_neg (toList_repr_ne_nil n)]
  cases digits : n.repr.toList with
  | nil => exact absurd digits (toList_repr_ne_nil n)
  | cons c cs =>
    have digit : c.isDigit = true := isDigit_of_mem_repr n c (by rw [digits]; simp)
    rw [signed_unsigned c cs (by rintro rfl; cases digit) (by rintro rfl; cases digit), ← digits,
      magnitude]

theorem ofDigitChars_repr (n : Nat) : Nat.ofDigitChars 10 n.repr.toList 0 = n := by
  rw [Nat.repr_eq_ofList_toDigits, String.toList_ofList, Nat.ofDigitChars_ten_toDigits]

theorem ofToken_repr (n : Nat) (small : n < 2 ^ 31) :
    (ofToken? n.repr).map Int32.toInt = some (n : Int) := by
  have wide := wide_toInt n.repr.toList
  rw [ofDigitChars_repr, if_pos (by omega)] at wide
  obtain ⟨v, read, value⟩ := Option.map_eq_some_iff.1 wide
  rw [ofToken?, signed_repr, read, Option.bind_some, narrow_toInt, value, if_pos (by omega)]

end Immediate

namespace Text

def splitNumber (cs : List Char) : Nat × List Char :=
  (Nat.ofDigitChars 10 (cs.takeWhile Char.isDigit) 0, cs.dropWhile Char.isDigit)

theorem splitNumber_repr (n : Nat) (rest : List Char)
    (stop : ∀ c ∈ rest.head?, c.isDigit = false) :
    splitNumber ((toString n).toList ++ rest) = (n, rest) := by
  have digits : ∀ c ∈ (toString n).toList, c.isDigit = true := Immediate.isDigit_of_mem_repr n
  rw [splitNumber, List.takeWhile_append_of_pos digits, List.dropWhile_append_of_pos digits]
  cases rest with
  | nil => simp
  | cons c rest => simp [stop c rfl]

end Text

end Asm16
