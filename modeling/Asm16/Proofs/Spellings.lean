import Asm16.Word.Basic
import Mathlib.Tactic

set_option autoImplicit false

namespace Asm16.Word

def bitChars (x count : Nat) : List Char :=
  (List.range count).reverse.map fun i => bitChar (x.testBit i)

theorem bits_toList (w : Word) : w.bits.toList = bitChars w.raw.toNat size := by
  simp [bits, bitChars, bit]

theorem isBitChar_bitChar (b : Bool) : isBitChar (bitChar b) = true := by
  cases b <;> rfl

theorem isBitChar_of_mem (x count : Nat) (c : Char) (member : c ∈ bitChars x count) :
    isBitChar c = true := by
  obtain ⟨i, -, rfl⟩ := List.mem_map.1 member
  exact isBitChar_bitChar _

theorem bits_digits (w : Word) :
    w.bits.length = 16 ∧ ∀ c ∈ w.bits.toList, c = '0' ∨ c = '1' := by
  refine ⟨by simp [bits, size], ?_⟩
  intro c member
  rw [bits_toList] at member
  simpa [isBitChar] using isBitChar_of_mem _ _ c member

theorem bitChars_succ (x count : Nat) :
    bitChars x (count + 1) = bitChar (x.testBit count) :: bitChars x count := by
  simp [bitChars, List.range_succ]

theorem bitChars_mod (x count : Nat) : bitChars (x % 2 ^ count) count = bitChars x count := by
  apply List.map_congr_left
  intro i member
  have inside : i < count := List.mem_range.1 (List.mem_reverse.1 member)
  simp [Nat.testBit_mod_two_pow, inside]

theorem bitChars_add (x top low : Nat) :
    bitChars x (top + low) = bitChars (x / 2 ^ low) top ++ bitChars x low := by
  induction top with
  | zero => simp [bitChars]
  | succ top ih =>
    have shifted : (x / 2 ^ low).testBit top = x.testBit (top + low) := Nat.testBit_div_two_pow x top
    rw [Nat.add_right_comm, bitChars_succ, bitChars_succ, ih, shifted, List.cons_append]

theorem bitChars_last (x count : Nat) :
    bitChars x (count + 1) = bitChars (x / 2) count ++ [Nat.digitChar (x % 2)] := by
  have digit : bitChar (x.testBit 0) = Nat.digitChar (x % 2) := by
    rcases Nat.mod_two_eq_zero_or_one x with even | odd
    · simp [even, bitChar]
    · simp [odd, bitChar]
  rw [bitChars_add, Nat.pow_one, ← digit]
  rfl

theorem foldl_bitChars (x count value : Nat) :
    (bitChars x count).foldl (fun value c => 2 * value + if c = '1' then 1 else 0) value =
      value * 2 ^ count + x % 2 ^ count := by
  induction count generalizing value with
  | zero => simp [bitChars, Nat.mod_one]
  | succ count ih =>
    have digit : (if bitChar (x.testBit count) = '1' then 1 else 0) = x / 2 ^ count % 2 := by
      rw [Nat.testBit_eq_decide_div_mod_eq]
      rcases Nat.mod_two_eq_zero_or_one (x / 2 ^ count) with even | odd
      · simp [even, bitChar]
      · simp [odd, bitChar]
    rw [bitChars_succ, List.foldl_cons, ih, digit, Nat.mod_pow_succ, Nat.pow_succ]
    ring

theorem bitsValue_bits (w : Word) : bitsValue w.bits.toList = w.raw.toNat := by
  rw [bits_toList, bitsValue, foldl_bitChars, Nat.zero_mul, Nat.zero_add]
  exact Nat.mod_eq_of_lt w.raw.toNat_lt

theorem ofBits_bits (w : Word) : ofBits w.bits = .ok w := by
  have length : w.bits.length = size := by
    simp [bits]
  have digits : w.bits.toList.find? (!isBitChar ·) = none := by
    rw [List.find?_eq_none, bits_toList]
    intro c member
    simp [isBitChar_of_mem _ _ c member]
  simp [ofBits, length, digits, bitsValue_bits]

theorem hexOfBits_bits (w : Word) : hexOfBits w.bits = .ok w.hex := by
  rw [hexOfBits, ofBits_bits]
  rfl

def hexDigits : List Char := "0123456789ABCDEF".toList

def hexValue (text : String) : Nat :=
  text.toList.foldl (fun value c => 16 * value + hexDigits.idxOf c) 0

theorem idxOf_hexChar (n : Nat) (digit : n < 16) : hexDigits.idxOf (hexChar n) = n := by
  interval_cases n <;> rfl

theorem hexChar_mem (n : Nat) (digit : n < 16) : hexChar n ∈ hexDigits := by
  rw [← List.idxOf_lt_length_iff, idxOf_hexChar n digit]
  exact digit

theorem nibble_lt (w : Word) (i : Nat) : w.nibble i < 16 := Nat.mod_lt _ (by decide)

theorem hex_toList (w : Word) :
    w.hex.toList =
      [hexChar (w.nibble 3), hexChar (w.nibble 2), hexChar (w.nibble 1), hexChar (w.nibble 0)] := by
  simp [hex, List.range_succ]

theorem mem_hexDigits_of_mem_hex (w : Word) (c : Char) (member : c ∈ w.hex.toList) :
    c ∈ hexDigits := by
  simp only [hex_toList, List.mem_cons, List.not_mem_nil, or_false] at member
  rcases member with rfl | rfl | rfl | rfl <;> exact hexChar_mem _ (nibble_lt w _)

theorem hexValue_hex (w : Word) : hexValue w.hex = w.raw.toNat := by
  have bound : w.raw.toNat < 65536 := w.raw.toNat_lt
  simp only [hexValue, hex_toList, List.foldl_cons, List.foldl_nil, idxOf_hexChar _ (nibble_lt w _)]
  simp only [nibble, Nat.shiftRight_eq_div_pow]
  omega

end Asm16.Word
