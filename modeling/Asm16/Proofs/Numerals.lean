import Asm16.Proofs.Immediates
import Mathlib.Data.Nat.Digits.Defs

set_option autoImplicit false

namespace Asm16.Immediate

inductive Sign where
  | none
  | plus
  | minus
  deriving DecidableEq, Repr

namespace Sign

def chars : Sign → List Char
  | .none => []
  | .plus => ['+']
  | .minus => ['-']

def apply : Sign → Int → Int
  | .none, n => n
  | .plus, n => n
  | .minus, n => -n

end Sign

def decimal (digits : List Char) : Nat :=
  Nat.ofDigits 10 (digits.reverse.map fun c => c.toNat - '0'.toNat)

theorem decimal_cons (c : Char) (digits : List Char) :
    decimal (c :: digits) = (c.toNat - '0'.toNat) * 10 ^ digits.length + decimal digits := by
  simp [decimal, Nat.ofDigits_append]
  ring

-- Digits are read from the front, so what was read before them is shifted by all of them.
theorem ofDigitChars_decimal (digits : List Char) (before : Nat) :
    Nat.ofDigitChars 10 digits before = before * 10 ^ digits.length + decimal digits := by
  induction digits generalizing before with
  | nil => simp [decimal]
  | cons c digits ih =>
    rw [Nat.ofDigitChars_cons, ih, decimal_cons, List.length_cons]
    ring

structure Numeral where
  sign : Sign
  digits : List Char
  rest : List Char
  nonempty : digits ≠ []
  isDigit : ∀ c ∈ digits, c.isDigit = true
  ends : ∀ c ∈ rest.head?, c.isDigit = false

namespace Numeral

def chars (x : Numeral) : List Char := x.sign.chars ++ x.digits ++ x.rest

def value (x : Numeral) : Int := x.sign.apply (decimal x.digits)

def ofChars (sign : Sign) (cs : List Char) (nonempty : cs.takeWhile Char.isDigit ≠ []) :
    Numeral where
  sign := sign
  digits := cs.takeWhile Char.isDigit
  rest := cs.dropWhile Char.isDigit
  nonempty := nonempty
  isDigit := fun _ => List.mem_takeWhile_imp
  ends := by
    intro c first
    have stops := List.head?_dropWhile_not Char.isDigit cs
    rw [Option.mem_def.1 first] at stops
    exact stops

theorem chars_ofChars (sign : Sign) (cs : List Char) (nonempty : cs.takeWhile Char.isDigit ≠ []) :
    (ofChars sign cs nonempty).chars = sign.chars ++ cs := by
  simp [chars, ofChars]

theorem takeWhile_digits (x : Numeral) :
    (x.digits ++ x.rest).takeWhile Char.isDigit = x.digits := by
  have stops : x.rest.takeWhile Char.isDigit = [] := by
    cases rest : x.rest with
    | nil => rfl
    | cons c cs => simp [x.ends c (by simp [rest])]
  rw [List.takeWhile_append_of_pos x.isDigit, stops, List.append_nil]

theorem magnitude_toInt (x : Numeral) :
    (magnitude? (x.digits ++ x.rest)).map Int64.toInt =
      if decimal x.digits < 2 ^ 63 then some (decimal x.digits : Int) else none := by
  rw [magnitude_eq, takeWhile_digits, if_neg x.nonempty, wide_toInt, ofDigitChars_decimal]
  simp

end Numeral

theorem neg_toInt (v : Int64) (nonneg : 0 ≤ v.toInt) : (-v).toInt = -v.toInt := by
  have bound : v.toInt < 2 ^ 63 := v.toInt_lt
  rw [Int64.toInt_neg, Int.bmod_eq_of_le] <;> omega

theorem negated_toInt (cs : List Char) :
    ((magnitude? cs).map (-·)).map Int64.toInt = ((magnitude? cs).map Int64.toInt).map (-·) := by
  cases read : magnitude? cs with
  | none => rfl
  | some v => simp [neg_toInt v (magnitude_nonneg cs v read)]

theorem narrowed_toInt (v : Option Int64) :
    (v.bind narrow?).map Int32.toInt =
      (v.map Int64.toInt).bind fun n => if -2 ^ 31 ≤ n ∧ n < 2 ^ 31 then some n else none := by
  cases v with
  | none => rfl
  | some v => exact narrow_toInt v

namespace Numeral

variable (x : Numeral)

theorem signed_toInt :
    (signed? x.chars).map Int64.toInt =
      if decimal x.digits < 2 ^ 63 then some x.value else none := by
  have magnitude := x.magnitude_toInt
  cases sign : x.sign with
  | none =>
    obtain ⟨c, digits, shape⟩ := List.exists_cons_of_ne_nil x.nonempty
    have digit : c.isDigit = true := x.isDigit c (by simp [shape])
    have unsigned : signed? x.chars = magnitude? (x.digits ++ x.rest) := by
      simp only [chars, sign, Sign.chars, List.nil_append, shape, List.cons_append]
      apply signed_unsigned
      · rintro rfl
        cases digit
      · rintro rfl
        cases digit
    simp only [unsigned, magnitude, value, sign, Sign.apply]
  | plus =>
    have unsigned : signed? x.chars = magnitude? (x.digits ++ x.rest) := by
      simp [chars, sign, Sign.chars, signed?]
    simp only [unsigned, magnitude, value, sign, Sign.apply]
  | minus =>
    have negated : signed? x.chars = (magnitude? (x.digits ++ x.rest)).map (-·) := by
      simp [chars, sign, Sign.chars, signed?]
    simp only [negated, negated_toInt, magnitude, value, sign, Sign.apply]
    split <;> rfl

-- A number beyond sixty-four bits is beyond thirty-two, so the second check alone decides.
theorem ofToken_toInt (token : String) (spelled : token.toList = x.chars) :
    (ofToken? token).map Int32.toInt =
      if -2 ^ 31 ≤ x.value ∧ x.value ≤ 2 ^ 31 - 1 then some x.value else none := by
  rw [ofToken?, spelled, narrowed_toInt, signed_toInt]
  by_cases wide : decimal x.digits < 2 ^ 63
  · simp only [if_pos wide, Option.bind_some, Int.le_sub_one_iff]
  · have outside : ¬ (-2 ^ 31 ≤ x.value ∧ x.value ≤ 2 ^ 31 - 1) := by
      have huge : (2 ^ 63 : Int) ≤ decimal x.digits := by
        exact_mod_cast Nat.le_of_not_lt wide
      unfold value
      cases x.sign <;> simp only [Sign.apply] <;> omega
    rw [if_neg wide, if_neg outside]
    rfl

end Numeral

theorem exists_numeral (token : String) (v : Int32) (read : ofToken? token = some v) :
    ∃ x : Numeral, token.toList = x.chars := by
  obtain ⟨w, signed, -⟩ := Option.bind_eq_some_iff.1 read
  have leads (cs : List Char) (u : Int64) (magnitude : magnitude? cs = some u) :
      cs.takeWhile Char.isDigit ≠ [] := by
    intro empty
    rw [magnitude_eq, if_pos empty] at magnitude
    cases magnitude
  unfold signed? at signed
  split at signed
  · rename_i cs shape
    obtain ⟨u, magnitude, -⟩ := Option.map_eq_some_iff.1 signed
    exact ⟨.ofChars .minus cs (leads cs u magnitude), by rw [Numeral.chars_ofChars, shape]; rfl⟩
  · rename_i cs shape
    exact ⟨.ofChars .plus cs (leads cs w signed), by rw [Numeral.chars_ofChars, shape]; rfl⟩
  · exact ⟨.ofChars .none _ (leads _ w signed), by rw [Numeral.chars_ofChars]; rfl⟩

theorem ofToken_eq_some (token : String) (n : Int) :
    (ofToken? token).map Int32.toInt = some n ↔
      ∃ x : Numeral, token.toList = x.chars ∧ x.value = n ∧ -2 ^ 31 ≤ n ∧ n ≤ 2 ^ 31 - 1 := by
  constructor
  · intro read
    obtain ⟨v, accepted, -⟩ := Option.map_eq_some_iff.1 read
    obtain ⟨x, spelled⟩ := exists_numeral token v accepted
    rw [x.ofToken_toInt token spelled] at read
    split_ifs at read with fits
    cases read
    exact ⟨x, spelled, rfl, fits⟩
  · rintro ⟨x, spelled, rfl, fits⟩
    rw [x.ofToken_toInt token spelled, if_pos fits]

/-- A token is an immediate exactly if a numeral spells it whose value thirty-two bits with a sign
hold. -/
theorem immediate_exact (token : String) :
    (∀ n : Int, (ofToken? token).map Int32.toInt = some n ↔
      ∃ x : Numeral, token.toList = x.chars ∧ x.value = n ∧ -2 ^ 31 ≤ n ∧ n ≤ 2 ^ 31 - 1) ∧
    (ofToken? token = none ↔
      ¬ ∃ x : Numeral, token.toList = x.chars ∧ -2 ^ 31 ≤ x.value ∧ x.value ≤ 2 ^ 31 - 1) := by
  refine ⟨ofToken_eq_some token, ?_⟩
  constructor
  · rintro missing ⟨x, spelled, fits⟩
    have read := (ofToken_eq_some token x.value).2 ⟨x, spelled, rfl, fits⟩
    simp [missing] at read
  · intro unspelled
    cases read : ofToken? token with
    | none => rfl
    | some v =>
      obtain ⟨x, spelled, same, fits⟩ := (ofToken_eq_some token v.toInt).1 (by rw [read]; rfl)
      rw [← same] at fits
      exact absurd ⟨x, spelled, fits⟩ unspelled

example : (ofToken? "-0002147483648X").map Int32.toInt = some (-2 ^ 31) ∧
    ofToken? "2147483648" = none ∧ ofToken? "+-1" = none := by decide

end Asm16.Immediate
