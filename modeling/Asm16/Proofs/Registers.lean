import Asm16.Line.Encoding
import Mathlib.Tactic

set_option autoImplicit false

namespace Asm16

theorem toUpper_toNat (c : Char) :
    c.toUpper.toNat = if 97 ≤ c.toNat ∧ c.toNat ≤ 122 then c.toNat - 32 else c.toNat := by
  have letters : ('a'.val ≤ c.val ∧ c.val ≤ 'z'.val) ↔ (97 ≤ c.toNat ∧ c.toNat ≤ 122) := Iff.rfl
  unfold Char.toUpper
  by_cases small : 97 ≤ c.toNat ∧ c.toNat ≤ 122
  · rw [dif_pos (letters.2 small), if_pos small]
    change (c.val + ('A'.val - 'a'.val)).toNat = _
    rw [UInt32.toNat_add, Char.toNat_val]
    change (c.toNat + 4294967264) % 2 ^ 32 = _
    omega
  · rw [dif_neg (fun h => small (letters.1 h)), if_neg small]

theorem toUpper_eq_below_letters (c d : Char) (below : d.toNat < 65) :
    c.toUpper = d ↔ c = d := by
  rw [← Char.toNat_inj, ← Char.toNat_inj, toUpper_toNat]
  split <;> omega

theorem toUpper_eq_r (c : Char) : c.toUpper = 'R' ↔ c = 'R' ∨ c = 'r' := by
  rw [← Char.toNat_inj, ← Char.toNat_inj, ← Char.toNat_inj, toUpper_toNat]
  change _ = 82 ↔ c.toNat = 82 ∨ c.toNat = 114
  split <;> omega

def registerCode (token : String) : Nat :=
  match token.toList with
  | [letter, digit] =>
      if (letter = 'R' ∨ letter = 'r') ∧ '0' ≤ digit ∧ digit ≤ '7' then digit.toNat - '0'.toNat
      else 0
  | _ => 0

namespace Register

theorem mem_all (r : Register) : r ∈ all := by
  obtain ⟨code⟩ := r
  exact List.mem_map.2 ⟨code, List.mem_finRange code, rfl⟩

theorem digit_toNat (r : Register) : (Nat.digitChar r.code.val).toNat = 48 + r.code.val :=
  Nat.toNat_digitChar_of_lt_ten (by omega)

theorem name_eq_upper (r : Register) (token : String) :
    r.name = Text.upper token ↔
      ∃ letter, (letter = 'R' ∨ letter = 'r') ∧
        token.toList = [letter, Nat.digitChar r.code.val] := by
  have digit (c : Char) : c.toUpper = Nat.digitChar r.code.val ↔ c = Nat.digitChar r.code.val :=
    toUpper_eq_below_letters c _ (by rw [digit_toNat]; omega)
  unfold name Text.upper
  rw [String.ofList_inj, eq_comm]
  constructor
  · intro same
    obtain ⟨letter, rest, shape, upperLetter, upperRest⟩ := List.map_eq_cons_iff.1 same
    obtain ⟨last, none, restShape, upperLast, empty⟩ := List.map_eq_cons_iff.1 upperRest
    rw [List.map_eq_nil_iff.1 empty] at restShape
    exact ⟨letter, (toUpper_eq_r letter).1 upperLetter,
      by rw [shape, restShape, (digit last).1 upperLast]⟩
  · rintro ⟨letter, isLetter, shape⟩
    simp [shape, (toUpper_eq_r letter).2 isLetter, (digit _).2 rfl]

theorem ofName_some (token : String) (r : Register) (found : ofName? token = some r) :
    r.name = Text.upper token := by
  simpa using List.find?_some found

theorem ofName_none (token : String) (missing : ofName? token = none) (r : Register) :
    r.name ≠ Text.upper token := by
  simpa using List.find?_eq_none.1 missing r (mem_all r)

theorem digit_bounds (r : Register) :
    '0' ≤ Nat.digitChar r.code.val ∧ Nat.digitChar r.code.val ≤ '7' := by
  obtain ⟨code⟩ := r
  fin_cases code <;> decide

theorem exists_of_digit (digit : Char) (low : '0' ≤ digit) (high : digit ≤ '7') :
    ∃ r : Register, Nat.digitChar r.code.val = digit := by
  have range : 48 ≤ digit.toNat ∧ digit.toNat ≤ 55 := ⟨low, high⟩
  refine ⟨⟨⟨digit.toNat - 48, by omega⟩⟩, ?_⟩
  rw [← Char.toNat_inj, digit_toNat]
  change 48 + (digit.toNat - 48) = digit.toNat
  omega

end Register

def NamesRegister (token : String) : Prop :=
  ∃ letter digit, token.toList = [letter, digit] ∧ (letter = 'R' ∨ letter = 'r') ∧
    '0' ≤ digit ∧ digit ≤ '7'

theorem Register.ofName_eq_none (token : String) :
    ofName? token = none ↔ ¬ NamesRegister token := by
  constructor
  · rintro missing ⟨letter, digit, shape, isLetter, low, high⟩
    -- A token of the right shape would be the name of the register with its digit.
    obtain ⟨r, same⟩ := exists_of_digit digit low high
    exact ofName_none token missing r
      ((name_eq_upper r token).2 ⟨letter, isLetter, by rw [shape, same]⟩)
  · intro unnamed
    cases found : ofName? token with
    | none => rfl
    | some r =>
      obtain ⟨letter, isLetter, shape⟩ := (name_eq_upper r token).1 (ofName_some token r found)
      exact absurd ⟨letter, _, shape, isLetter, r.digit_bounds⟩ unnamed

theorem registerOf_code (token : String) : (registerOf token).code.val = registerCode token := by
  unfold registerOf
  cases found : Register.ofName? token with
  | some r =>
    obtain ⟨letter, isLetter, shape⟩ :=
      (Register.name_eq_upper r token).1 (Register.ofName_some token r found)
    simp only [registerCode, shape, Option.getD_some, if_pos (And.intro isLetter r.digit_bounds),
      Register.digit_toNat]
    change r.code.val = 48 + r.code.val - 48
    omega
  | none =>
    have unnamed := (Register.ofName_eq_none token).1 found
    change 0 = registerCode token
    unfold registerCode
    split
    · rename_i letter digit shape
      split
      · rename_i named
        exact absurd ⟨letter, digit, shape, named⟩ unnamed
      · rfl
    · rfl

end Asm16
