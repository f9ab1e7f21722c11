import Asm16.Line.Encoding
import Mathlib.Tactic

set_option autoImplicit false

namespace Asm16

namespace DefectSet

theorem contains_append (defects more : List Defect) (kind : DefectKind) :
    (ofDefects (defects ++ more)).contains kind =
      ((ofDefects defects).contains kind || (ofDefects more).contains kind) := by
  simp [ofDefects]

theorem contains_registerDefects (token : String) (kind : DefectKind) :
    (ofDefects (registerDefects token)).contains kind =
      (kind == .unknownRegister && (Register.ofName? token).isNone) := by
  unfold registerDefects
  cases Register.ofName? token with
  | none => cases kind <;> rfl
  | some r => simp [ofDefects]

theorem contains_immediateDefects (token : String) (kind : DefectKind) :
    (ofDefects (immediateDefects token)).contains kind =
      (kind == .malformedImmediate && (Immediate.ofToken? token).isNone) := by
  unfold immediateDefects
  cases Immediate.ofToken? token with
  | none => cases kind <;> rfl
  | some v => simp [ofDefects]

theorem contains_operandCount (arity : Nat) (mnemonic : String) (kind : DefectKind) :
    (ofDefects [.operandCount arity mnemonic]).contains kind = (kind == .operandCount) := by
  cases kind <;> rfl

end DefectSet

namespace Operation

def Fits (op : Operation) (operands : List String) : Prop :=
  match op.format with
  | .rrr _ => operands.length = 2 ∨ operands.length = 3
  | .rri => 3 ≤ operands.length
  | .ri => 2 ≤ operands.length

instance : (op : Operation) → (operands : List String) → Decidable (op.Fits operands)
  | ⟨_, _, .rrr _⟩, operands =>
      inferInstanceAs (Decidable (operands.length = 2 ∨ operands.length = 3))
  | ⟨_, _, .rri⟩, operands => inferInstanceAs (Decidable (3 ≤ operands.length))
  | ⟨_, _, .ri⟩, operands => inferInstanceAs (Decidable (2 ≤ operands.length))

section Operands

variable (op : Operation) (operands : List String)

theorem fits_cases (fits : op.Fits operands) :
    (∃ funct d s, op.format = .rrr funct ∧ operands = [d, s]) ∨
      (∃ funct d s t, op.format = .rrr funct ∧ operands = [d, s, t]) ∨
      (∃ s t i rest, op.format = .rri ∧ operands = s :: t :: i :: rest) ∨
      ∃ s i rest, op.format = .ri ∧ operands = s :: i :: rest := by
  cases format : op.format with
  | rrr funct =>
    simp only [Fits, format] at fits
    rcases fits with two | three
    · obtain ⟨d, s, rfl⟩ := List.length_eq_two.1 two
      exact .inl ⟨funct, d, s, rfl, rfl⟩
    · obtain ⟨d, s, t, rfl⟩ := List.length_eq_three.1 three
      exact .inr (.inl ⟨funct, d, s, t, rfl, rfl⟩)
  | rri =>
    simp only [Fits, format] at fits
    rcases operands with _ | ⟨s, _ | ⟨t, _ | ⟨i, rest⟩⟩⟩ <;> simp at fits
    exact .inr (.inr (.inl ⟨s, t, i, rest, rfl, rfl⟩))
  | ri =>
    simp only [Fits, format] at fits
    rcases operands with _ | ⟨s, _ | ⟨i, rest⟩⟩ <;> simp at fits
    exact .inr (.inr (.inr ⟨s, i, rest, rfl, rfl⟩))

theorem defects_unfit (unfit : ¬ op.Fits operands) :
    op.defects operands = [.operandCount operands.length op.mnemonic] := by
  unfold defects
  split <;> simp_all [Fits]

def registerTokens : List String :=
  match op.format with
  | .rrr _ => operands
  | .rri => operands.take 2
  | .ri => operands.take 1

def immediateToken? : Option String :=
  match op.format with
  | .rrr _ => none
  | .rri => operands[2]?
  | .ri => operands[1]?

theorem contains_fit (fits : op.Fits operands) (kind : DefectKind) :
    (DefectSet.ofDefects (op.defects operands)).contains kind =
      (kind == .unknownRegister &&
          (op.registerTokens operands).any (fun token => (Register.ofName? token).isNone) ||
        kind == .malformedImmediate &&
          (op.immediateToken? operands).any (fun token => (Immediate.ofToken? token).isNone)) := by
  obtain ⟨funct, d, s, format, rfl⟩ | ⟨funct, d, s, t, format, rfl⟩ |
    ⟨s, t, i, rest, format, rfl⟩ | ⟨s, i, rest, format, rfl⟩ := fits_cases op operands fits
  all_goals
    simp [defects, registerTokens, immediateToken?, format, DefectSet.contains_append,
      DefectSet.contains_registerDefects, DefectSet.contains_immediateDefects,
      Bool.and_or_distrib_left, Bool.or_assoc]

theorem operandCount_iff :
    (DefectSet.ofDefects (op.defects operands)).contains .operandCount = true ↔
      ¬ op.Fits operands := by
  by_cases fits : op.Fits operands
  · simp [contains_fit op operands fits, fits]
  · simp [defects_unfit op operands fits, DefectSet.contains_operandCount, fits]

end Operands

end Operation

end Asm16
