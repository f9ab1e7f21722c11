import Asm16.Proofs.Decoding

set_option autoImplicit false

namespace Asm16

-- How many operands at the front are read, where the format ignores those behind them.
def Format.reach? : Format → Option Nat
  | .rrr _ => none
  | .rri => some 3
  | .ri => some 2

namespace Operation

section Operands

variable (op : Operation) (operands : List String)

theorem fieldValues_unfit (unfit : ¬ op.Fits operands) :
    ∀ value ∈ op.fieldValues operands, value = 0 := by
  unfold fieldValues
  cases format : op.format with
  | rrr funct =>
    simp only [Fits, format, not_or] at unfit
    simp [unfit]
  | rri | ri =>
    simp only [Fits, format] at unfit
    simp [unfit]

-- Both lists are too short at the same time.
theorem read_alike (others : List String) (reach : Nat) (format : op.format.reach? = some reach)
    (same : others.take reach = operands.take reach) :
    op.instruction others = op.instruction operands ∧ op.defects others = op.defects operands := by
  obtain ⟨mnemonic, opcode, form⟩ := op
  cases form with
  | rrr funct => cases format
  | rri =>
    cases format
    rcases operands with _ | ⟨s, _ | ⟨t, _ | ⟨i, rest⟩⟩⟩ <;>
      rcases others with _ | ⟨u, _ | ⟨v, _ | ⟨j, more⟩⟩⟩ <;>
      simp_all [instruction, defects]
  | ri =>
    cases format
    rcases operands with _ | ⟨s, _ | ⟨i, rest⟩⟩ <;>
      rcases others with _ | ⟨u, _ | ⟨j, more⟩⟩ <;>
      simp_all [instruction, defects]

end Operands

end Operation

namespace Encoding

theorem ofInvocation_ok (i : Invocation) (e : Encoding) (encoded : ofInvocation i = .ok e) :
    Operation.ofMnemonic? i.mnemonic = some e.operation ∧
      (e.operation.instruction i.operands).word = .ok e.word ∧
      e.defects = e.operation.defects i.operands := by
  unfold ofInvocation at encoded
  split at encoded
  · cases encoded
  · rename_i op found
    split at encoded
    · cases encoded
    · rename_i word packed
      cases encoded
      exact ⟨found, packed, rfl⟩

theorem ofLine_ok (line : String) (e : Encoding) (encoded : ofLine line = .ok e) :
    ∃ i, Invocation.ofLine? line = some i ∧ ofInvocation i = .ok e := by
  unfold ofLine at encoded
  split at encoded
  · cases encoded
  · rename_i i read
    exact ⟨i, read, encoded⟩

/-- A line has the wrong number of operands and no other defect, or it has the defects of the
operands that are read. -/
theorem defect_set_exact (line : String) (e : Encoding) (encoded : ofLine line = .ok e) :
    ∃ i, Invocation.ofLine? line = some i ∧
      (e.defectSet.contains .operandCount = true ↔ ¬ e.operation.Fits i.operands) ∧
      (¬ e.operation.Fits i.operands →
        (∀ kind, e.defectSet.contains kind = true ↔ kind = .operandCount) ∧
        ∀ value ∈ e.operation.read e.word, value = 0) ∧
      (e.operation.Fits i.operands →
        (e.defectSet.contains .unknownRegister = true ↔
          ∃ token ∈ e.operation.registerTokens i.operands, ¬ NamesRegister token) ∧
        (e.defectSet.contains .malformedImmediate = true ↔
          ∃ token ∈ e.operation.immediateToken? i.operands, Immediate.ofToken? token = none)) ∧
      ∀ reach other j, e.operation.format.reach? = some reach →
        Invocation.ofLine? other = some j → j.mnemonic = i.mnemonic →
        j.operands.take reach = i.operands.take reach → ofLine other = .ok e := by
  obtain ⟨i, read, invoked⟩ := ofLine_ok line e encoded
  obtain ⟨found, packed, defects⟩ := ofInvocation_ok i e invoked
  have set : e.defectSet = .ofDefects (e.operation.defects i.operands) := by
    rw [defectSet, defects]
  refine ⟨i, read, ?_, ?_, ?_, ?_⟩
  · rw [set]
    exact e.operation.operandCount_iff i.operands
  · intro unfit
    refine ⟨fun kind => ?_, ?_⟩
    · rw [set, e.operation.defects_unfit i.operands unfit, DefectSet.contains_operandCount,
        beq_iff_eq]
    · rw [(decoded line i e read encoded).2.2]
      exact e.operation.fieldValues_unfit i.operands unfit
  · intro fits
    have kinds := e.operation.contains_fit i.operands fits
    rw [set, kinds, kinds]
    simp [Register.ofName_eq_none, Option.any_eq_true]
  · intro reach other j format otherRead mnemonic same
    obtain ⟨instruction, flaws⟩ :=
      e.operation.read_alike i.operands j.operands reach format same
    simp only [ofLine, otherRead, ofInvocation, mnemonic, found, instruction, packed, flaws,
      ← defects]

theorem defects_of_two_lines :
    (∃ e, ofLine "addi R8 r1 one r9" = .ok e ∧ e.defectSet.contains .unknownRegister = true ∧
      e.defectSet.contains .malformedImmediate = true ∧
      ofLine "ADDI r8,R1,ONE" = .ok e) ∧
    ∃ e, ofLine "li" = .ok e ∧ e.defectSet.contains .unknownRegister = false ∧
      ∀ value ∈ e.operation.read e.word, value = 0 := by
  have flawed : ofLine "addi R8 r1 one r9" =
      .ok ⟨⟨"ADDI", 1, .rri⟩, ⟨0x2080⟩, [.unknownRegister "R8", .malformedImmediate "ONE"]⟩ := rfl
  have bare : ofLine "li" = .ok ⟨⟨"LI", 7, .ri⟩, ⟨0xE000⟩, [.operandCount 0 "LI"]⟩ := rfl
  have four : Invocation.ofLine? "addi R8 r1 one r9" =
      some ⟨"ADDI", ["R8", "R1", "ONE", "R9"]⟩ := rfl
  have none : Invocation.ofLine? "li" = some ⟨"LI", []⟩ := rfl
  obtain ⟨i, read, -, -, kinds, alike⟩ := defect_set_exact _ _ flawed
  obtain ⟨j, otherRead, -, unfit, -, -⟩ := defect_set_exact _ _ bare
  obtain rfl := Option.some.inj (read.symm.trans four)
  obtain rfl := Option.some.inj (otherRead.symm.trans none)
  obtain ⟨register, immediate⟩ := kinds (by decide)
  obtain ⟨only, zero⟩ := unfit (by decide)
  refine ⟨⟨_, flawed, register.2 ⟨"R8", by decide, ?_⟩, immediate.2 ⟨"ONE", rfl, rfl⟩,
    alike 3 _ ⟨"ADDI", ["R8", "R1", "ONE"]⟩ rfl rfl rfl rfl⟩, ⟨_, bare, ?_, zero⟩⟩
  · exact (Register.ofName_eq_none "R8").1 rfl
  · simpa using only .unknownRegister

end Encoding

end Asm16
