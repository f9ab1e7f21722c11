import Asm16.Line.Encoding
import Asm16.Proofs.Packing
import Asm16.Proofs.Registers

set_option autoImplicit false

namespace Asm16

def immediateValue (token : String) : Int := ((Immediate.ofToken? token).getD 0).toInt

theorem Immediate.pattern_emod (v : Int32) (width : Nat) (fits : width ≤ Word.size) :
    ((Immediate.pattern v).toNat : Int) % 2 ^ width = v.toInt % 2 ^ width := by
  have signed : ((v.toUInt32.toNat : Nat) : Int) % 2 ^ 32 = v.toInt % 2 ^ 32 := by
    change (v.toBitVec.toNat : Int) % 2 ^ 32 = v.toBitVec.toInt % 2 ^ 32
    rw [BitVec.toInt_eq_toNat_cond]
    split <;> omega
  have narrow : (2 : Int) ^ width ∣ 2 ^ 16 := pow_dvd_pow 2 fits
  have wide : (2 : Int) ^ width ∣ 2 ^ 32 := narrow.trans (pow_dvd_pow 2 (by decide))
  calc
    ((Immediate.pattern v).toNat : Int) % 2 ^ width
        = ((v.toUInt32.toNat : Int) % 2 ^ 16) % 2 ^ width := by
      simp [Immediate.pattern]
    _ = (v.toUInt32.toNat : Int) % 2 ^ width := Int.emod_emod_of_dvd _ narrow
    _ = ((v.toUInt32.toNat : Int) % 2 ^ 32) % 2 ^ width := (Int.emod_emod_of_dvd _ wide).symm
    _ = v.toInt % 2 ^ width := by rw [signed, Int.emod_emod_of_dvd _ wide]

theorem immediateOf_emod (token : String) (width : Nat) (fits : width ≤ Word.size) :
    ((immediateOf token).toNat : Int) % 2 ^ width = immediateValue token % 2 ^ width :=
  Immediate.pattern_emod _ width fits

namespace Instruction

def value : Instruction → Int
  | .rrr opcode funct rd rs rt =>
      opcode.val * 2 ^ 13 + rs.code.val * 2 ^ 10 + rt.code.val * 2 ^ 7 + rd.code.val * 2 ^ 4 +
        funct.val
  | .rri opcode rs rt imm =>
      opcode.val * 2 ^ 13 + rs.code.val * 2 ^ 10 + rt.code.val * 2 ^ 7 + (imm.toNat : Int) % 2 ^ 7
  | .ri opcode rs imm => opcode.val * 2 ^ 13 + rs.code.val * 2 ^ 10 + (imm.toNat : Int) % 2 ^ 10

theorem fields_maskable (i : Instruction) : ∀ f ∈ i.fields, f.Maskable := by
  cases i <;> simp [fields, opcodeField, registerField, Field.Maskable, Word.size,
    Operation.opcodeWidth, Register.width, Operation.functWidth, Operation.shortWidth,
    Operation.longWidth]

theorem fields_fill (i : Instruction) : totalWidth i.fields = Word.size := by
  cases i <;> rfl

theorem fieldsValue_fields (i : Instruction) : (fieldsValue 0 i.fields : Int) = i.value := by
  cases i <;>
    simp [fieldsValue, fields, value, opcodeField, registerField, Register.field,
      Operation.opcodeWidth, Register.width, Operation.functWidth, Operation.shortWidth,
      Operation.longWidth] <;>
    omega

theorem word_exact (i : Instruction) :
    ∃ word, i.word = .ok word ∧ (word.raw.toNat : Int) = i.value := by
  obtain ⟨word, packed, raw⟩ := Word.ofFields_exact i.fields i.fields_maskable i.fields_fill
  exact ⟨word, packed, by rw [raw, fieldsValue_fields]⟩

end Instruction

namespace Operation

-- The operands are found by their places. Three registers are written target first, but the target
-- has the lowest weight.
def layout (op : Operation) (operands : List String) : Int :=
  let register (place : Nat) : Int := registerCode (operands.getD place "")
  let immediate (place width : Nat) : Int := immediateValue (operands.getD place "") % 2 ^ width
  op.opcode.val * 2 ^ 13 +
    match op.format with
    | .rrr funct =>
        (if operands.length = 3 then register 1 * 2 ^ 10 + register 2 * 2 ^ 7 + register 0 * 2 ^ 4
          else if operands.length = 2 then register 1 * 2 ^ 10 + register 0 * 2 ^ 4
          else 0) + funct.val
    | .rri =>
        if 3 ≤ operands.length then register 0 * 2 ^ 10 + register 1 * 2 ^ 7 + immediate 2 7 else 0
    | .ri => if 2 ≤ operands.length then register 0 * 2 ^ 10 + immediate 1 10 else 0

theorem instruction_value (op : Operation) (operands : List String) :
    (op.instruction operands).value = op.layout operands := by
  obtain ⟨mnemonic, opcode, format⟩ := op
  have short (token : String) :
      ((immediateOf token).toNat : Int) % 128 = immediateValue token % 128 :=
    immediateOf_emod token 7 (by decide)
  have long (token : String) :
      ((immediateOf token).toNat : Int) % 1024 = immediateValue token % 1024 :=
    immediateOf_emod token 10 (by decide)
  cases format with
  | rrr funct =>
    rcases operands with _ | ⟨d, _ | ⟨s, _ | ⟨t, _ | ⟨more, rest⟩⟩⟩⟩ <;>
      simp [instruction, layout, Instruction.value, registerOf_code, Register.zero] <;>
      ring
  | rri =>
    rcases operands with _ | ⟨s, _ | ⟨t, _ | ⟨i, rest⟩⟩⟩ <;>
      simp [instruction, layout, Instruction.value, registerOf_code, short, Register.zero]
    ring
  | ri =>
    rcases operands with _ | ⟨s, _ | ⟨i, rest⟩⟩ <;>
      simp [instruction, layout, Instruction.value, registerOf_code, long, Register.zero]
    ring

theorem ofMnemonic_some (mnemonic : String) (op : Operation)
    (found : ofMnemonic? mnemonic = some op) : op ∈ all ∧ op.mnemonic = mnemonic :=
  ⟨List.mem_of_find?_eq_some found, by simpa using List.find?_some found⟩

theorem ofMnemonic_none (mnemonic : String) :
    ofMnemonic? mnemonic = none ↔ ∀ op ∈ all, op.mnemonic ≠ mnemonic := by
  simp [ofMnemonic?]

end Operation

namespace Encoding

theorem ofInvocation_exact (i : Invocation) :
    match Operation.ofMnemonic? i.mnemonic with
    | none => ofInvocation i = .error (.unknownOpcode i.mnemonic)
    | some op =>
        ∃ word, ofInvocation i = .ok ⟨op, word, op.defects i.operands⟩ ∧
          (word.raw.toNat : Int) = op.layout i.operands := by
  unfold ofInvocation
  cases Operation.ofMnemonic? i.mnemonic with
  | none => rfl
  | some op =>
    -- Every instruction fills a word, so the mnemonic alone decides.
    obtain ⟨word, packed, raw⟩ := (op.instruction i.operands).word_exact
    exact ⟨word, by simp only [packed], by rw [raw, Operation.instruction_value]⟩

theorem ofLine_of_tokens (line mnemonic : String) (operands : List String)
    (split : tokens line = mnemonic :: operands) :
    ofLine line = ofInvocation ⟨mnemonic, operands⟩ := by
  simp only [ofLine, Invocation.ofLine?, split, Invocation.ofTokens?]

theorem ofLine_of_no_tokens (line : String) (split : tokens line = []) :
    ofLine line = .error .blank := by
  simp only [ofLine, Invocation.ofLine?, split, Invocation.ofTokens?]

/-- A line has the word that its operands lay out, and none exactly if it has no token or its
mnemonic is not among the operations. -/
theorem line_layout_exact (line : String) :
    (∀ e, ofLine line = .ok e →
      ∃ mnemonic operands, tokens line = mnemonic :: operands ∧
        e.operation ∈ Operation.all ∧ e.operation.mnemonic = mnemonic ∧
        (e.word.raw.toNat : Int) = e.operation.layout operands) ∧
    (∀ rejection, ofLine line = .error rejection ↔
      (tokens line = [] ∧ rejection = .blank) ∨
      ∃ mnemonic operands, tokens line = mnemonic :: operands ∧
        (∀ op ∈ Operation.all, op.mnemonic ≠ mnemonic) ∧
        rejection = .unknownOpcode mnemonic) := by
  cases split : tokens line with
  | nil => simp [ofLine_of_no_tokens line split, eq_comm]
  | cons mnemonic operands =>
    have encoded := ofInvocation_exact ⟨mnemonic, operands⟩
    rw [← ofLine_of_tokens line mnemonic operands split] at encoded
    cases found : Operation.ofMnemonic? mnemonic with
    | none =>
      simp only [found] at encoded
      have unknown := (Operation.ofMnemonic_none mnemonic).1 found
      refine ⟨by simp [encoded], fun rejection => ⟨fun failed => ?_, ?_⟩⟩
      · rw [encoded] at failed
        cases failed
        exact .inr ⟨mnemonic, operands, rfl, unknown, rfl⟩
      · rintro (⟨empty, -⟩ | ⟨name, rest, same, -, rfl⟩)
        · cases empty
        · cases same
          exact encoded
    | some op =>
      simp only [found] at encoded
      obtain ⟨word, succeeded, raw⟩ := encoded
      have known := Operation.ofMnemonic_some mnemonic op found
      refine ⟨fun e same => ?_, fun rejection => ⟨by simp [succeeded], ?_⟩⟩
      · rw [succeeded] at same
        cases same
        exact ⟨mnemonic, operands, rfl, known.1, known.2, raw⟩
      · rintro (⟨empty, -⟩ | ⟨name, rest, same, unknown, -⟩)
        · cases empty
        · cases same
          exact absurd known.2 (unknown op known.1)

theorem addi_line_layout :
    ∃ mnemonic operands, tokens "addi r9, r1,-1 x" = mnemonic :: operands ∧
      (0x20FF : Int) = (⟨"ADDI", 1, .rri⟩ : Operation).layout operands := by
  have encoded : ofLine "addi r9, r1,-1 x" =
      .ok ⟨⟨"ADDI", 1, .rri⟩, ⟨0x20FF⟩, [.unknownRegister "R9"]⟩ := rfl
  obtain ⟨mnemonic, operands, split, -, -, raw⟩ :=
    (line_layout_exact "addi r9, r1,-1 x").1 _ encoded
  exact ⟨mnemonic, operands, split, raw⟩

end Encoding

end Asm16
