import Asm16.Proofs.DefectSets
import Asm16.Proofs.Rows

set_option autoImplicit false

namespace Asm16

inductive Role where
  | register
  | immediate
  | unread
  deriving DecidableEq, Repr

def Format.role : Format → Nat → Role
  | .rrr _, _ => .register
  | .rri, place =>
      if place < 2 then .register else if place = 2 then .immediate else .unread
  | .ri, place =>
      if place < 1 then .register else if place = 1 then .immediate else .unread

def Format.zeros : Format → List String
  | .rrr _ => ["R0", "R0", "R0"]
  | .rri => ["R0", "R0", "0"]
  | .ri => ["R0", "0"]

def orZero {α : Type} (read : String → Option α) (zero token : String) : String :=
  match read token with
  | some _ => token
  | none => zero

theorem read_orZero {α : Type} (read : String → Option α) (zero : String) (value : α)
    (reads : read zero = some value) (token : String) :
    read (orZero read zero token) = some ((read token).getD value) := by
  unfold orZero
  cases found : read token with
  | none => exact reads
  | some v => exact found

namespace Role

def mend : Role → String → String
  | .register, token => orZero Register.ofName? "R0" token
  | .immediate, token => orZero Immediate.ofToken? "0" token
  | .unread, token => token

theorem ofName_mend (token : String) :
    Register.ofName? (mend .register token) = some (registerOf token) :=
  read_orZero Register.ofName? "R0" .zero rfl token

theorem ofToken_mend (token : String) :
    Immediate.ofToken? (mend .immediate token) = some ((Immediate.ofToken? token).getD 0) :=
  read_orZero Immediate.ofToken? "0" 0 rfl token

theorem registerOf_mend (token : String) :
    registerOf (mend .register token) = registerOf token := by
  rw [registerOf, ofName_mend, Option.getD_some]

theorem registerDefects_mend (token : String) : registerDefects (mend .register token) = [] := by
  simp only [registerDefects, ofName_mend]

theorem immediateOf_mend (token : String) :
    immediateOf (mend .immediate token) = immediateOf token := by
  rw [immediateOf, ofToken_mend, Option.getD_some, immediateOf]

theorem immediateDefects_mend (token : String) :
    immediateDefects (mend .immediate token) = [] := by
  simp only [immediateDefects, ofToken_mend]

theorem zero_isToken : IsToken "R0" ∧ IsToken "0" := by decide

theorem mend_isToken (role : Role) (token : String) (solid : IsToken token) :
    IsToken (role.mend token) := by
  obtain ⟨register, immediate⟩ := zero_isToken
  cases role with
  | register => simp only [mend, orZero]; split <;> assumption
  | immediate => simp only [mend, orZero]; split <;> assumption
  | unread => exact solid

end Role

namespace Operation

def mend (op : Operation) (operands : List String) : List String :=
  if op.Fits operands then operands.mapIdx fun place token => (op.format.role place).mend token
  else op.format.zeros

section Operands

variable (op : Operation) (operands : List String)

theorem instruction_unfit (unfit : ¬ op.Fits operands) :
    op.instruction operands = op.instruction op.format.zeros := by
  have register : registerOf "R0" = .zero := rfl
  have immediate : immediateOf "0" = 0 := rfl
  obtain ⟨mnemonic, opcode, format⟩ := op
  unfold instruction
  split <;> simp_all [Fits, Format.zeros]

theorem defects_zeros : op.defects op.format.zeros = [] := by
  have register : registerDefects "R0" = [] := rfl
  have immediate : immediateDefects "0" = [] := rfl
  obtain ⟨mnemonic, opcode, format⟩ := op
  cases format <;> simp [defects, Format.zeros, register, immediate]

-- Mending keeps the number of operands, so the list is read in the same shape again.
theorem read_mend_fit (fits : op.Fits operands) :
    op.instruction (op.mend operands) = op.instruction operands ∧
      op.defects (op.mend operands) = [] := by
  rw [mend, if_pos fits]
  obtain ⟨funct, d, s, format, rfl⟩ | ⟨funct, d, s, t, format, rfl⟩ |
    ⟨s, t, i, rest, format, rfl⟩ | ⟨s, i, rest, format, rfl⟩ := fits_cases op operands fits
  all_goals
    simp [instruction, defects, format, Format.role, Role.registerOf_mend,
      Role.registerDefects_mend, Role.immediateOf_mend, Role.immediateDefects_mend]

theorem read_mend :
    op.instruction (op.mend operands) = op.instruction operands ∧
      op.defects (op.mend operands) = [] := by
  by_cases fits : op.Fits operands
  · exact op.read_mend_fit operands fits
  · rw [mend, if_neg fits, op.instruction_unfit operands fits]
    exact ⟨rfl, op.defects_zeros⟩

theorem mend_isToken (solid : ∀ token ∈ operands, IsToken token) :
    ∀ token ∈ op.mend operands, IsToken token := by
  unfold mend
  split
  · intro token member
    obtain ⟨place, inside, rfl⟩ := List.mem_mapIdx.1 member
    exact Role.mend_isToken _ _ (solid _ (List.getElem_mem inside))
  · cases op.format <;> simp [Format.zeros, Role.zero_isToken]

end Operands

end Operation

namespace Invocation

-- An unknown mnemonic leaves open what its operands should be.
def mended (i : Invocation) : Invocation :=
  match Operation.ofMnemonic? i.mnemonic with
  | some op => ⟨i.mnemonic, op.mend i.operands⟩
  | none => i

theorem mended_wellFormed (i : Invocation) (wellFormed : i.WellFormed) : i.mended.WellFormed := by
  unfold mended
  cases Operation.ofMnemonic? i.mnemonic with
  | none => exact wellFormed
  | some op =>
    obtain ⟨mnemonic, operands⟩ := List.forall_mem_cons.1 wellFormed
    exact List.forall_mem_cons.2 ⟨mnemonic, op.mend_isToken i.operands operands⟩

end Invocation

def mendedLine (line : String) : String :=
  match Invocation.ofLine? line with
  | some i => i.mended.text
  | none => line

theorem ofLine_mendedLine (line : String) (i : Invocation)
    (read : Invocation.ofLine? line = some i) :
    Invocation.ofLine? (mendedLine line) = some i.mended := by
  simp only [mendedLine, read]
  exact i.mended.ofLine_text (i.mended_wellFormed (Invocation.wellFormed_of_ofLine line i read))

namespace Encoding

theorem ofInvocation_mended (i : Invocation) (e : Encoding) (encoded : ofInvocation i = .ok e) :
    i.mended = ⟨i.mnemonic, e.operation.mend i.operands⟩ ∧
      ofInvocation i.mended = .ok { e with defects := [] } := by
  obtain ⟨found, packed, -⟩ := ofInvocation_ok i e encoded
  obtain ⟨instruction, defects⟩ := e.operation.read_mend i.operands
  have mended : i.mended = ⟨i.mnemonic, e.operation.mend i.operands⟩ := by
    simp only [Invocation.mended, found]
  refine ⟨mended, ?_⟩
  simp only [mended, ofInvocation, found, instruction, packed, defects]

theorem ofLine_mended (line : String) (e : Encoding) (encoded : ofLine line = .ok e) :
    ofLine (mendedLine line) = .ok { e with defects := [] } := by
  obtain ⟨i, read, invoked⟩ := ofLine_ok line e encoded
  simp only [ofLine, ofLine_mendedLine line i read]
  exact (ofInvocation_mended i e invoked).2

/-- Mending keeps the operation and the word and leaves no defect. -/
theorem mended_line_exact (line : String) (e : Encoding) (encoded : ofLine line = .ok e) :
    (∃ i, Invocation.ofLine? line = some i ∧
      Invocation.ofLine? (mendedLine line) =
        some ⟨i.mnemonic, e.operation.mend i.operands⟩) ∧
    (∀ spelled, tokens spelled = tokens (mendedLine line) →
      ∃ f, ofLine spelled = .ok f ∧ f.operation = e.operation ∧ f.word = e.word ∧
        ∀ kind, f.defectSet.contains kind = false) ∧
    ∀ other f, ofLine other = .ok f → mendedLine other = mendedLine line → f.word = e.word := by
  have mended := ofLine_mended line e encoded
  refine ⟨?_, ?_, ?_⟩
  · obtain ⟨i, read, invoked⟩ := ofLine_ok line e encoded
    exact ⟨i, read, by rw [ofLine_mendedLine line i read, (ofInvocation_mended i e invoked).1]⟩
  · intro spelled same
    exact ⟨_, (ofLine_congr spelled _ same).trans mended, rfl, rfl, fun _ => rfl⟩
  · intro other f otherEncoded same
    have otherMended := ofLine_mended other f otherEncoded
    rw [same, mended] at otherMended
    exact (congrArg Encoding.word (Except.ok.inj otherMended)).symm

theorem mended_addi_lines :
    (∃ f, ofLine "addi R0 r1 0 x" = .ok f ∧ f.word = ⟨0x2080⟩ ∧
      ∀ kind, f.defectSet.contains kind = false) ∧
    ∃ e f, ofLine "ADDI" = .ok e ∧ ofLine "addi r1,r2" = .ok f ∧ f.word = e.word := by
  let addi : Operation := ⟨"ADDI", 1, .rri⟩
  have flawed : ofLine "addi R8, r1, one, x" =
      .ok ⟨addi, ⟨0x2080⟩, [.unknownRegister "R8", .malformedImmediate "ONE"]⟩ := rfl
  have bare : ofLine "ADDI" = .ok ⟨addi, ⟨0x2000⟩, [.operandCount 0 "ADDI"]⟩ := rfl
  have short : ofLine "addi r1,r2" = .ok ⟨addi, ⟨0x2000⟩, [.operandCount 2 "ADDI"]⟩ := rfl
  have text : tokens "addi R0 r1 0 x" = tokens (mendedLine "addi R8, r1, one, x") := by
    decide +kernel
  have same : mendedLine "addi r1,r2" = mendedLine "ADDI" := by decide +kernel
  obtain ⟨-, spelled, -⟩ := mended_line_exact _ _ flawed
  obtain ⟨-, -, alike⟩ := mended_line_exact _ _ bare
  obtain ⟨f, encoded, -, word, none⟩ := spelled "addi R0 r1 0 x" text
  exact ⟨⟨f, encoded, word, none⟩, _, _, bare, short, alike _ _ short same⟩

end Encoding

end Asm16
