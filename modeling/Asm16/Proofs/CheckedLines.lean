import Asm16.Proofs.CheckedImmediates
import Asm16.Proofs.Shorthands

set_option autoImplicit false

namespace Asm16

def operandAt (operands : List String) (place : Nat) : Except Trap String :=
  match operands[place]? with
  | some token => .ok token
  | none => .error (.missingOperand place)

namespace Shorthand

inductive Kind where
  | not
  | mov
  | nop
  | jmp
  deriving DecidableEq, Repr

def Kind.ofInvocation? (i : Invocation) : Option Kind :=
  match i.mnemonic, i.arity with
  | "NOT", 2 => some .not
  | "MOV", 2 => some .mov
  | "NOP", 0 => some .nop
  | "JMP", 1 => some .jmp
  | _, _ => none

def Kind.checkedRead (kind : Kind) (operands : List String) : Except Trap Shorthand :=
  match kind with
  | .not => do return .not (← operandAt operands 0) (← operandAt operands 1)
  | .mov => do return .mov (← operandAt operands 0) (← operandAt operands 1)
  | .nop => .ok .nop
  | .jmp => do return .jmp (← operandAt operands 0)

def checkedOfInvocation (i : Invocation) : Except Trap (Option Shorthand) :=
  match Kind.ofInvocation? i with
  | none => .ok none
  | some kind => (kind.checkedRead i.operands).map some

-- The number of operands was checked with the mnemonic, so every place that is read is there.
theorem Kind.checkedRead_eq (i : Invocation) (kind : Kind) (found : ofInvocation? i = some kind) :
    ∃ s, Shorthand.ofInvocation? i = some s ∧ kind.checkedRead i.operands = .ok s := by
  obtain ⟨mnemonic, operands⟩ := i
  simp only [ofInvocation?, Invocation.arity] at found
  split at found
  · obtain ⟨a, b, rfl⟩ := List.length_eq_two.1 ‹operands.length = 2›
    cases found
    exact ⟨_, rfl, rfl⟩
  · obtain ⟨a, b, rfl⟩ := List.length_eq_two.1 ‹operands.length = 2›
    cases found
    exact ⟨_, rfl, rfl⟩
  · obtain rfl := List.length_eq_zero_iff.1 ‹operands.length = 0›
    cases found
    exact ⟨_, rfl, rfl⟩
  · obtain ⟨a, rfl⟩ := List.length_eq_one_iff.1 ‹operands.length = 1›
    cases found
    exact ⟨_, rfl, rfl⟩
  · cases found

example : Kind.checkedRead .mov ["R1"] = .error (.missingOperand 1) := rfl

theorem checkedOfInvocation_eq (i : Invocation) :
    checkedOfInvocation i = .ok (ofInvocation? i) := by
  cases found : Kind.ofInvocation? i with
  | some kind =>
    obtain ⟨s, read, checked⟩ := Kind.checkedRead_eq i kind found
    simp only [checkedOfInvocation, found, checked, read, Except.map]
  | none =>
    cases read : ofInvocation? i with
    | none => simp only [checkedOfInvocation, found]
    | some s =>
      rw [invocation_of_some i s read] at found
      cases s <;> cases found

def checkedOfLine (line : String) : Except Trap (Option Shorthand) :=
  match Invocation.ofLine? line with
  | none => .ok none
  | some i => checkedOfInvocation i

theorem checkedOfLine_eq (line : String) : checkedOfLine line = .ok (ofLine? line) := by
  unfold checkedOfLine ofLine?
  cases Invocation.ofLine? line with
  | none => rfl
  | some i => exact checkedOfInvocation_eq i

end Shorthand

namespace Operation

def checkedRegister (operands : List String) (place : Nat) : Except Trap Register :=
  (operandAt operands place).map registerOf

def checkedImmediate (operands : List String) (place : Nat) : Except Trap UInt16 := do
  let v ← Immediate.checked (← operandAt operands place)
  return Immediate.pattern (v.getD 0)

def checkedInstruction (op : Operation) (operands : List String) : Except Trap Instruction :=
  match op.format with
  | .rrr funct =>
      if operands.length = 2 then do
        return .rrr op.opcode funct (← checkedRegister operands 0) (← checkedRegister operands 1)
          .zero
      else if operands.length = 3 then do
        return .rrr op.opcode funct (← checkedRegister operands 0) (← checkedRegister operands 1)
          (← checkedRegister operands 2)
      else .ok (.rrr op.opcode funct .zero .zero .zero)
  | .rri =>
      if 3 ≤ operands.length then do
        return .rri op.opcode (← checkedRegister operands 0) (← checkedRegister operands 1)
          (← checkedImmediate operands 2)
      else .ok (.rri op.opcode .zero .zero 0)
  | .ri =>
      if 2 ≤ operands.length then do
        return .ri op.opcode (← checkedRegister operands 0) (← checkedImmediate operands 1)
      else .ok (.ri op.opcode .zero 0)

theorem checkedRegister_eq (operands : List String) (place : Nat) (token : String)
    (present : operands[place]? = some token) :
    checkedRegister operands place = .ok (registerOf token) := by
  simp only [checkedRegister, operandAt, present, Except.map]

theorem checkedImmediate_eq (operands : List String) (place : Nat) (token : String)
    (present : operands[place]? = some token) :
    checkedImmediate operands place = .ok (immediateOf token) := by
  simp only [checkedImmediate, operandAt, present, bind, Except.bind, Immediate.checked_eq]
  rfl

theorem checkedInstruction_eq (op : Operation) (operands : List String) :
    op.checkedInstruction operands = .ok (op.instruction operands) := by
  obtain ⟨mnemonic, opcode, format⟩ := op
  cases format with
  | rrr funct =>
    rcases operands with _ | ⟨d, _ | ⟨s, _ | ⟨t, _ | ⟨more, rest⟩⟩⟩⟩ <;> rfl
  | rri =>
    rcases operands with _ | ⟨s, _ | ⟨t, _ | ⟨i, rest⟩⟩⟩
    · rfl
    · rfl
    · rfl
    · have enough : 3 ≤ (s :: t :: i :: rest).length := by simp
      simp only [checkedInstruction, if_pos enough]
      rw [checkedRegister_eq _ 0 s rfl, checkedRegister_eq _ 1 t rfl, checkedImmediate_eq _ 2 i rfl]
      rfl
  | ri =>
    rcases operands with _ | ⟨s, _ | ⟨i, rest⟩⟩
    · rfl
    · rfl
    · have enough : 2 ≤ (s :: i :: rest).length := by simp
      simp only [checkedInstruction, if_pos enough]
      rw [checkedRegister_eq _ 0 s rfl, checkedImmediate_eq _ 1 i rfl]
      rfl

end Operation

namespace Packing

-- Every field lies inside the word and shifts no bit out of it, and the last one fills the word.
def Sound : Packing → List Field → Prop
  | p, [] => p.used = Word.size
  | p, f :: rest =>
      0 < f.width ∧ f.width < Word.size ∧ p.used + f.width ≤ Word.size ∧
        p.word.toNat * 2 ^ f.width < 2 ^ Word.size ∧ ∃ next, p.push f = .ok next ∧ next.Sound rest

theorem sound_of_full (p : Packing) (fields : List Field) (bounded : p.Bounded)
    (maskable : ∀ f ∈ fields, f.Maskable) (full : p.used + totalWidth fields = Word.size) :
    p.Sound fields := by
  induction fields generalizing p with
  | nil => simpa [Sound, totalWidth] using full
  | cons f rest ih =>
    obtain ⟨first, others⟩ := List.forall_mem_cons.1 maskable
    have total := totalWidth_cons f rest
    have fits : p.used + f.width ≤ Word.size := by omega
    obtain ⟨next, pushed, used, nextBounded, -⟩ := push_exact p f bounded first fits
    have kept : p.word.toNat * 2 ^ f.width < 2 ^ Word.size := by
      rw [← shifted_toNat p f.width bounded first.2 fits]
      exact UInt16.toNat_lt _
    exact ⟨first.1, first.2, fits, kept, next, pushed, ih next nextBounded others (by omega)⟩

end Packing

theorem Instruction.fields_sound (i : Instruction) : ({} : Packing).Sound i.fields :=
  Packing.sound_of_full {} i.fields (by decide) i.fields_maskable (by simp [i.fields_fill])

def Instruction.checkedWord (i : Instruction) : Except Trap Word := i.word.mapError .pack

theorem Instruction.checkedWord_eq (i : Instruction) (word : Word) (packed : i.word = .ok word) :
    i.checkedWord = .ok word := by
  rw [checkedWord, packed]
  rfl

namespace Encoding

def checkedOfInvocation (i : Invocation) : Except Trap (Except Rejection Encoding) :=
  match Operation.ofMnemonic? i.mnemonic with
  | none => .ok (.error (.unknownOpcode i.mnemonic))
  | some op => do
      let instruction ← op.checkedInstruction i.operands
      let word ← instruction.checkedWord
      return .ok ⟨op, word, op.defects i.operands⟩

theorem checkedOfInvocation_eq (i : Invocation) :
    checkedOfInvocation i = .ok (ofInvocation i) := by
  unfold checkedOfInvocation ofInvocation
  cases Operation.ofMnemonic? i.mnemonic with
  | none => rfl
  | some op =>
    obtain ⟨word, packed, -⟩ := (op.instruction i.operands).word_exact
    simp only [Operation.checkedInstruction_eq, bind, Except.bind,
      Instruction.checkedWord_eq _ word packed, packed]
    rfl

def checked (line : String) : Except Trap (Except Rejection Encoding) :=
  match Invocation.ofLine? line with
  | none => .ok (.error .blank)
  | some i => checkedOfInvocation i

theorem checked_eq (line : String) : checked line = .ok (ofLine line) := by
  unfold checked ofLine
  cases Invocation.ofLine? line with
  | none => rfl
  | some i => exact checkedOfInvocation_eq i

theorem ofLine_ne_layout (line : String) (fault : PackFault) :
    ofLine line ≠ .error (.layout fault) := by
  unfold ofLine
  cases Invocation.ofLine? line with
  | none => nofun
  | some i =>
    have exact := ofInvocation_exact i
    cases found : Operation.ofMnemonic? i.mnemonic with
    | none => simp_all
    | some op =>
      simp only [found] at exact
      obtain ⟨word, encoded, -⟩ := exact
      simp [encoded]

end Encoding

namespace Word

def checkedHex (bits : String) : Except Trap String :=
  match hexOfBits bits with
  | .error fault => .error (.unreadable fault)
  | .ok hex =>
      if bitsValue bits.toList < UInt16.size then .ok hex
      else .error (.unreadable (.length bits.length))

theorem checkedHex_bits (w : Word) : checkedHex w.bits = .ok w.hex := by
  have value : bitsValue w.bits.toList < UInt16.size := by
    rw [bitsValue_bits]
    exact w.raw.toNat_lt
  simp only [checkedHex, hexOfBits_bits, if_pos value]

end Word

namespace Report

def checkedOfResult (row : Row) : Except Rejection Encoding → Except Trap Report
  | .error rejection => .ok (ofResult row (.error rejection))
  | .ok e =>
      (Word.checkedHex e.word.bits).map fun hex =>
        ⟨{ row with binary := some e.word.bits, hex := some hex }, e.notes⟩

theorem checkedOfResult_eq (row : Row) (result : Except Rejection Encoding) :
    checkedOfResult row result = .ok (ofResult row result) := by
  cases result with
  | error rejection => rfl
  | ok e => simp only [checkedOfResult, Word.checkedHex_bits, Except.map, ofResult, ofEncoding,
      Word.hexOfBits_bits]

def checked (seq : Nat) (line : String) : Except Trap Report := do
  let source := Text.trim line
  match ← Shorthand.checkedOfLine line with
  | none => checkedOfResult { seq, source } (← Encoding.checked line)
  | some shorthand =>
      let text := shorthand.expansion
      let rest ← checkedOfResult { seq, source, expanded := some text } (← Encoding.checked text)
      return { rest with notes := .expanded source shorthand :: rest.notes }

theorem checked_eq (seq : Nat) (line : String) : checked seq line = .ok (ofLine seq line) := by
  unfold checked ofLine
  simp only [Shorthand.checkedOfLine_eq, bind, Except.bind, Encoding.checked_eq, checkedOfResult_eq]
  cases Shorthand.ofLine? line <;> rfl

end Report

def Note.isDefensive : Note → Bool
  | .unreadable _ _ _ => true
  | .rejected _ _ (.layout _) => true
  | _ => false

namespace Report

theorem notes_ofEncoded (row : Row) (line : String) :
    (ofResult row (Encoding.ofLine line)).notes.all (!·.isDefensive) = true := by
  cases encoded : Encoding.ofLine line with
  | ok e =>
    simp [ofResult, ofEncoding, Word.hexOfBits_bits, Encoding.notes, Note.isDefensive]
  | error rejection =>
    cases rejection with
    | blank => rfl
    | unknownOpcode mnemonic => rfl
    | layout fault => exact absurd encoded (Encoding.ofLine_ne_layout line fault)

theorem notes_ofLine (seq : Nat) (line : String) :
    (ofLine seq line).notes.all (!·.isDefensive) = true := by
  unfold ofLine
  cases Shorthand.ofLine? line with
  | none => exact notes_ofEncoded _ line
  | some shorthand =>
    have rest := notes_ofEncoded
      { seq, source := Text.trim line, expanded := some shorthand.expansion } shorthand.expansion
    rw [List.all_cons, rest]
    rfl

/-- The steps that check themselves lead to the report of the line, the report has no note of a
failed check, and whatever is encoded, its fields make up the word. -/
theorem line_never_traps (seq : Nat) (line : String) :
    checked seq line = .ok (ofLine seq line) ∧
      (ofLine seq line).notes.all (!·.isDefensive) = true ∧
      ∀ (op : Operation) (operands : List String),
        ({} : Packing).Sound (op.instruction operands).fields :=
  ⟨checked_eq seq line, notes_ofLine seq line, fun op operands =>
    (op.instruction operands).fields_sound⟩

end Report

end Asm16
