import Asm16.Proofs.Defects
import Asm16.Proofs.Immediates
import Asm16.Proofs.Layout

set_option autoImplicit false

namespace Asm16

namespace Word

def slice (w : Word) (low width : Nat) : Nat := w.raw.toNat / 2 ^ low % 2 ^ width

theorem slice_lt (w : Word) (low width : Nat) : w.slice low width < 2 ^ width :=
  Nat.mod_lt _ (Nat.two_pow_pos width)

def opcode (w : Word) : Fin 8 := ⟨w.slice 13 3, w.slice_lt 13 3⟩

def funct (w : Word) : Fin 16 := ⟨w.slice 0 4, w.slice_lt 0 4⟩

def register (w : Word) (low : Nat) : Register := ⟨⟨w.slice low 3, w.slice_lt low 3⟩⟩

end Word

namespace Operation

def hasCodes (op : Operation) (opcode : Fin 8) (funct : Fin 16) : Bool :=
  op.opcode == opcode &&
    match op.format with
    | .rrr code => code == funct
    | .rri | .ri => true

def owns (op : Operation) (w : Word) : Bool := op.hasCodes w.opcode w.funct

theorem codes_partition (opcode : Fin 8) (funct : Fin 16) :
    ∃ op, all.filter (·.hasCodes opcode funct) = [op] := by
  have one : ∀ opcode funct, (all.filter (·.hasCodes opcode funct)).length = 1 := by decide
  exact List.length_eq_one_iff.1 (one opcode funct)

theorem exists_owner (w : Word) : ∃ op ∈ all, op.owns w = true := by
  obtain ⟨op, only⟩ := codes_partition w.opcode w.funct
  exact ⟨op, List.mem_filter.1 (by rw [only]; exact List.mem_singleton_self op)⟩

theorem owner_unique (w : Word) (op other : Operation) (known : op ∈ all) (otherKnown : other ∈ all)
    (owned : op.owns w = true) (otherOwned : other.owns w = true) : op = other := by
  obtain ⟨owner, only⟩ := codes_partition w.opcode w.funct
  have same (any : Operation) (member : any ∈ all) (codes : any.owns w = true) : any = owner := by
    apply List.mem_singleton.1
    rw [← only]
    exact List.mem_filter.2 ⟨member, codes⟩
  rw [same op known owned, same other otherKnown otherOwned]

def fieldValues (op : Operation) (operands : List String) : List Int :=
  let register (place : Nat) : Int := registerCode (operands.getD place "")
  let immediate (place width : Nat) : Int := immediateValue (operands.getD place "") % 2 ^ width
  match op.format with
  | .rrr _ =>
      if operands.length = 3 then [register 0, register 1, register 2]
      else if operands.length = 2 then [register 0, register 1, 0]
      else [0, 0, 0]
  | .rri => if 3 ≤ operands.length then [register 0, register 1, immediate 2 7] else [0, 0, 0]
  | .ri => if 2 ≤ operands.length then [register 0, immediate 1 10] else [0, 0]

def read (op : Operation) (w : Word) : List Int :=
  match op.format with
  | .rrr _ => [w.slice 4 3, w.slice 10 3, w.slice 7 3]
  | .rri => [w.slice 10 3, w.slice 7 3, w.slice 0 7]
  | .ri => [w.slice 10 3, w.slice 0 10]

theorem owns_iff (op : Operation) (w : Word) :
    op.owns w = true ↔ w.slice 13 3 = op.opcode.val ∧
      ∀ code, op.format = .rrr code → w.slice 0 4 = code.val := by
  unfold owns hasCodes
  rw [Bool.and_eq_true, beq_iff_eq, Fin.ext_iff]
  cases op.format with
  | rrr code =>
    rw [beq_iff_eq, Fin.ext_iff]
    exact ⟨fun ⟨top, low⟩ => ⟨top.symm, fun _ same => by cases same; exact low.symm⟩,
      fun ⟨top, low⟩ => ⟨top.symm, (low code rfl).symm⟩⟩
  | rri | ri => exact ⟨fun owned => ⟨owned.1.symm, nofun⟩, fun owned => ⟨owned.1.symm, rfl⟩⟩

theorem word_ext (op : Operation) (w other : Word) (owned : op.owns w = true)
    (otherOwned : op.owns other = true) (same : op.read w = op.read other) : w = other := by
  obtain ⟨opcode, funct⟩ := (op.owns_iff w).1 owned
  obtain ⟨otherOpcode, otherFunct⟩ := (op.owns_iff other).1 otherOwned
  have bound : w.raw.toNat < 2 ^ 16 := w.raw.toNat_lt
  have otherBound : other.raw.toNat < 2 ^ 16 := other.raw.toNat_lt
  have number : w.raw.toNat = other.raw.toNat := by
    unfold read at same
    cases format : op.format with
    | rrr code =>
      have low := funct code format
      have otherLow := otherFunct code format
      simp only [format, List.cons.injEq, Nat.cast_inj, and_true] at same
      unfold Word.slice at *
      omega
    | rri =>
      simp only [format, List.cons.injEq, Nat.cast_inj, and_true] at same
      unfold Word.slice at *
      omega
    | ri =>
      simp only [format, List.cons.injEq, Nat.cast_inj, and_true] at same
      unfold Word.slice at *
      omega
  obtain ⟨raw⟩ := w
  obtain ⟨otherRaw⟩ := other
  exact congrArg Word.mk (UInt16.toNat_inj.1 number)

theorem registerCode_lt (token : String) : registerCode token < 8 := by
  rw [← registerOf_code]
  exact (registerOf token).code.isLt

section Layout

variable (op : Operation) (operands : List String)

theorem layout_rrr (funct : Fin 16) (format : op.format = .rrr funct) :
    ∃ rd rs rt : Nat, rd < 8 ∧ rs < 8 ∧ rt < 8 ∧
      op.fieldValues operands = [(rd : Int), rs, rt] ∧
      op.layout operands =
        op.opcode.val * 2 ^ 13 + rs * 2 ^ 10 + rt * 2 ^ 7 + rd * 2 ^ 4 + funct.val := by
  unfold fieldValues layout
  simp only [format]
  by_cases three : operands.length = 3
  · simp only [if_pos three]
    exact ⟨_, _, _, registerCode_lt _, registerCode_lt _, registerCode_lt _, rfl, by ring⟩
  · by_cases two : operands.length = 2
    · simp only [if_neg three, if_pos two]
      exact ⟨_, _, 0, registerCode_lt _, registerCode_lt _, by decide, rfl, by push_cast; ring⟩
    · simp only [if_neg three, if_neg two]
      exact ⟨0, 0, 0, by decide, by decide, by decide, rfl, by push_cast; ring⟩

theorem layout_rri (format : op.format = .rri) :
    ∃ (rs rt : Nat) (imm : Int), rs < 8 ∧ rt < 8 ∧ 0 ≤ imm ∧ imm < 2 ^ 7 ∧
      op.fieldValues operands = [(rs : Int), rt, imm] ∧
      op.layout operands = op.opcode.val * 2 ^ 13 + rs * 2 ^ 10 + rt * 2 ^ 7 + imm := by
  unfold fieldValues layout
  simp only [format]
  by_cases three : 3 ≤ operands.length
  · simp only [if_pos three]
    exact ⟨_, _, _, registerCode_lt _, registerCode_lt _, Int.emod_nonneg _ (by decide),
      Int.emod_lt_of_pos _ (by decide), rfl, by ring⟩
  · simp only [if_neg three]
    exact ⟨0, 0, 0, by decide, by decide, by decide, by decide, rfl, by push_cast; ring⟩

theorem layout_ri (format : op.format = .ri) :
    ∃ (rs : Nat) (imm : Int), rs < 8 ∧ 0 ≤ imm ∧ imm < 2 ^ 10 ∧
      op.fieldValues operands = [(rs : Int), imm] ∧
      op.layout operands = op.opcode.val * 2 ^ 13 + rs * 2 ^ 10 + imm := by
  unfold fieldValues layout
  simp only [format]
  by_cases two : 2 ≤ operands.length
  · simp only [if_pos two]
    exact ⟨_, _, registerCode_lt _, Int.emod_nonneg _ (by decide),
      Int.emod_lt_of_pos _ (by decide), rfl, by ring⟩
  · simp only [if_neg two]
    exact ⟨0, 0, by decide, by decide, by decide, rfl, by push_cast; ring⟩

-- No field reaches into its neighbour, so each is found again at its place.
theorem read_of_layout (w : Word) (raw : (w.raw.toNat : Int) = op.layout operands) :
    op.owns w = true ∧ op.read w = op.fieldValues operands := by
  have opcode := op.opcode.isLt
  rw [owns_iff]
  unfold read Word.slice
  cases format : op.format with
  | rrr funct =>
    obtain ⟨rd, rs, rt, rdLt, rsLt, rtLt, values, sum⟩ := op.layout_rrr operands funct format
    have functLt := funct.isLt
    rw [values]
    refine ⟨⟨by omega, ?_⟩, ?_⟩
    · rintro code ⟨⟩
      omega
    · simp only [List.cons.injEq, and_true]
      omega
  | rri =>
    obtain ⟨rs, rt, imm, rsLt, rtLt, immNonneg, immLt, values, sum⟩ := op.layout_rri operands format
    rw [values]
    refine ⟨⟨by omega, nofun⟩, ?_⟩
    simp only [List.cons.injEq, and_true]
    omega
  | ri =>
    obtain ⟨rs, imm, rsLt, immNonneg, immLt, values, sum⟩ := op.layout_ri operands format
    rw [values]
    refine ⟨⟨by omega, nofun⟩, ?_⟩
    simp only [List.cons.injEq, and_true]
    omega

end Layout

end Operation

namespace Register

theorem ofName_name (r : Register) : ofName? r.name = some r := by
  have named : ∀ code : Fin 8, ofName? (name ⟨code⟩) = some ⟨code⟩ := by decide
  exact named r.code

theorem name_isToken (r : Register) : IsToken r.name := by
  have named : ∀ code : Fin 8, IsToken (name ⟨code⟩) := by decide
  exact named r.code

theorem registerCode_name (r : Register) : registerCode r.name = r.code.val := by
  rw [← registerOf_code, registerOf, ofName_name]
  rfl

end Register

theorem immediateValue_repr (n : Nat) (small : n < 2 ^ 31) :
    immediateValue n.repr = n := by
  obtain ⟨v, read, value⟩ := Option.map_eq_some_iff.1 (Immediate.ofToken_repr n small)
  rw [immediateValue, read, Option.getD_some, value]

namespace Operation

def spell (op : Operation) (w : Word) : List String :=
  match op.format with
  | .rrr _ => [(w.register 4).name, (w.register 10).name, (w.register 7).name]
  | .rri => [(w.register 10).name, (w.register 7).name, (w.slice 0 7).repr]
  | .ri => [(w.register 10).name, (w.slice 0 10).repr]

theorem fieldValues_spell (op : Operation) (w : Word) : op.fieldValues (op.spell w) = op.read w := by
  have short := w.slice_lt 0 7
  have long := w.slice_lt 0 10
  have code (low : Nat) : registerCode (w.register low).name = w.slice low 3 :=
    Register.registerCode_name _
  unfold fieldValues spell read
  cases op.format with
  | rrr funct => simp [code]
  | rri =>
    have value := immediateValue_repr (w.slice 0 7) (by omega)
    simp [code, value]
    omega
  | ri =>
    have value := immediateValue_repr (w.slice 0 10) (by omega)
    simp [code, value]
    omega

theorem defects_spell (op : Operation) (w : Word) : op.defects (op.spell w) = [] := by
  have register (low : Nat) : registerDefects (w.register low).name = [] := by
    rw [registerDefects, Register.ofName_name]
  have immediate (n : Nat) (small : n < 2 ^ 31) : immediateDefects n.repr = [] := by
    obtain ⟨v, read, -⟩ := Option.map_eq_some_iff.1 (Immediate.ofToken_repr n small)
    rw [immediateDefects, read]
  have short := w.slice_lt 0 7
  have long := w.slice_lt 0 10
  obtain ⟨mnemonic, opcode, format⟩ := op
  cases format with
  | rrr funct => simp [defects, spell, register]
  | rri => simp [defects, spell, register, immediate (w.slice 0 7) (by omega)]
  | ri => simp [defects, spell, register, immediate (w.slice 0 10) (by omega)]

theorem spell_isToken (op : Operation) (w : Word) : ∀ text ∈ op.spell w, IsToken text := by
  unfold spell
  cases op.format <;> simp [Register.name_isToken, Immediate.repr_isToken]

theorem ofMnemonic_mnemonic (op : Operation) (known : op ∈ all) :
    ofMnemonic? op.mnemonic = some op ∧ IsToken op.mnemonic := by
  have table : all.all (fun op => ofMnemonic? op.mnemonic = some op ∧ IsToken op.mnemonic) = true :=
    by decide
  simpa using List.all_eq_true.1 table op known

end Operation

namespace Encoding

theorem decoded (line : String) (i : Invocation) (e : Encoding)
    (read : Invocation.ofLine? line = some i) (encoded : ofLine line = .ok e) :
    e.operation ∈ Operation.all ∧ e.operation.owns e.word = true ∧
      e.operation.read e.word = e.operation.fieldValues i.operands := by
  have exact := ofInvocation_exact i
  simp only [ofLine, read] at encoded
  cases found : Operation.ofMnemonic? i.mnemonic with
  | none => simp [found, encoded] at exact
  | some op =>
    simp only [found, encoded] at exact
    obtain ⟨word, same, raw⟩ := exact
    cases same
    exact ⟨(Operation.ofMnemonic_some _ op found).1, op.read_of_layout i.operands word raw⟩

theorem exists_line (w : Word) : ∃ line e, ofLine line = .ok e ∧ e.word = w ∧ e.defects = [] := by
  obtain ⟨op, known, owned⟩ := Operation.exists_owner w
  obtain ⟨found, mnemonic⟩ := op.ofMnemonic_mnemonic known
  let i : Invocation := ⟨op.mnemonic, op.spell w⟩
  have wellFormed : i.WellFormed := List.forall_mem_cons.2 ⟨mnemonic, op.spell_isToken w⟩
  have exact := ofInvocation_exact i
  simp only [i, found] at exact
  obtain ⟨word, encoded, raw⟩ := exact
  obtain ⟨wordOwned, fields⟩ := op.read_of_layout _ word raw
  have same : word = w := by
    apply op.word_ext word w wordOwned owned
    rw [fields, op.fieldValues_spell]
  refine ⟨i.text, ⟨op, word, op.defects (op.spell w)⟩, ?_, same, op.defects_spell w⟩
  rw [ofLine_of_tokens i.text _ _ (i.tokens_text wellFormed)]
  exact encoded

/-- Words are the same exactly if their operations and the values of their fields are, and every
word is that of a line without defects. -/
theorem word_unambiguous :
    (∀ line other i j e f, Invocation.ofLine? line = some i → Invocation.ofLine? other = some j →
      ofLine line = .ok e → ofLine other = .ok f →
      (e.word = f.word ↔ e.operation = f.operation ∧
        e.operation.fieldValues i.operands = f.operation.fieldValues j.operands)) ∧
    ∀ w : Word, ∃ line e, ofLine line = .ok e ∧ e.word = w ∧ e.defects = [] := by
  refine ⟨?_, exists_line⟩
  intro line other i j e f read otherRead encoded otherEncoded
  obtain ⟨known, owned, fields⟩ := decoded line i e read encoded
  obtain ⟨otherKnown, otherOwned, otherFields⟩ := decoded other j f otherRead otherEncoded
  rw [← fields, ← otherFields]
  constructor
  · intro same
    rw [← same] at otherOwned ⊢
    have operation := Operation.owner_unique e.word _ _ known otherKnown owned otherOwned
    exact ⟨operation, by rw [operation]⟩
  · rintro ⟨operation, values⟩
    rw [← operation] at otherOwned values
    exact e.operation.word_ext e.word f.word owned otherOwned values

theorem words_of_four_lines :
    (∃ e f, ofLine "addi r8, r0,-128" = .ok e ∧ ofLine "ADDI" = .ok f ∧ e.word = f.word) ∧
    ∃ e f, ofLine "LI R1 -1" = .ok e ∧ ofLine "li r1,1024" = .ok f ∧ e.word ≠ f.word := by
  let addi : Operation := ⟨"ADDI", 1, .rri⟩
  let li : Operation := ⟨"LI", 7, .ri⟩
  have agree := word_unambiguous.1 "addi r8, r0,-128" "ADDI" ⟨"ADDI", ["R8", "R0", "-128"]⟩
    ⟨"ADDI", []⟩ ⟨addi, ⟨0x2000⟩, [.unknownRegister "R8"]⟩
    ⟨addi, ⟨0x2000⟩, [.operandCount 0 "ADDI"]⟩ rfl rfl rfl rfl
  have differ := word_unambiguous.1 "LI R1 -1" "li r1,1024" ⟨"LI", ["R1", "-1"]⟩
    ⟨"LI", ["R1", "1024"]⟩ ⟨li, ⟨0xE7FF⟩, []⟩ ⟨li, ⟨0xE400⟩, []⟩ rfl rfl rfl rfl
  exact ⟨⟨_, _, rfl, rfl, agree.2 ⟨rfl, rfl⟩⟩,
    ⟨_, _, rfl, rfl, fun same => absurd (differ.1 same).2 (by decide)⟩⟩

end Encoding

end Asm16
