import Asm16.Proofs.Defects
import Asm16.Proofs.Layout
import Asm16.Proofs.Rows
import Asm16.Proofs.Tokens

set_option autoImplicit false

namespace Asm16

namespace Shorthand

def invocation : Shorthand → Invocation
  | .not target source => ⟨"NOT", [target, source]⟩
  | .mov target source => ⟨"MOV", [target, source]⟩
  | .nop => ⟨"NOP", []⟩
  | .jmp offset => ⟨"JMP", [offset]⟩

def rewritten : Shorthand → Invocation
  | .not target source => ⟨"NAND", [target, source, source]⟩
  | .mov target source => ⟨"AND", [target, source, source]⟩
  | .nop => ⟨"ADDI", ["R1", "R1", "0"]⟩
  | .jmp offset => ⟨"BEQ", ["R0", "R0", offset]⟩

def operation : Shorthand → Operation
  | .not _ _ => .arithmetic "NAND" ⟨6, by decide⟩
  | .mov _ _ => .arithmetic "AND" ⟨4, by decide⟩
  | .nop => ⟨"ADDI", ⟨1, by decide⟩, .rri⟩
  | .jmp _ => ⟨"BEQ", ⟨3, by decide⟩, .rri⟩

def value : Shorthand → Int
  | .not target source =>
      registerCode source * 2 ^ 10 + registerCode source * 2 ^ 7 + registerCode target * 2 ^ 4 + 6
  | .mov target source =>
      registerCode source * 2 ^ 10 + registerCode source * 2 ^ 7 + registerCode target * 2 ^ 4 + 4
  | .nop => 0x2480
  | .jmp offset => 0x6000 + immediateValue offset % 2 ^ 7

theorem invocation_of_some (i : Invocation) (s : Shorthand) (found : ofInvocation? i = some s) :
    i = s.invocation := by
  obtain ⟨mnemonic, operands⟩ := i
  unfold ofInvocation? at found
  dsimp only at found
  split at found <;> cases found <;> rfl

theorem expansion_eq_text (s : Shorthand) : s.expansion = s.rewritten.text := by
  rw [← String.toList_inj]
  cases s <;> simp [expansion, rewritten, Invocation.text, String.intercalate_cons_cons]

theorem rewritten_wellFormed (s : Shorthand) (wellFormed : s.invocation.WellFormed) :
    s.rewritten.WellFormed := by
  have names : IsToken "NAND" ∧ IsToken "AND" ∧ IsToken "ADDI" ∧ IsToken "BEQ" := by decide
  have operands : IsToken "R0" ∧ IsToken "R1" ∧ IsToken "0" := by decide
  cases s <;> simp_all [invocation, rewritten, Invocation.WellFormed]

theorem ofMnemonic_rewritten (s : Shorthand) :
    Operation.ofMnemonic? s.rewritten.mnemonic = some s.operation := by
  cases s <;> rfl

theorem rewritten_fits (s : Shorthand) : s.operation.Fits s.rewritten.operands := by
  cases s <;> simp [operation, rewritten, Operation.Fits, Operation.arithmetic]

theorem layout_rewritten (s : Shorthand) :
    s.operation.layout s.rewritten.operands = s.value := by
  cases s with
  | not target source => simp [operation, rewritten, value, Operation.layout, Operation.arithmetic]
  | mov target source => simp [operation, rewritten, value, Operation.layout, Operation.arithmetic]
  | nop => rfl
  | jmp offset =>
    have zero : registerCode "R0" = 0 := rfl
    change (3 : Int) * 2 ^ 13 + (registerCode "R0" * 2 ^ 10 + registerCode "R0" * 2 ^ 7 +
      immediateValue offset % 2 ^ 7) = 0x6000 + immediateValue offset % 2 ^ 7
    rw [zero]
    ring

theorem reread (line : String) (i : Invocation) (s : Shorthand)
    (read : Invocation.ofLine? line = some i) (found : ofInvocation? i = some s) :
    Invocation.ofLine? (expand line) = some s.rewritten := by
  have expanded : expand line = s.rewritten.text := by
    simp only [expand, ofLine?, read, Option.bind_some, found, expansion_eq_text]
  have wellFormed := Invocation.wellFormed_of_ofLine line i read
  rw [invocation_of_some i s found] at wellFormed
  rw [expanded, Invocation.ofLine_text _ (rewritten_wellFormed s wellFormed)]

/-- The expansion is read as the rewritten tokens, and its word is made of the line's operands. -/
theorem shorthand_line_exact (line : String) (i : Invocation) (s : Shorthand)
    (read : Invocation.ofLine? line = some i) (found : ofInvocation? i = some s) :
    i = s.invocation ∧ Invocation.ofLine? (expand line) = some s.rewritten ∧
      ∃ e, Encoding.ofLine (expand line) = .ok e ∧ e.operation = s.operation ∧
        e.defectSet.contains .operandCount = false ∧ (e.word.raw.toNat : Int) = s.value ∧
        ∀ seq, (Row.ofLine seq line).hex = some e.word.hex := by
  have again := reread line i s read found
  have encoded := Encoding.ofInvocation_exact s.rewritten
  simp only [ofMnemonic_rewritten] at encoded
  obtain ⟨word, succeeded, raw⟩ := encoded
  have whole : Encoding.ofLine (expand line) =
      .ok ⟨s.operation, word, s.operation.defects s.rewritten.operands⟩ := by
    rw [Encoding.ofLine, again]
    exact succeeded
  refine ⟨invocation_of_some i s found, again, _, whole, rfl, ?_, ?_, ?_⟩
  · rw [← Bool.not_eq_true]
    exact fun counted => (Operation.operandCount_iff _ _).1 counted (rewritten_fits s)
  · rw [raw, layout_rewritten]
  · intro seq
    rw [Row.ofLine_hex, whole]
    rfl

theorem mov_line_exact :
    Invocation.ofLine? (expand " mov\tß,, r10") = some ⟨"AND", ["ß", "R10", "R10"]⟩ ∧
      ∃ e, Encoding.ofLine (expand " mov\tß,, r10") = .ok e ∧
        e.defectSet.contains .operandCount = false ∧ (e.word.raw.toNat : Int) = 4 := by
  obtain ⟨-, reread, e, encoded, -, counted, raw, -⟩ :=
    shorthand_line_exact " mov\tß,, r10" ⟨"MOV", ["ß", "R10"]⟩ (.mov "ß" "R10") rfl rfl
  exact ⟨reread, e, encoded, counted, raw⟩

def arities : List (String × Nat) := [("NOT", 2), ("MOV", 2), ("NOP", 0), ("JMP", 1)]

theorem exists_shorthand (i : Invocation) :
    (∃ s, ofInvocation? i = some s) ↔ (i.mnemonic, i.arity) ∈ arities := by
  constructor
  · rintro ⟨s, found⟩
    rw [invocation_of_some i s found]
    cases s <;> simp [invocation, arities, Invocation.arity]
  · intro listed
    obtain ⟨mnemonic, operands⟩ := i
    simp only [arities, Invocation.arity, List.mem_cons, Prod.mk.injEq, List.not_mem_nil,
      or_false] at listed
    rcases listed with ⟨rfl, two⟩ | ⟨rfl, two⟩ | ⟨rfl, zero⟩ | ⟨rfl, one⟩
    · obtain ⟨a, b, rfl⟩ := List.length_eq_two.1 two
      exact ⟨_, rfl⟩
    · obtain ⟨a, b, rfl⟩ := List.length_eq_two.1 two
      exact ⟨_, rfl⟩
    · obtain rfl := List.length_eq_zero_iff.1 zero
      exact ⟨_, rfl⟩
    · obtain ⟨a, rfl⟩ := List.length_eq_one_iff.1 one
      exact ⟨_, rfl⟩

theorem no_operation (mnemonic : String) (listed : mnemonic ∈ arities.map Prod.fst) :
    ∀ op ∈ Operation.all, op.mnemonic ≠ mnemonic := by
  have apart : (arities.map Prod.fst).all fun name =>
      Operation.all.all fun op => op.mnemonic != name := by decide
  simpa using List.all_eq_true.1 (List.all_eq_true.1 apart mnemonic listed)

-- No operation is named like a shorthand, so what a shorthand stands for is not one again.
theorem rewritten_settled (s : Shorthand) : ofInvocation? s.rewritten = none := by
  cases found : ofInvocation? s.rewritten with
  | none => rfl
  | some other =>
    have fits := (exists_shorthand s.rewritten).1 ⟨other, found⟩
    have listed : s.rewritten.mnemonic ∈ arities.map Prod.fst := List.mem_map_of_mem fits
    obtain ⟨member, named⟩ := Operation.ofMnemonic_some _ _ s.ofMnemonic_rewritten
    exact absurd named (no_operation _ listed _ member)

theorem ofInvocation_eq_none (i : Invocation) :
    ofInvocation? i = none ↔ (i.mnemonic, i.arity) ∉ arities := by
  rw [← exists_shorthand, not_exists, Option.eq_none_iff_forall_ne_some]

theorem ofLine_eq_none (line : String) :
    ofLine? line = none ↔
      ∀ i, Invocation.ofLine? line = some i → (i.mnemonic, i.arity) ∉ arities := by
  simp only [ofLine?, Option.bind_eq_none_iff, ofInvocation_eq_none]

theorem ofLine_expand (line : String) : ofLine? (expand line) = none := by
  cases found : ofLine? line with
  | none => simp only [expand, found]
  | some s =>
    obtain ⟨i, read, short⟩ := Option.bind_eq_some_iff.1 found
    simp only [ofLine?, reread line i s read short, Option.bind_some, rewritten_settled]

end Shorthand

theorem expand_eq_self_iff (line : String) :
    expand line = line ↔ Shorthand.ofLine? line = none := by
  constructor
  · intro same
    have settled := Shorthand.ofLine_expand line
    rwa [same] at settled
  · intro none
    simp only [expand, none]

/-- Exactly the lines that are no shorthand of the right arity are left as they are. -/
theorem expansion_settled (line : String) :
    expand (expand line) = expand line ∧
      Shorthand.ofLine? (expand line) = none ∧
      (∀ seq, (Row.ofLine seq (expand line)).expanded = none) ∧
      (∀ i, Invocation.ofLine? (expand line) = some i → Shorthand.ofInvocation? i = none) ∧
      (expand line = line ↔
        ∀ i, Invocation.ofLine? line = some i → (i.mnemonic, i.arity) ∉ Shorthand.arities) := by
  have settled := Shorthand.ofLine_expand line
  refine ⟨(expand_eq_self_iff _).2 settled, settled, ?_, ?_, ?_⟩
  · intro seq
    rw [Row.ofLine_expanded, settled, Option.map_none]
  · intro i read
    rw [Shorthand.ofInvocation_eq_none]
    exact (Shorthand.ofLine_eq_none _).1 settled i read
  · rw [expand_eq_self_iff, Shorthand.ofLine_eq_none]

theorem three_lines_settled :
    expand " not\tß,,r2 " = "NAND ß, R2, R2" ∧
      expand (expand " not\tß,,r2 ") = expand " not\tß,,r2 " ∧
      Shorthand.ofInvocation? ⟨"NAND", ["ß", "R2", "R2"]⟩ = none ∧
      expand " mov r1,, R2 r3" = " mov r1,, R2 r3" ∧ expand " ,\t" = " ,\t" := by
  obtain ⟨again, -, -, settled, -⟩ := expansion_settled " not\tß,,r2 "
  obtain ⟨-, -, -, -, misfit⟩ := expansion_settled " mov r1,, R2 r3"
  obtain ⟨-, -, -, -, empty⟩ := expansion_settled " ,\t"
  have expanded : expand " not\tß,,r2 " = "NAND ß, R2, R2" := by decide +kernel
  refine ⟨expanded, again, settled _ (by decide +kernel), misfit.2 ?_, empty.2 ?_⟩
  · intro i read
    have tokens : Invocation.ofLine? " mov r1,, R2 r3" = some ⟨"MOV", ["R1", "R2", "R3"]⟩ := by
      decide +kernel
    obtain rfl := Option.some.inj (tokens.symm.trans read)
    decide
  · intro i read
    have none : Invocation.ofLine? " ,\t" = none := by decide +kernel
    rw [none] at read
    cases read

end Asm16
