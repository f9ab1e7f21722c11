import Asm16.Proofs.Shorthands

set_option autoImplicit false

namespace Asm16

def HasWord (line : String) : Prop :=
  ∃ i, Invocation.ofLine? line = some i ∧
    ((∃ op ∈ Operation.all, op.mnemonic = i.mnemonic) ∨ ∃ s, Shorthand.ofInvocation? i = some s)

theorem not_hasWord_blank (line : String) (read : Invocation.ofLine? line = none) :
    ¬ HasWord line := by
  simp [HasWord, read]

theorem hasWord_iff (line : String) (i : Invocation) (read : Invocation.ofLine? line = some i) :
    HasWord line ↔ (∃ op ∈ Operation.all, op.mnemonic = i.mnemonic) ∨
      ∃ s, Shorthand.ofInvocation? i = some s := by
  simp only [HasWord, read, Option.some.injEq, exists_eq_left']

theorem not_hasWord_misfit (line : String) (i : Invocation)
    (read : Invocation.ofLine? line = some i)
    (listed : i.mnemonic ∈ Shorthand.arities.map Prod.fst)
    (misfit : (i.mnemonic, i.arity) ∉ Shorthand.arities) : ¬ HasWord line := by
  rw [hasWord_iff line i read, Shorthand.exists_shorthand, not_or]
  refine ⟨?_, misfit⟩
  rintro ⟨op, member, same⟩
  exact Shorthand.no_operation i.mnemonic listed op member same

namespace Encoding

theorem ofInvocation_known (i : Invocation)
    (known : ∃ op ∈ Operation.all, op.mnemonic = i.mnemonic) : ∃ e, ofInvocation i = .ok e := by
  have exact := ofInvocation_exact i
  cases found : Operation.ofMnemonic? i.mnemonic with
  | none =>
    obtain ⟨op, member, same⟩ := known
    exact absurd same ((Operation.ofMnemonic_none _).1 found op member)
  | some op =>
    simp only [found] at exact
    obtain ⟨word, encoded, -⟩ := exact
    exact ⟨_, encoded⟩

theorem ofInvocation_unknown (i : Invocation)
    (unknown : ¬ ∃ op ∈ Operation.all, op.mnemonic = i.mnemonic) :
    ofInvocation i = .error (.unknownOpcode i.mnemonic) := by
  have missing : Operation.ofMnemonic? i.mnemonic = none := by
    rw [Operation.ofMnemonic_none]
    exact fun op member same => unknown ⟨op, member, same⟩
  simp only [ofInvocation, missing]

-- A shorthand stands for an operation, so only a line that is no shorthand can be rejected.
theorem ofLine_expand_cases (line : String) :
    (HasWord line ∧ ∃ e, ofLine (expand line) = .ok e) ∨
      (¬ HasWord line ∧ tokens line = [] ∧ ofLine (expand line) = .error .blank) ∨
      (¬ HasWord line ∧ ∃ i, Invocation.ofLine? line = some i ∧
        ofLine (expand line) = .error (.unknownOpcode i.mnemonic)) := by
  cases read : Invocation.ofLine? line with
  | none =>
    have empty := (Invocation.ofLine_eq_none line).1 read
    have same : expand line = line := by
      simp only [expand, Shorthand.ofLine?, read, Option.bind_none]
    exact .inr (.inl ⟨not_hasWord_blank line read, empty,
      by rw [same, ofLine_of_no_tokens line empty]⟩)
  | some i =>
    rw [hasWord_iff line i read]
    cases found : Shorthand.ofInvocation? i with
    | some s =>
      have known : ∃ op ∈ Operation.all, op.mnemonic = s.rewritten.mnemonic :=
        ⟨s.operation, Operation.ofMnemonic_some _ _ s.ofMnemonic_rewritten⟩
      obtain ⟨e, encoded⟩ := ofInvocation_known s.rewritten known
      refine .inl ⟨.inr ⟨s, rfl⟩, e, ?_⟩
      simp only [ofLine, Shorthand.reread line i s read found, encoded]
    | none =>
      have same : expand line = line := by
        simp only [expand, Shorthand.ofLine?, read, Option.bind_some, found]
      simp only [same, ofLine, read]
      by_cases known : ∃ op ∈ Operation.all, op.mnemonic = i.mnemonic
      · exact .inl ⟨.inl known, ofInvocation_known i known⟩
      · exact .inr (.inr ⟨by simpa using known, i, rfl, ofInvocation_unknown i known⟩)

end Encoding

theorem Rejection.unknownOpcode_ne_blank (mnemonic : String) :
    (unknownOpcode mnemonic).message ≠ blank.message := by
  intro same
  have chars : ("unknown opcode `" ++ mnemonic ++ "`").toList = "line has no mnemonic".toList :=
    congrArg String.toList same
  simp at chars

namespace Row

section Fields

variable (seq : Nat) (line : String)

theorem expanded_isSome :
    (ofLine seq line).expanded.isSome = true ↔
      ∃ i, Invocation.ofLine? line = some i ∧ ∃ s, Shorthand.ofInvocation? i = some s := by
  rw [ofLine_expanded, Option.isSome_map, Shorthand.ofLine?, Option.isSome_iff_exists]
  simp only [Option.bind_eq_some_iff]
  constructor
  · rintro ⟨s, i, read, found⟩
    exact ⟨i, read, s, found⟩
  · rintro ⟨i, read, s, found⟩
    exact ⟨s, i, read, found⟩

theorem ofLine_encoded (e : Encoding) (encoded : Encoding.ofLine (expand line) = .ok e) :
    (ofLine seq line).binary = some e.word.bits ∧ (ofLine seq line).hex = some e.word.hex ∧
      (ofLine seq line).error = none := by
  simp only [ofLine_eq, encoded, and_self]

theorem ofLine_rejected (rejection : Rejection)
    (rejected : Encoding.ofLine (expand line) = .error rejection) :
    (ofLine seq line).binary = none ∧ (ofLine seq line).hex = none ∧
      (ofLine seq line).error = some rejection.message := by
  simp only [ofLine_eq, rejected, and_self]

theorem ofLine_cases :
    (HasWord line ∧ ∃ e, Encoding.ofLine (expand line) = .ok e ∧
      (ofLine seq line).binary = some e.word.bits ∧ (ofLine seq line).hex = some e.word.hex ∧
      (ofLine seq line).error = none) ∨
    (¬ HasWord line ∧ (ofLine seq line).binary = none ∧ (ofLine seq line).hex = none ∧
      ((tokens line = [] ∧ (ofLine seq line).error = some Rejection.blank.message) ∨
        ∃ i, Invocation.ofLine? line = some i ∧
          (ofLine seq line).error = some (Rejection.unknownOpcode i.mnemonic).message)) := by
  rcases Encoding.ofLine_expand_cases line with
    ⟨word, e, encoded⟩ | ⟨wordless, empty, rejected⟩ | ⟨wordless, i, read, rejected⟩
  · exact .inl ⟨word, e, encoded, ofLine_encoded seq line e encoded⟩
  · obtain ⟨binary, hex, error⟩ := ofLine_rejected seq line _ rejected
    exact .inr ⟨wordless, binary, hex, .inl ⟨empty, error⟩⟩
  · obtain ⟨binary, hex, error⟩ := ofLine_rejected seq line _ rejected
    exact .inr ⟨wordless, binary, hex, .inr ⟨i, read, error⟩⟩

end Fields

structure Tells (row : Row) (line : String) : Prop where
  binary_iff : row.binary.isSome = true ↔ HasWord line
  hex_iff : row.hex.isSome = true ↔ HasWord line
  error_iff : row.error = none ↔ HasWord line
  word : ∀ bits, row.binary = some bits →
    (bits.length = 16 ∧ ∀ c ∈ bits.toList, c = '0' ∨ c = '1') ∧
      ∃ e, Encoding.ofLine (expand line) = .ok e ∧ bits = e.word.bits ∧
        row.hex = some e.word.hex ∧ Word.hexOfBits bits = .ok e.word.hex
  expanded_iff : row.expanded.isSome = true ↔
    ∃ i, Invocation.ofLine? line = some i ∧ (i.mnemonic, i.arity) ∈ Shorthand.arities
  expanded_word : row.expanded.isSome = true → row.error = none
  error_blank : ∀ text, row.error = some text →
    (text = "line has no mnemonic" ↔ tokens line = [])
  error_mnemonic : ∀ text i, row.error = some text → Invocation.ofLine? line = some i →
    text = "unknown opcode `" ++ i.mnemonic ++ "`"
  misfit : ∀ i, Invocation.ofLine? line = some i → i.mnemonic ∈ Shorthand.arities.map Prod.fst →
    (i.mnemonic, i.arity) ∉ Shorthand.arities →
      row.error = some ("unknown opcode `" ++ i.mnemonic ++ "`")

section Parts

variable (seq : Nat) (line : String)

theorem present_iff :
    ((ofLine seq line).binary.isSome = true ↔ HasWord line) ∧
      ((ofLine seq line).hex.isSome = true ↔ HasWord line) ∧
      ((ofLine seq line).error = none ↔ HasWord line) := by
  rcases ofLine_cases seq line with
    ⟨word, e, -, binary, hex, error⟩ | ⟨wordless, binary, hex, ⟨-, error⟩ | ⟨i, -, error⟩⟩
  · simp [word, binary, hex, error]
  · simp [wordless, binary, hex, error]
  · simp [wordless, binary, hex, error]

theorem ofLine_word (bits : String) (shown : (ofLine seq line).binary = some bits) :
    ∃ e, Encoding.ofLine (expand line) = .ok e ∧ bits = e.word.bits ∧
      (ofLine seq line).hex = some e.word.hex := by
  rcases ofLine_cases seq line with ⟨-, e, encoded, binary, hex, -⟩ | ⟨-, binary, -⟩
  · rw [binary] at shown
    exact ⟨e, encoded, (Option.some.inj shown).symm, hex⟩
  · rw [binary] at shown
    cases shown

theorem ofLine_error (text : String) (shown : (ofLine seq line).error = some text) :
    (tokens line = [] ∧ text = Rejection.blank.message) ∨
      ∃ i, Invocation.ofLine? line = some i ∧
        text = (Rejection.unknownOpcode i.mnemonic).message := by
  rcases ofLine_cases seq line with
    ⟨-, e, -, -, -, error⟩ | ⟨-, -, -, ⟨empty, error⟩ | ⟨i, read, error⟩⟩
  · rw [error] at shown
    cases shown
  · rw [error] at shown
    exact .inl ⟨empty, (Option.some.inj shown).symm⟩
  · rw [error] at shown
    exact .inr ⟨i, read, (Option.some.inj shown).symm⟩

theorem ofLine_error_mnemonic (text : String) (i : Invocation)
    (shown : (ofLine seq line).error = some text) (read : Invocation.ofLine? line = some i) :
    text = (Rejection.unknownOpcode i.mnemonic).message := by
  rcases ofLine_error seq line text shown with ⟨empty, -⟩ | ⟨j, other, same⟩
  · rw [(Invocation.ofLine_eq_none line).2 empty] at read
    cases read
  · obtain rfl := Option.some.inj (read.symm.trans other)
    exact same

end Parts

theorem row_fields_exact (seq : Nat) (line : String) : (ofLine seq line).Tells line := by
  obtain ⟨binary, hex, error⟩ := present_iff seq line
  refine ⟨binary, hex, error, ?_, ?_, ?_, ?_, ofLine_error_mnemonic seq line, ?_⟩
  · intro bits shown
    obtain ⟨e, encoded, rfl, hexShown⟩ := ofLine_word seq line bits shown
    exact ⟨e.word.bits_digits, e, encoded, rfl, hexShown, e.word.hexOfBits_bits⟩
  · simp only [expanded_isSome, Shorthand.exists_shorthand]
  · intro expanded
    obtain ⟨i, read, shorthand⟩ := (expanded_isSome seq line).1 expanded
    exact error.2 ⟨i, read, .inr shorthand⟩
  · intro text shown
    rcases ofLine_error seq line text shown with ⟨empty, same⟩ | ⟨i, read, same⟩
    · exact ⟨fun _ => empty, fun _ => same⟩
    · constructor
      · intro blank
        exact absurd (same.symm.trans blank) (Rejection.unknownOpcode_ne_blank i.mnemonic)
      · intro empty
        rw [(Invocation.ofLine_eq_none line).2 empty] at read
        cases read
  · intro i read listed misfit
    have wordless := not_hasWord_misfit line i read listed misfit
    obtain ⟨text, shown⟩ := Option.ne_none_iff_exists'.1 fun none => wordless (error.1 none)
    rw [shown, ofLine_error_mnemonic seq line text i shown read]
    rfl

end Row

end Asm16
