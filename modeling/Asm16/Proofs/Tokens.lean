import Asm16.Proofs.Registers

set_option autoImplicit false

namespace Asm16

structure IsToken (text : String) : Prop where
  nonempty : text.toList ≠ []
  solid : ∀ c ∈ text.toList, isSeparator c = false
  upper : ∀ c ∈ text.toList, c.toUpper = c

def isToken (text : String) : Bool :=
  !text.toList.isEmpty && text.toList.all fun c => !isSeparator c && c.toUpper == c

theorem isToken_iff (text : String) : isToken text = true ↔ IsToken text := by
  simp only [isToken, Bool.and_eq_true, Bool.not_eq_true', List.isEmpty_eq_false_iff,
    List.all_eq_true, beq_iff_eq]
  exact ⟨fun ⟨nonempty, chars⟩ =>
      ⟨nonempty, fun c member => (chars c member).1, fun c member => (chars c member).2⟩,
    fun token => ⟨token.nonempty, fun c member => ⟨token.solid c member, token.upper c member⟩⟩⟩

instance (text : String) : Decidable (IsToken text) := decidable_of_iff _ (isToken_iff text)

theorem toUpper_toUpper (c : Char) : c.toUpper.toUpper = c.toUpper := by
  rw [← Char.toNat_inj, toUpper_toNat c.toUpper, if_neg]
  rw [toUpper_toNat]
  split <;> omega

theorem isSeparator_toUpper (c : Char) : isSeparator c.toUpper = isSeparator c := by
  by_cases small : 97 ≤ c.toNat ∧ c.toNat ≤ 122
  · have letter (d : Char) (range : 65 ≤ d.toNat ∧ d.toNat ≤ 122) : isSeparator d = false := by
      have comma : d ≠ ',' := by
        intro same
        have code : d.toNat = 44 := congrArg Char.toNat same
        omega
      simp only [isSeparator, Text.isBlank, beq_eq_false_iff_ne.2 comma]
      simp
      omega
    rw [letter c (by omega), letter c.toUpper (by rw [toUpper_toNat, if_pos small]; omega)]
  · have same : c.toUpper = c := by
      rw [← Char.toNat_inj, toUpper_toNat, if_neg small]
    rw [same]

section Runs

def solidRuns (cs : List Char) : List (List Char) :=
  (cs.splitOnP isSeparator).filter (!·.isEmpty)

theorem tokens_eq_solidRuns (line : String) :
    tokens line = (solidRuns (line.toList.map Char.toUpper)).map String.ofList := by
  simp [tokens, solidRuns, Text.upper]

theorem solidRuns_separator (before after : List Char) (c : Char)
    (separates : isSeparator c = true) :
    solidRuns (before ++ c :: after) = solidRuns before ++ solidRuns after := by
  rw [solidRuns, List.splitOnP_append_cons before after separates, List.filter_append]
  rfl

theorem solidRuns_gap (before gap after : List Char) (nonempty : gap ≠ [])
    (separates : ∀ c ∈ gap, isSeparator c = true) :
    solidRuns (before ++ gap ++ after) = solidRuns before ++ solidRuns after := by
  induction gap generalizing before with
  | nil => exact absurd rfl nonempty
  | cons c gap ih =>
    obtain ⟨first, others⟩ := List.forall_mem_cons.1 separates
    rw [List.append_assoc, List.cons_append, solidRuns_separator _ _ _ first]
    by_cases last : gap = []
    · rw [last, List.nil_append]
    · have rest := ih [] last others
      rw [List.nil_append] at rest
      rw [rest]
      rfl

theorem solidRuns_solid (cs : List Char) (nonempty : cs ≠ [])
    (solid : ∀ c ∈ cs, isSeparator c = false) : solidRuns cs = [cs] := by
  rw [solidRuns, List.splitOnP_eq_singleton solid]
  simp [nonempty]

theorem mem_splitOnP_solid (cs run : List Char) (member : run ∈ cs.splitOnP isSeparator) :
    ∀ c ∈ run, isSeparator c = false ∧ c ∈ cs := by
  induction cs generalizing run with
  | nil => simp_all [List.splitOnP_nil]
  | cons d cs ih =>
    have later (other : List Char) (behind : other ∈ cs.splitOnP isSeparator) :
        ∀ c ∈ other, isSeparator c = false ∧ c ∈ d :: cs :=
      fun c inside => (ih other behind c inside).imp_right (List.mem_cons_of_mem d)
    rw [List.splitOnP_cons_eq_if_modifyHead] at member
    by_cases separates : isSeparator d = true
    · rw [if_pos separates, List.mem_cons] at member
      rcases member with rfl | behind
      · simp
      · exact later run behind
    · obtain ⟨first, others, split⟩ := List.exists_cons_of_ne_nil
        (List.splitOnP_ne_nil isSeparator cs)
      rw [split] at later
      rw [if_neg separates, split, List.modifyHead_cons, List.mem_cons] at member
      rcases member with rfl | behind
      · rw [List.forall_mem_cons]
        exact ⟨⟨by simpa using separates, by simp⟩, later first (by simp)⟩
      · exact later run (by simp [behind])

end Runs

theorem isToken_of_mem_tokens (line text : String) (member : text ∈ tokens line) :
    IsToken text := by
  rw [tokens_eq_solidRuns] at member
  obtain ⟨run, inside, rfl⟩ := List.mem_map.1 member
  obtain ⟨piece, nonempty⟩ := List.mem_filter.1 inside
  have chars := mem_splitOnP_solid _ run piece
  constructor
  · simpa using nonempty
  · intro c inside
    exact (chars c (by simpa using inside)).1
  · intro c inside
    obtain ⟨d, -, rfl⟩ := List.mem_map.1 (chars c (by simpa using inside)).2
    exact toUpper_toUpper d

theorem tokens_of_isToken (text : String) (token : IsToken text) : tokens text = [text] := by
  have upper : text.toList.map Char.toUpper = text.toList := by
    conv_rhs => rw [← List.map_id text.toList]
    exact List.map_congr_left token.upper
  rw [tokens_eq_solidRuns, upper, solidRuns_solid _ token.nonempty token.solid]
  simp

theorem tokens_gap (before gap after : String) (nonempty : gap.toList ≠ [])
    (separates : gap.toList.all isSeparator = true) :
    tokens (before ++ gap ++ after) = tokens before ++ tokens after := by
  have upper : ∀ c ∈ gap.toList.map Char.toUpper, isSeparator c = true := by
    intro c member
    obtain ⟨d, inside, rfl⟩ := List.mem_map.1 member
    rw [isSeparator_toUpper]
    exact List.all_eq_true.1 separates d inside
  simp only [tokens_eq_solidRuns, String.toList_append, List.map_append]
  rw [solidRuns_gap _ _ _ (by simpa using nonempty) upper, List.map_append]

theorem tokens_intercalate (texts : List String) (all : ∀ text ∈ texts, IsToken text) :
    tokens (String.intercalate ", " texts) = texts := by
  induction texts with
  | nil => rfl
  | cons text rest ih =>
    rw [List.forall_mem_cons] at all
    cases rest with
    | nil => exact tokens_of_isToken text all.1
    | cons next rest =>
      rw [String.intercalate_cons_cons, tokens_gap _ _ _ (by decide) rfl,
        tokens_of_isToken text all.1, ih all.2]
      rfl

namespace Invocation

def WellFormed (i : Invocation) : Prop := ∀ text ∈ i.mnemonic :: i.operands, IsToken text

def text (i : Invocation) : String := i.mnemonic ++ " " ++ String.intercalate ", " i.operands

theorem ofLine_eq_some (line : String) (i : Invocation) :
    ofLine? line = some i ↔ tokens line = i.mnemonic :: i.operands := by
  unfold ofLine?
  cases tokens line with
  | nil => simp [ofTokens?]
  | cons mnemonic operands =>
    obtain ⟨name, rest⟩ := i
    simp [ofTokens?]

theorem ofLine_eq_none (line : String) : ofLine? line = none ↔ tokens line = [] := by
  unfold ofLine?
  cases tokens line <;> simp [ofTokens?]

theorem wellFormed_of_ofLine (line : String) (i : Invocation) (read : ofLine? line = some i) :
    i.WellFormed := by
  intro text member
  rw [← (ofLine_eq_some line i).1 read] at member
  exact isToken_of_mem_tokens line text member

theorem tokens_text (i : Invocation) (wellFormed : i.WellFormed) :
    tokens i.text = i.mnemonic :: i.operands := by
  obtain ⟨mnemonic, operands⟩ := List.forall_mem_cons.1 wellFormed
  rw [text, tokens_gap _ _ _ (by decide) rfl, tokens_of_isToken _ mnemonic,
    tokens_intercalate _ operands]
  rfl

theorem ofLine_text (i : Invocation) (wellFormed : i.WellFormed) : ofLine? i.text = some i :=
  (ofLine_eq_some i.text i).2 (tokens_text i wellFormed)

end Invocation

end Asm16
