import Asm16.Proofs.Grammar
import Asm16.Proofs.Rows

set_option autoImplicit false

namespace Asm16

structure Gap where
  text : String
  nonempty : text ≠ ""
  separates : ∀ c ∈ text.toList, c = ',' ∨ Text.isBlank c = true

inductive Edit : String → String → Prop where
  | capitalize (before : String) (small capital : Char) (after : String)
      (letter : 'a' ≤ small ∧ small ≤ 'z') (same : capital.toNat + 32 = small.toNat) :
      Edit (before ++ String.singleton small ++ after) (before ++ String.singleton capital ++ after)
  | respace (before : String) (gap other : Gap) (after : String) :
      Edit (before ++ gap.text ++ after) (before ++ other.text ++ after)
  | indent (gap : Gap) (line : String) : Edit line (gap.text ++ line)
  | trail (line : String) (gap : Gap) : Edit line (line ++ gap.text)

def SpelledAlike : String → String → Prop := Relation.EqvGen Edit

section Kept

variable {line other : String}

theorem toUpper_small (small capital : Char) (letter : 'a' ≤ small ∧ small ≤ 'z')
    (same : capital.toNat + 32 = small.toNat) : small.toUpper = capital := by
  have range : 97 ≤ small.toNat ∧ small.toNat ≤ 122 := letter
  rw [← Char.toNat_inj, toUpper_toNat, if_pos range]
  omega

theorem Gap.isGap (gap : Gap) : isGap gap.text = true := by
  simpa [Asm16.isGap, isSeparator] using gap.separates

theorem Gap.tokens_between (gap : Gap) (before after : String) :
    tokens (before ++ gap.text ++ after) = tokens before ++ tokens after :=
  tokens_gap before gap.text after (by simpa using gap.nonempty) gap.isGap

theorem Edit.tokens_eq (edit : Edit line other) : tokens line = tokens other := by
  cases edit with
  | capitalize before small capital after letter same =>
    have upper := toUpper_small small capital letter same
    have still : capital.toUpper = capital := by rw [← upper, toUpper_toUpper]
    simp only [tokens, Text.upper, String.toList_append, String.toList_singleton, List.map_append,
      List.map_cons, List.map_nil, upper, still]
  | respace before gap other after => rw [gap.tokens_between, other.tokens_between]
  | indent gap _ => rw [tokens_gap_front _ _ gap.isGap]
  | trail _ gap => rw [tokens_gap_back _ _ gap.isGap]

theorem SpelledAlike.tokens_eq (alike : SpelledAlike line other) : tokens line = tokens other := by
  induction alike with
  | rel line other edit => exact edit.tokens_eq
  | refl line => rfl
  | symm line other _ ih => exact ih.symm
  | trans line middle other _ _ first second => exact first.trans second

end Kept

section Plain

variable {line other : String}

theorem alike_capital (before : String) (c : Char) (after : String) :
    SpelledAlike (before ++ String.singleton c ++ after)
      (before ++ String.singleton c.toUpper ++ after) := by
  have code := toUpper_toNat c
  by_cases small : 97 ≤ c.toNat ∧ c.toNat ≤ 122
  · rw [if_pos small] at code
    exact .rel _ _ (.capitalize before c c.toUpper after small (by omega))
  · rw [if_neg small, Char.toNat_inj] at code
    rw [code]
    exact .refl _

theorem alike_upper (before : String) (cs : List Char) :
    SpelledAlike (before ++ String.ofList cs) (before ++ String.ofList (cs.map Char.toUpper)) := by
  induction cs generalizing before with
  | nil => exact .refl _
  | cons c cs ih =>
    rw [List.map_cons, String.ofList_cons, String.ofList_cons, ← String.append_assoc,
      ← String.append_assoc]
    exact .trans _ _ _ (alike_capital before c _) (ih _)

def Gap.append (gap other : Gap) : Gap where
  text := gap.text ++ other.text
  nonempty := by simp [gap.nonempty]
  separates := by
    rw [String.toList_append, List.forall_mem_append]
    exact ⟨gap.separates, other.separates⟩

-- Behind a separator a line may be edited as if it stood alone: what is put before its first word
-- then makes the gap longer.
theorem Edit.behind (before : String) (gap : Gap) (edit : Edit line other) :
    Edit (before ++ gap.text ++ line) (before ++ gap.text ++ other) := by
  cases edit with
  | capitalize front small capital back letter same =>
    have moved := capitalize (before ++ gap.text ++ front) small capital back letter same
    simpa only [String.append_assoc] using moved
  | respace front inner outer back =>
    have moved := respace (before ++ gap.text ++ front) inner outer back
    simpa only [String.append_assoc] using moved
  | indent inner _ =>
    have longer := respace before gap (gap.append inner) line
    simpa only [Gap.append, String.append_assoc] using longer
  | trail _ inner =>
    have moved := trail (before ++ gap.text ++ line) inner
    simpa only [String.append_assoc] using moved

theorem SpelledAlike.behind (before : String) (gap : Gap) (alike : SpelledAlike line other) :
    SpelledAlike (before ++ gap.text ++ line) (before ++ gap.text ++ other) := by
  induction alike with
  | rel line other edit => exact .rel _ _ (edit.behind before gap)
  | refl line => exact .refl _
  | symm line other _ ih => exact .symm _ _ ih
  | trans line middle other _ _ first second => exact .trans _ _ _ first second

def Gap.single (c : Char) (separates : isSeparator c = true) : Gap where
  text := String.singleton c
  nonempty := by simp
  separates := by simpa [isSeparator] using separates

def Gap.blank : Gap := single ' ' rfl

def plain (words : List (List Char)) : String := String.intercalate " " (words.map String.ofList)

theorem plain_cons (word : List Char) (words : List (List Char)) (more : words ≠ []) :
    plain (word :: words) = String.ofList word ++ Gap.blank.text ++ plain words := by
  obtain ⟨next, rest, rfl⟩ := List.exists_cons_of_ne_nil more
  exact String.intercalate_cons_cons

theorem alike_plain_broken (piece : List Char) (gap : Gap) (words : List (List Char)) :
    SpelledAlike (String.ofList piece ++ gap.text ++ plain words)
      (plain ((if piece = [] then [] else [piece]) ++ words)) := by
  by_cases first : piece = []
  · rw [if_pos first, first, List.nil_append, String.ofList_nil, String.empty_append]
    exact .symm _ _ (.rel _ _ (.indent gap _))
  · rw [if_neg first, List.singleton_append]
    by_cases last : words = []
    · have line : plain words = "" := by rw [last]; rfl
      have word : plain (piece :: words) = String.ofList piece := by rw [last]; rfl
      rw [line, word, String.append_empty]
      exact .symm _ _ (.rel _ _ (.trail _ gap))
    · rw [plain_cons piece words last]
      exact .rel _ _ (.respace _ gap Gap.blank _)

theorem alike_plain (cs : List Char) : SpelledAlike (String.ofList cs) (plain (solidRuns cs)) := by
  induction cs using separator_induction with
  | unbroken piece solid =>
    have same : plain (solidRuns piece) = String.ofList piece := by
      rw [solidRuns_unbroken piece solid]
      split
      · rename_i empty
        rw [empty]
        rfl
      · rfl
    rw [same]
    exact .refl _
  | broken piece c rest solid separates ih =>
    have parts : String.ofList (piece ++ c :: rest) =
        String.ofList piece ++ (Gap.single c separates).text ++ String.ofList rest := by
      simp [Gap.single, ← String.toList_inj]
    rw [parts, solidRuns_separator _ _ _ separates, solidRuns_unbroken piece solid]
    exact .trans _ _ _ (ih.behind _ _) (alike_plain_broken piece _ _)

theorem alike_tokens (line : String) :
    SpelledAlike line (String.intercalate " " (tokens line)) := by
  have upper := alike_upper "" line.toList
  rw [String.empty_append, String.empty_append, String.ofList_toList] at upper
  rw [tokens_eq_solidRuns]
  exact .trans _ _ _ upper (alike_plain _)

end Plain

theorem spelledAlike_iff (line other : String) :
    SpelledAlike line other ↔ tokens line = tokens other := by
  constructor
  · exact SpelledAlike.tokens_eq
  · intro same
    have back := alike_tokens other
    rw [← same] at back
    exact .trans _ _ _ (alike_tokens line) (.symm _ _ back)

/-- To be spelled alike is to have the same tokens, and then rows differ in their source only. -/
theorem spelled_alike_exact (line other : String) :
    (SpelledAlike line other ↔ tokens line = tokens other) ∧
      (SpelledAlike line other →
        Encoding.ofLine line = Encoding.ofLine other ∧
          ∀ seq,
            Row.ofLine seq other = { Row.ofLine seq line with source := Text.trim other }) := by
  refine ⟨spelledAlike_iff line other, ?_⟩
  intro alike
  have same := alike.tokens_eq
  exact ⟨Encoding.ofLine_congr line other same, fun seq => Row.ofLine_source seq line other same⟩

theorem addi_spelled_alike :
    SpelledAlike "\taddi r1,,R2 , 5x" "ADDI R1 r2\u3000,5X, " ∧
      Encoding.ofLine "\taddi r1,,R2 , 5x" = Encoding.ofLine "ADDI R1 r2\u3000,5X, " ∧
      Row.ofLine 3 "ADDI R1 r2\u3000,5X, " =
        { Row.ofLine 3 "\taddi r1,,R2 , 5x" with source := "ADDI R1 r2\u3000,5X," } := by
  obtain ⟨tokens, kept⟩ := spelled_alike_exact "\taddi r1,,R2 , 5x" "ADDI R1 r2\u3000,5X, "
  have alike := tokens.2 (by decide +kernel)
  obtain ⟨encoded, row⟩ := kept alike
  have source : Text.trim "ADDI R1 r2\u3000,5X, " = "ADDI R1 r2\u3000,5X," := by decide +kernel
  refine ⟨alike, encoded, ?_⟩
  rw [row, source]

end Asm16
