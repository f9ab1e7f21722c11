import Asm16.Proofs.Assembly
import Asm16.Proofs.Grammar
import Asm16.Proofs.RowFields

set_option autoImplicit false

namespace Asm16

open Text (textLines)

-- A run passes over a line of blanks. A line with a comma among them has no token either, but it gets
-- a number and a row.
def OnlyCommas (line : String) : Prop :=
  ',' ∈ line.toList ∧ ∀ c ∈ line.toList, c = ',' ∨ Text.isBlank c = true

def onlyCommas (line : String) : Bool := line.toList.contains ',' && isGap line

theorem onlyCommas_iff (line : String) : onlyCommas line = true ↔ OnlyCommas line := by
  simp [onlyCommas, OnlyCommas, isGap, isSeparator]

instance (line : String) : Decidable (OnlyCommas line) := decidable_of_iff _ (onlyCommas_iff line)

theorem allBlank_of_onlyCommas (line : String) (commas : OnlyCommas line) :
    Text.allBlank line = false := by
  rw [Text.allBlank, List.all_eq_false]
  exact ⟨',', commas.1, by decide⟩

theorem tokens_eq_nil_iff (line : String) (shown : Text.allBlank line = false) :
    tokens line = [] ↔ OnlyCommas line := by
  rw [← Invocation.ofLine_eq_none, Invocation.ofLine_eq_none_iff, OnlyCommas, iff_and_self]
  intro separators
  rw [Text.allBlank, List.all_eq_false] at shown
  obtain ⟨c, member, solid⟩ := shown
  rcases separators c member with rfl | blank
  · exact member
  · exact absurd blank solid

theorem Row.ofLine_error_blank (seq : Nat) (line : String) :
    (ofLine seq line).error = some Rejection.blank.message ↔ tokens line = [] := by
  constructor
  · intro shown
    rcases ofLine_error seq line _ shown with ⟨empty, -⟩ | ⟨i, -, same⟩
    · exact empty
    · exact absurd same.symm (Rejection.unknownOpcode_ne_blank i.mnemonic)
  · intro empty
    have unread := (Invocation.ofLine_eq_none line).2 empty
    rcases ofLine_cases seq line with ⟨word, -⟩ | ⟨-, -, -, ⟨-, error⟩ | ⟨i, read, -⟩⟩
    · exact absurd word (not_hasWord_blank line unread)
    · exact error
    · rw [unread] at read
      cases read

theorem listing_error_blank (first : Nat) (lines : List String) :
    List.Forall₂ (fun row line => row.error = some Rejection.blank.message ↔ OnlyCommas line)
      (listing first lines) (written lines) := by
  induction lines generalizing first with
  | nil => exact .nil
  | cons line lines ih =>
    cases blank : Text.allBlank line with
    | true =>
      have skipped : written (line :: lines) = written lines := by simp [written, blank]
      rw [listing_blank first line lines blank, skipped]
      exact ih first
    | false =>
      have kept : written (line :: lines) = line :: written lines := by simp [written, blank]
      rw [listing_written first line lines blank, kept]
      exact .cons ((Row.ofLine_error_blank first line).trans (tokens_eq_nil_iff line blank))
        (ih (first + 1))

theorem forall_error_iff (rows : List Row) (lines : List String)
    (told : List.Forall₂
      (fun row line => row.error = some Rejection.blank.message ↔ OnlyCommas line) rows lines) :
    (∀ row ∈ rows, row.error ≠ some Rejection.blank.message) ↔
      ∀ line ∈ lines, ¬ OnlyCommas line := by
  induction told with
  | nil => simp
  | cons first _ ih => rw [List.forall_mem_cons, List.forall_mem_cons, ih, ne_eq, first]

theorem forall_written_iff (lines : List String) :
    (∀ line ∈ written lines, ¬ OnlyCommas line) ↔ ∀ line ∈ lines, ¬ OnlyCommas line := by
  simp only [written, List.mem_filter, Bool.not_eq_true', and_imp]
  constructor
  · intro none line member commas
    exact none line member (allBlank_of_onlyCommas line commas) commas
  · intro none line member _
    exact none line member

/-- The rows that miss a mnemonic are those of lines with nothing but commas and blanks. -/
theorem missing_mnemonics_exact (source : String) :
    ∃ a, assemble source = .ok a ∧
      List.Forall₂ (fun row line => row.error = some Rejection.blank.message ↔ OnlyCommas line)
        a.rows (written (textLines source)) ∧
      ((∀ row ∈ a.rows, row.error ≠ some Rejection.blank.message) ↔
        ∀ line ∈ textLines source, ¬ OnlyCommas line) ∧
      ((∀ line ∈ written (textLines source), tokens line ≠ []) ↔
        ∀ line ∈ textLines source, ¬ OnlyCommas line) := by
  have told := listing_error_blank 1 (textLines source)
  refine ⟨_, assemble_eq source, told, ?_, ?_⟩
  · rw [← forall_written_iff]
    exact forall_error_iff _ _ told
  · rw [← forall_written_iff]
    apply forall₂_congr
    intro line member
    have shown : Text.allBlank line = false := by simpa using (List.mem_filter.1 member).2
    rw [ne_eq, tokens_eq_nil_iff line shown]

theorem mnemonics_of_three_lines :
    ∃ a, assemble ",x\n \t\nNOP" = .ok a ∧ a.rows.length = 2 ∧
      ∀ row ∈ a.rows, row.error ≠ some Rejection.blank.message := by
  obtain ⟨a, assembled, told, named, -⟩ := missing_mnemonics_exact ",x\n \t\nNOP"
  have lines : textLines ",x\n \t\nNOP" = [",x", " \t", "NOP"] := by decide +kernel
  rw [lines] at told named
  have shown : (written [",x", " \t", "NOP"]).length = 2 := by decide +kernel
  have apart : ¬ OnlyCommas ",x" ∧ ¬ OnlyCommas " \t" ∧ ¬ OnlyCommas "NOP" := by decide +kernel
  exact ⟨a, assembled, told.length_eq.trans shown, named.2 (by simpa using apart)⟩

theorem comma_line_numbered :
    assemble "," = .ok
        { rows := [{ seq := 1, source := ",", error := some Rejection.blank.message }]
          words := []
          summary := { lines := 1, encoded := 0, rejected := 1 } } ∧
      ¬ ∀ source a, assemble source = .ok a →
        ∀ row ∈ a.rows, row.error ≠ some Rejection.blank.message := by
  have assembled : assemble "," = .ok
      { rows := [{ seq := 1, source := ",", error := some Rejection.blank.message }]
        words := []
        summary := { lines := 1, encoded := 0, rejected := 1 } } := rfl
  refine ⟨assembled, ?_⟩
  intro never
  exact never "," _ assembled _ (List.mem_singleton.2 rfl) rfl

end Asm16
