import Asm16.Proofs.Packing
import Asm16.Proofs.Spellings

set_option autoImplicit false

namespace Asm16

theorem totalWidth_append (front back : List Field) :
    totalWidth (front ++ back) = totalWidth front + totalWidth back := by
  simp [totalWidth]

section Values

variable (high : Nat)

theorem fieldsValue_append (front back : List Field) :
    fieldsValue high (front ++ back) = fieldsValue (fieldsValue high front) back := by
  induction front generalizing high with
  | nil => rfl
  | cons f front ih => exact ih _

theorem appended_div (value width : Nat) :
    (high * 2 ^ width + value % 2 ^ width) / 2 ^ width = high := by
  have positive := Nat.two_pow_pos width
  have low : value % 2 ^ width / 2 ^ width = 0 := Nat.div_eq_of_lt (Nat.mod_lt value positive)
  rw [Nat.add_comm, Nat.add_mul_div_right _ _ positive, low, Nat.zero_add]

theorem appended_mod (value width : Nat) :
    (high * 2 ^ width + value % 2 ^ width) % 2 ^ width = value % 2 ^ width := by
  rw [Nat.add_comm, Nat.add_mul_mod_self_right, Nat.mod_mod]

theorem fieldsValue_div (fields : List Field) :
    fieldsValue high fields / 2 ^ totalWidth fields = high := by
  induction fields generalizing high with
  | nil => simp [fieldsValue, totalWidth]
  | cons f rest ih =>
    calc
      fieldsValue high (f :: rest) / 2 ^ totalWidth (f :: rest)
          = fieldsValue high (f :: rest) / 2 ^ totalWidth rest / 2 ^ f.width := by
        rw [Nat.div_div_eq_div_mul, ← Nat.pow_add, totalWidth_cons, Nat.add_comm]
      _ = (high * 2 ^ f.width + f.value.toNat % 2 ^ f.width) / 2 ^ f.width := by
        rw [fieldsValue, ih]
      _ = high := appended_div high f.value.toNat f.width

theorem fieldsValue_read (front back : List Field) (f : Field) :
    fieldsValue high (front ++ f :: back) >>> totalWidth back % 2 ^ f.width =
      f.value.toNat % 2 ^ f.width := by
  rw [Nat.shiftRight_eq_div_pow, fieldsValue_append, fieldsValue, fieldsValue_div, appended_mod]

end Values

namespace Word

theorem bitChars_appended (high value used width : Nat) :
    bitChars (high * 2 ^ width + value % 2 ^ width) (used + width) =
      bitChars high used ++ bitChars (value % 2 ^ width) width := by
  rw [bitChars_add, appended_div, ← bitChars_mod _ width, appended_mod]

def binary (width n : Nat) : List Char := (Nat.toDigits 2 n).leftpad width '0'

theorem bitChars_zero (count : Nat) : bitChars 0 count = List.replicate count '0' := by
  induction count with
  | zero => rfl
  | succ count ih =>
    rw [bitChars_succ, ih, List.replicate_succ, Nat.zero_testBit]
    rfl

-- Both are made from the last digit upwards. A single digit is all that a numeral has to have, so
-- the induction starts there.
theorem bitChars_eq_binary (x count : Nat) (fits : x < 2 ^ (count + 1)) :
    bitChars x (count + 1) = binary (count + 1) x := by
  induction count generalizing x with
  | zero =>
    have digit : x < 2 := fits
    rw [bitChars_last, binary, Nat.toDigits_of_lt_base digit, Nat.mod_eq_of_lt digit]
    rfl
  | succ count ih =>
    rw [bitChars_last, binary]
    by_cases digit : x < 2
    · rw [Nat.toDigits_of_lt_base digit, Nat.mod_eq_of_lt digit, Nat.div_eq_of_lt digit,
        bitChars_zero]
      rfl
    · have half : x / 2 < 2 ^ (count + 1) := by
        rw [Nat.pow_succ] at fits
        omega
      rw [Nat.toDigits_of_base_le (by decide) (Nat.not_lt.1 digit), ih _ half, binary]
      simp [List.leftpad]

end Word

def Field.digits (f : Field) : List Char := Word.binary f.width (f.value.toNat % 2 ^ f.width)

theorem Field.digits_eq (f : Field) (positive : 0 < f.width) :
    f.digits = Word.bitChars (f.value.toNat % 2 ^ f.width) f.width := by
  obtain ⟨value, width⟩ := f
  cases width with
  | zero => cases positive
  | succ less =>
    exact (Word.bitChars_eq_binary _ less (Nat.mod_lt _ (Nat.two_pow_pos _))).symm

theorem bitChars_fieldsValue (high used : Nat) (fields : List Field)
    (positive : ∀ f ∈ fields, 0 < f.width) :
    Word.bitChars (fieldsValue high fields) (used + totalWidth fields) =
      Word.bitChars high used ++ fields.flatMap Field.digits := by
  induction fields generalizing high used with
  | nil => simp [fieldsValue, totalWidth]
  | cons f rest ih =>
    obtain ⟨first, others⟩ := List.forall_mem_cons.1 positive
    rw [fieldsValue, totalWidth_cons, ← Nat.add_assoc, ih _ _ others, Word.bitChars_appended,
      List.flatMap_cons, List.append_assoc, f.digits_eq first]

namespace Packing

theorem pushAll_append (p : Packing) (front back : List Field) :
    p.pushAll (front ++ back) = (p.pushAll front).bind fun next => next.pushAll back := by
  induction front generalizing p with
  | nil => rfl
  | cons f front ih =>
    simp only [List.cons_append, pushAll]
    cases p.push f with
    | error fault => rfl
    | ok next => exact ih next

theorem finish_iff (p : Packing) (w : Word) :
    p.finish = .ok w ↔ p.used = Word.size ∧ w = ⟨p.word⟩ := by
  unfold finish
  split <;> simp_all [eq_comm]

/-- No field disturbs another, and a word that is filled is spelled by its fields. -/
theorem field_list_exact (fields : List Field)
    (widths : ∀ f ∈ fields, 1 ≤ f.width ∧ f.width ≤ 15) (fits : totalWidth fields ≤ 16) :
    ∃ last, ({} : Packing).pushAll fields = .ok last ∧
      (∀ front back, fields = front ++ back →
        ∃ p, ({} : Packing).pushAll front = .ok p ∧ p.pushAll back = .ok last ∧
          p.used = totalWidth front ∧ p.word.toNat < 2 ^ p.used) ∧
      (∀ front f back, fields = front ++ f :: back →
        last.word.toNat >>> totalWidth back % 2 ^ f.width = f.value.toNat % 2 ^ f.width) ∧
      ((∃ w, last.finish = .ok w) ↔ totalWidth fields = 16) ∧
      ∀ w, last.finish = .ok w → w.bits = String.ofList (fields.flatMap Field.digits) := by
  have start : ({} : Packing).Bounded := by decide
  have maskable : ∀ f ∈ fields, f.Maskable :=
    fun f member => ⟨(widths f member).1, Nat.lt_succ_of_le (widths f member).2⟩
  obtain ⟨last, pushed, used, -, word⟩ :=
    pushAll_exact {} fields start maskable (by simpa [Word.size] using fits)
  have total : last.used = totalWidth fields := by simpa using used
  refine ⟨last, pushed, ?_, ?_, ?_, ?_⟩
  · rintro front back rfl
    have room : totalWidth front ≤ Word.size := by
      rw [totalWidth_append] at fits
      exact Nat.le_of_add_right_le fits
    obtain ⟨p, reached, width, bounded, -⟩ :=
      pushAll_exact {} front start (fun f member => maskable f (List.mem_append_left back member))
        (by simpa using room)
    rw [pushAll_append, reached] at pushed
    exact ⟨p, reached, pushed, by simpa using width, bounded⟩
  · rintro front f back rfl
    rw [word]
    exact fieldsValue_read 0 front back f
  · simp [finish_iff, total, Word.size]
  · intro w finished
    obtain ⟨full, rfl⟩ := (finish_iff last w).1 finished
    have spelled := bitChars_fieldsValue 0 0 fields fun f member => (maskable f member).1
    rw [← total, full, Nat.zero_add] at spelled
    rw [← String.toList_inj, String.toList_ofList, Word.bits_toList, word]
    exact spelled

theorem three_fields_packed :
    ∃ last, ({} : Packing).pushAll [⟨5, 3⟩, ⟨0xFFFE, 4⟩, ⟨512, 9⟩] = .ok last ∧
      last.word.toNat >>> 9 % 2 ^ 4 = 14 ∧
      ∃ w, last.finish = .ok w ∧ w.bits = "1011110000000000" := by
  obtain ⟨last, pushed, -, read, full, spelled⟩ :=
    field_list_exact [⟨5, 3⟩, ⟨0xFFFE, 4⟩, ⟨512, 9⟩] (by decide) (by decide)
  obtain ⟨w, finished⟩ := full.2 rfl
  exact ⟨last, pushed, read [⟨5, 3⟩] ⟨0xFFFE, 4⟩ [⟨512, 9⟩] rfl, w, finished,
    (spelled w finished).trans (by decide)⟩

end Packing

end Asm16
