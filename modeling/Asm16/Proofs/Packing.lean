import Asm16.Machine.Instruction
import Mathlib.Tactic

set_option autoImplicit false

namespace Asm16

def fieldsValue : Nat → List Field → Nat
  | high, [] => high
  | high, f :: rest => fieldsValue (high * 2 ^ f.width + f.value.toNat % 2 ^ f.width) rest

def totalWidth (fields : List Field) : Nat := (fields.map Field.width).sum

theorem totalWidth_cons (f : Field) (fields : List Field) :
    totalWidth (f :: fields) = f.width + totalWidth fields := by
  simp [totalWidth]

def Field.Maskable (f : Field) : Prop := 0 < f.width ∧ f.width < Word.size

instance (f : Field) : Decidable f.Maskable := inferInstanceAs (Decidable (_ ∧ _))

namespace Packing

def Bounded (p : Packing) : Prop := p.word.toNat < 2 ^ p.used

instance (p : Packing) : Decidable p.Bounded := inferInstanceAs (Decidable (_ < _))

theorem mask_toNat (width : Nat) (narrow : width < Word.size) :
    (mask width).toNat = 2 ^ width - 1 := by
  unfold Word.size at narrow
  interval_cases width <;> rfl

theorem masked_toNat (value : UInt16) (width : Nat) (narrow : width < Word.size) :
    (value &&& mask width).toNat = value.toNat % 2 ^ width := by
  rw [UInt16.toNat_and, mask_toNat width narrow, Nat.and_two_pow_sub_one_eq_mod]

theorem shifted_toNat (p : Packing) (width : Nat) (bounded : p.Bounded)
    (narrow : width < Word.size) (fits : p.used + width ≤ Word.size) :
    (p.word <<< UInt16.ofNat width).toNat = p.word.toNat * 2 ^ width := by
  unfold Word.size at narrow fits
  have amount : (UInt16.ofNat width).toNat % 16 = width := by
    rw [UInt16.toNat_ofNat']
    omega
  have room : p.word.toNat * 2 ^ width < 2 ^ 16 := by
    calc
      p.word.toNat * 2 ^ width < 2 ^ p.used * 2 ^ width :=
        Nat.mul_lt_mul_of_pos_right bounded (Nat.two_pow_pos width)
      _ = 2 ^ (p.used + width) := (Nat.pow_add 2 p.used width).symm
      _ ≤ 2 ^ 16 := Nat.pow_le_pow_right (by decide) fits
  rw [UInt16.toNat_shiftLeft, amount, Nat.shiftLeft_eq, Nat.mod_eq_of_lt room]

theorem appended_lt (high used value width : Nat) (bounded : high < 2 ^ used) :
    high * 2 ^ width + value % 2 ^ width < 2 ^ (used + width) := by
  have low : value % 2 ^ width < 2 ^ width := Nat.mod_lt value (Nat.two_pow_pos width)
  calc
    high * 2 ^ width + value % 2 ^ width < (high + 1) * 2 ^ width := by
      rw [Nat.add_mul, Nat.one_mul]
      omega
    _ ≤ 2 ^ used * 2 ^ width := Nat.mul_le_mul_right _ bounded
    _ = 2 ^ (used + width) := (Nat.pow_add 2 used width).symm

theorem within_endLimit (p : Packing) (f : Field) (fits : p.used + f.width ≤ Word.size) :
    ¬ endLimit ≤ p.used + f.width :=
  Nat.not_le.2 (Nat.lt_of_le_of_lt fits (by decide))

theorem push_exact (p : Packing) (f : Field) (bounded : p.Bounded) (maskable : f.Maskable)
    (fits : p.used + f.width ≤ Word.size) :
    ∃ next, p.push f = .ok next ∧ next.used = p.used + f.width ∧ next.Bounded ∧
      next.word.toNat = p.word.toNat * 2 ^ f.width + f.value.toNat % 2 ^ f.width := by
  obtain ⟨positive, narrow⟩ := maskable
  have value : ((p.word <<< UInt16.ofNat f.width) ||| (f.value &&& mask f.width)).toNat =
      p.word.toNat * 2 ^ f.width + f.value.toNat % 2 ^ f.width := by
    have low : f.value.toNat % 2 ^ f.width < 2 ^ f.width :=
      Nat.mod_lt _ (Nat.two_pow_pos f.width)
    rw [UInt16.toNat_or, shifted_toNat p f.width bounded narrow fits,
      masked_toNat f.value f.width narrow, Nat.mul_comm, Nat.two_pow_add_eq_or_of_lt low]
  refine ⟨⟨(p.word <<< UInt16.ofNat f.width) ||| (f.value &&& mask f.width), p.used + f.width⟩,
    ?_, rfl, ?_, value⟩
  · simp only [push, if_neg (Nat.ne_of_gt positive), if_neg (within_endLimit p f fits),
      if_neg (Nat.not_lt.2 fits), if_neg (Nat.not_le.2 narrow)]
  · -- The word stays below the next free bit, so the field after this one cannot push it out.
    change UInt16.toNat _ < _
    rw [value]
    exact appended_lt _ _ _ _ bounded

theorem pushAll_exact (p : Packing) (fields : List Field) (bounded : p.Bounded)
    (maskable : ∀ f ∈ fields, f.Maskable) (fits : p.used + totalWidth fields ≤ Word.size) :
    ∃ last, p.pushAll fields = .ok last ∧ last.used = p.used + totalWidth fields ∧
      last.Bounded ∧ last.word.toNat = fieldsValue p.word.toNat fields := by
  induction fields generalizing p with
  | nil => exact ⟨p, rfl, by simp [totalWidth], bounded, rfl⟩
  | cons f rest ih =>
    have total := totalWidth_cons f rest
    obtain ⟨next, pushed, used, nextBounded, word⟩ :=
      push_exact p f bounded (maskable f (by simp)) (by omega)
    obtain ⟨last, pushedAll, lastUsed, lastBounded, lastWord⟩ :=
      ih next nextBounded (fun g member => maskable g (List.mem_cons_of_mem f member)) (by omega)
    refine ⟨last, ?_, by omega, lastBounded, ?_⟩
    · simp only [pushAll, pushed, Except.bind, pushedAll]
    · rw [lastWord, word, fieldsValue]

end Packing

theorem Word.ofFields_exact (fields : List Field) (maskable : ∀ f ∈ fields, f.Maskable)
    (full : totalWidth fields = Word.size) :
    ∃ word, Word.ofFields fields = .ok word ∧ word.raw.toNat = fieldsValue 0 fields := by
  have start : ({} : Packing).Bounded := by decide
  obtain ⟨last, pushed, used, -, word⟩ :=
    Packing.pushAll_exact {} fields start maskable (by simp [full])
  have complete : last.used = Word.size := by simp [used, full]
  exact ⟨⟨last.word⟩, by simp [Word.ofFields, pushed, Except.bind, Packing.finish, complete], word⟩

end Asm16
