import Asm16.Proofs.Spellings

set_option autoImplicit false

namespace Asm16.Word

def digitValue (c : Char) : Nat := if c = '1' then 1 else 0

theorem digitValue_le (c : Char) : digitValue c ≤ 1 := by
  unfold digitValue
  split <;> decide

section Digits

variable (cs : List Char) (digits : ∀ c ∈ cs, c = '0' ∨ c = '1')

include digits

theorem bitChars_behind (value count : Nat) :
    bitChars (cs.foldl (fun value c => 2 * value + digitValue c) value) (count + cs.length) =
      bitChars value count ++ cs := by
  induction cs generalizing value count with
  | nil => simp
  | cons c cs ih =>
    obtain ⟨first, others⟩ := List.forall_mem_cons.1 digits
    have last : bitChars (2 * value + digitValue c) (count + 1) = bitChars value count ++ [c] := by
      rw [bitChars_last]
      rcases first with rfl | rfl
      · simp [digitValue, Nat.digitChar]
      · have half : (2 * value + 1) / 2 = value := by omega
        have odd : (2 * value + 1) % 2 = 1 := by omega
        simp [digitValue, half, odd, Nat.digitChar]
    rw [List.foldl_cons, List.length_cons, Nat.add_comm cs.length, ← Nat.add_assoc,
      ih others, last, List.append_assoc, List.singleton_append]

theorem bitChars_bitsValue : bitChars (bitsValue cs) cs.length = cs := by
  have behind := bitChars_behind cs digits 0 0
  rwa [Nat.zero_add] at behind

end Digits

theorem exists_bits (s : String) (length : s.length = size)
    (digits : ∀ c ∈ s.toList, c = '0' ∨ c = '1') : ∃ w : Word, w.bits = s := by
  have spelled : bitChars (bitsValue s.toList) size = s.toList := by
    rw [← length, ← String.length_toList, bitChars_bitsValue s.toList digits]
  refine ⟨⟨UInt16.ofNat (bitsValue s.toList)⟩, ?_⟩
  rw [← String.toList_inj, bits_toList, UInt16.toNat_ofNat']
  exact (bitChars_mod _ size).trans spelled

theorem bits_injective (w v : Word) (same : w.bits = v.bits) : w = v := by
  have read := ofBits_bits w
  rw [same, ofBits_bits] at read
  exact (Except.ok.inj read).symm

theorem hex_injective (w v : Word) (same : w.hex = v.hex) : w = v := by
  obtain ⟨raw⟩ := w
  obtain ⟨other⟩ := v
  have value := hexValue_hex ⟨raw⟩
  rw [same, hexValue_hex] at value
  exact congrArg Word.mk (UInt16.toNat_inj.1 value.symm)

theorem hex_ne_marker (w : Word) : w.hex ≠ marker := by
  intro same
  have length : w.hex.toList.length = marker.toList.length := by rw [same]
  rw [hex_toList] at length
  cases length

def FirstBad (cs : List Char) (c : Char) : Prop :=
  ∃ front back, cs = front ++ c :: back ∧ (∀ d ∈ front, d = '0' ∨ d = '1') ∧ c ≠ '0' ∧ c ≠ '1'

theorem isBitChar_iff (c : Char) : isBitChar c = true ↔ c = '0' ∨ c = '1' := by
  simp [isBitChar]

theorem find_eq_some (cs : List Char) (c : Char) :
    cs.find? (!isBitChar ·) = some c ↔ FirstBad cs c := by
  simp only [List.find?_eq_some_iff_append, FirstBad, Bool.not_not, isBitChar_iff,
    Bool.not_eq_true', ← Bool.not_eq_true, not_or]
  constructor
  · rintro ⟨bad, front, back, parts, digits⟩
    exact ⟨front, back, parts, digits, bad⟩
  · rintro ⟨front, back, parts, digits, bad⟩
    exact ⟨bad, front, back, parts, digits⟩

theorem find_eq_none (cs : List Char) :
    cs.find? (!isBitChar ·) = none ↔ ∀ c ∈ cs, c = '0' ∨ c = '1' := by
  simp only [List.find?_eq_none, Bool.not_eq_true', Bool.not_eq_false, isBitChar_iff]

section Outcome

variable (s : String)

theorem hexOfBits_error (fault : BitsFault) :
    hexOfBits s = .error fault ↔
      (s.length ≠ size ∧ fault = .length s.length) ∨
        (s.length = size ∧ ∃ c, FirstBad s.toList c ∧ fault = .digit c) := by
  rw [hexOfBits, ofBits]
  by_cases length : s.length = size
  · cases found : s.toList.find? (!isBitChar ·) <;>
      simp [Except.map, length, ← find_eq_some, found, eq_comm]
  · simp [Except.map, length, eq_comm]

theorem hexOfBits_ok (text : String) :
    hexOfBits s = .ok text ↔ ∃ w : Word, w.bits = s ∧ w.hex = text := by
  constructor
  · intro read
    have accepted (fault : BitsFault) : hexOfBits s ≠ .error fault := by simp [read]
    have length : s.length = size := by
      by_contra other
      exact accepted _ ((hexOfBits_error s _).2 (.inl ⟨other, rfl⟩))
    have digits : ∀ c ∈ s.toList, c = '0' ∨ c = '1' := by
      rw [← find_eq_none, Option.eq_none_iff_forall_ne_some]
      intro c found
      exact accepted _
        ((hexOfBits_error s _).2 (.inr ⟨length, c, (find_eq_some s.toList c).1 found, rfl⟩))
    obtain ⟨w, rfl⟩ := exists_bits s length digits
    rw [hexOfBits_bits] at read
    exact ⟨w, rfl, Except.ok.inj read⟩
  · rintro ⟨w, rfl, rfl⟩
    exact hexOfBits_bits w

theorem hexOrMarker_eq_marker :
    hexOrMarker s = marker ↔ ∃ fault, hexOfBits s = .error fault := by
  unfold hexOrMarker
  cases read : hexOfBits s with
  | error fault => simp
  | ok text =>
    obtain ⟨w, -, rfl⟩ := (hexOfBits_ok s text).1 read
    simp [hex_ne_marker]

end Outcome

def nextDigit? (value : Nat) (c : Char) : Option Nat :=
  if isBitChar c = true ∧ 2 * value + digitValue c < UInt16.size then
    some (2 * value + digitValue c)
  else none

def dropPlus : List Char → List Char
  | '+' :: cs => cs
  | cs => cs

-- An integer in binary. A plus sign may stand in front of its digits, of which there has to be one.
def integer? (cs : List Char) : Option UInt16 :=
  match dropPlus cs with
  | [] => none
  | digits => (digits.foldlM nextDigit? 0).map UInt16.ofNat

inductive StagedFault where
  | checked (fault : BitsFault)
  | refused
  deriving DecidableEq, Repr

-- The number of the digits is left to a reader of integers, which may fail once more.
def stagedHex (bits : String) : Except StagedFault String :=
  if bits.length ≠ size then .error (.checked (.length bits.length))
  else
    match bits.toList.find? (!isBitChar ·) with
    | some c => .error (.checked (.digit c))
    | none =>
        match integer? bits.toList with
        | none => .error .refused
        | some raw => .ok (hex ⟨raw⟩)

theorem nextDigit_digit (value : Nat) (c : Char) (digit : c = '0' ∨ c = '1')
    (room : 2 * (value + 1) ≤ UInt16.size) :
    nextDigit? value c = some (2 * value + digitValue c) := by
  have small := digitValue_le c
  rw [nextDigit?, if_pos ⟨(isBitChar_iff c).2 digit, by omega⟩]

theorem foldlM_nextDigit (cs : List Char) (digits : ∀ c ∈ cs, c = '0' ∨ c = '1') (value : Nat)
    (room : (value + 1) * 2 ^ cs.length ≤ UInt16.size) :
    cs.foldlM nextDigit? value =
      some (cs.foldl (fun value c => 2 * value + digitValue c) value) := by
  induction cs generalizing value with
  | nil => rfl
  | cons c cs ih =>
    obtain ⟨first, others⟩ := List.forall_mem_cons.1 digits
    have small := digitValue_le c
    have later : (2 * value + digitValue c + 1) * 2 ^ cs.length ≤ UInt16.size := by
      calc
        (2 * value + digitValue c + 1) * 2 ^ cs.length ≤ (2 * (value + 1)) * 2 ^ cs.length :=
          Nat.mul_le_mul_right _ (by omega)
        _ = (value + 1) * 2 ^ (c :: cs).length := by rw [List.length_cons, Nat.pow_succ]; ring
        _ ≤ UInt16.size := room
    have now : 2 * (value + 1) ≤ UInt16.size := by
      calc
        2 * (value + 1) ≤ 2 * (value + 1) * 2 ^ cs.length :=
          Nat.le_mul_of_pos_right _ (Nat.two_pow_pos _)
        _ = (value + 1) * 2 ^ (c :: cs).length := by rw [List.length_cons, Nat.pow_succ]; ring
        _ ≤ UInt16.size := room
    rw [List.foldlM_cons, nextDigit_digit value c first now]
    exact ih others _ later

theorem integer_bits (w : Word) : integer? w.bits.toList = some w.raw := by
  obtain ⟨length, digits⟩ := w.bits_digits
  rw [← String.length_toList] at length
  have value := foldlM_nextDigit w.bits.toList digits 0 (by rw [length]; decide)
  have number : w.bits.toList.foldl (fun value c => 2 * value + digitValue c) 0 = w.raw.toNat :=
    bitsValue_bits w
  cases spelled : w.bits.toList with
  | nil => simp [spelled] at length
  | cons c cs =>
    have first : c = '0' ∨ c = '1' := digits c (by simp [spelled])
    have unsigned : dropPlus (c :: cs) = c :: cs := by rcases first with rfl | rfl <;> rfl
    rw [number, spelled] at value
    simp only [integer?, unsigned, value, Option.map_some, UInt16.ofNat_toNat]

theorem stagedHex_eq (s : String) : stagedHex s = (hexOfBits s).mapError .checked := by
  cases read : hexOfBits s with
  | error fault =>
    rcases (hexOfBits_error s fault).1 read with ⟨length, rfl⟩ | ⟨length, c, bad, rfl⟩
    · simp only [stagedHex, if_pos length, Except.mapError]
    · simp only [stagedHex, length, ne_eq, not_true_eq_false, if_false, (find_eq_some _ _).2 bad,
        Except.mapError]
  | ok text =>
    obtain ⟨w, rfl, rfl⟩ := (hexOfBits_ok s text).1 read
    have length : w.bits.length = size := w.bits_digits.1
    simp only [stagedHex, length, ne_eq, not_true_eq_false, if_false,
      (find_eq_none _).2 w.bits_digits.2, integer_bits, Except.mapError]

/-- The length is the first thing that can be wrong with a text, a character the second, and there
is no third. -/
theorem bit_text_exact (s : String) :
    ((∃ text, hexOfBits s = .ok text) ↔ ∃! w : Word, w.bits = s) ∧
      (∀ w : Word, w.bits = s → hexOfBits s = .ok w.hex) ∧
      (∀ other text, hexOfBits s = .ok text → hexOfBits other = .ok text → other = s) ∧
      (∀ fault, hexOfBits s = .error fault ↔
        (s.length ≠ 16 ∧ fault = .length s.length) ∨
          (s.length = 16 ∧ ∃ c, FirstBad s.toList c ∧ fault = .digit c)) ∧
      stagedHex s = (hexOfBits s).mapError .checked ∧
      (hexOrMarker s = "ERROR" ↔ ∃ fault, hexOfBits s = .error fault) ∧
      ∀ text, hexOfBits s = .ok text → hexOrMarker s = text ∧ text ≠ "ERROR" := by
  refine ⟨?_, ?_, ?_, hexOfBits_error s, stagedHex_eq s, hexOrMarker_eq_marker s, ?_⟩
  · constructor
    · rintro ⟨text, read⟩
      obtain ⟨w, spelled, -⟩ := (hexOfBits_ok s text).1 read
      exact ⟨w, spelled, fun v same => bits_injective v w (same.trans spelled.symm)⟩
    · rintro ⟨w, rfl, -⟩
      exact ⟨w.hex, hexOfBits_bits w⟩
  · rintro w rfl
    exact hexOfBits_bits w
  · intro other text read otherRead
    obtain ⟨w, rfl, spelled⟩ := (hexOfBits_ok s text).1 read
    obtain ⟨v, rfl, otherSpelled⟩ := (hexOfBits_ok other text).1 otherRead
    rw [hex_injective v w (otherSpelled.trans spelled.symm)]
  · intro text read
    obtain ⟨w, rfl, rfl⟩ := (hexOfBits_ok s text).1 read
    exact ⟨by simp only [hexOrMarker, read], hex_ne_marker w⟩

theorem three_texts_read :
    hexOfBits "0000100110010000" = .ok "0990" ∧ integer? "+000000000000001".toList = some 1 ∧
      hexOfBits "+000000000000001" = .error (.digit '+') ∧ "éééééééé".utf8ByteSize = 16 ∧
      hexOfBits "éééééééé" = .error (.length 8) ∧ hexOrMarker "éééééééé" = "ERROR" := by
  obtain ⟨-, read, -⟩ := bit_text_exact "0000100110010000"
  obtain ⟨-, -, -, signed, -⟩ := bit_text_exact "+000000000000001"
  obtain ⟨-, -, -, short, -, marked, -⟩ := bit_text_exact "éééééééé"
  have length : hexOfBits "éééééééé" = .error (.length 8) := (short _).2 (.inl ⟨by decide, rfl⟩)
  refine ⟨read ⟨0x0990⟩ (by decide), rfl, (signed _).2 (.inr ⟨by decide, '+', ?_, rfl⟩), by decide,
    length, marked.2 ⟨_, length⟩⟩
  exact ⟨[], _, rfl, by simp, by decide, by decide⟩

end Asm16.Word
