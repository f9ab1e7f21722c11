import Asm16.Proofs.FieldLists

set_option autoImplicit false

namespace Asm16

theorem totalWidth_pos (fields : List Field) (positive : ∀ f ∈ fields, 0 < f.width)
    (nonempty : fields ≠ []) : 0 < totalWidth fields := by
  obtain ⟨f, rest, rfl⟩ := List.exists_cons_of_ne_nil nonempty
  rw [totalWidth_cons]
  exact Nat.add_pos_left (positive f (by simp)) _

namespace Packing

def Admits (p : Packing) (f : Field) : Prop := 0 < f.width ∧ p.used + f.width ≤ Word.size

instance (p : Packing) (f : Field) : Decidable (p.Admits f) := inferInstanceAs (Decidable (_ ∧ _))

section Outcome

variable (p : Packing) (f : Field)

theorem push_refused (room : p.used ≤ Word.size) (refused : ¬ p.Admits f) :
    p.push f = .error (if endLimit ≤ p.used + f.width then .endOverflow else .outOfWord) := by
  by_cases empty : f.width = 0
  · have short := within_endLimit p f (by omega)
    simp only [push, if_pos empty, if_neg short]
  · have beyond : Word.size < p.used + f.width := by
      by_contra fits
      exact refused ⟨Nat.pos_of_ne_zero empty, Nat.not_lt.1 fits⟩
    simp only [push, if_neg empty, if_pos beyond]
    split <;> rfl

theorem push_whole (admitted : p.Admits f) (wide : Word.size ≤ f.width) :
    p.push f = .error .maskOverflow := by
  obtain ⟨positive, fits⟩ := admitted
  simp only [push, if_neg (Nat.ne_of_gt positive), if_neg (within_endLimit p f fits),
    if_neg (Nat.not_lt.2 fits), if_pos wide]

theorem admits_of_push (next : Packing) (room : p.used ≤ Word.size)
    (pushed : p.push f = .ok next) : p.Admits f ∧ f.width < Word.size := by
  have admitted : p.Admits f := by
    by_contra refused
    simp [push_refused p f room refused] at pushed
  refine ⟨admitted, ?_⟩
  by_contra wide
  simp [push_whole p f admitted (Nat.not_lt.1 wide)] at pushed

end Outcome

theorem maskable_of_pushAll (p last : Packing) (fields : List Field) (bounded : p.Bounded)
    (room : p.used ≤ Word.size) (packed : p.pushAll fields = .ok last) :
    (∀ f ∈ fields, f.Maskable) ∧ p.used + totalWidth fields ≤ Word.size := by
  induction fields generalizing p with
  | nil => exact ⟨by simp, by simpa [totalWidth] using room⟩
  | cons f rest ih =>
    cases pushed : p.push f with
    | error fault => simp [pushAll, pushed, Except.bind] at packed
    | ok next =>
      obtain ⟨⟨positive, fits⟩, narrow⟩ := admits_of_push p f next room pushed
      obtain ⟨_, again, used, nextBounded, -⟩ := push_exact p f bounded ⟨positive, narrow⟩ fits
      obtain rfl := Except.ok.inj (pushed.symm.trans again)
      simp only [pushAll, pushed, Except.bind] at packed
      obtain ⟨others, within⟩ := ih next nextBounded (by omega) packed
      refine ⟨List.forall_mem_cons.2 ⟨⟨positive, narrow⟩, others⟩, ?_⟩
      rw [totalWidth_cons]
      omega

theorem reached_exact (earlier : List Field) (p : Packing)
    (reached : ({} : Packing).pushAll earlier = .ok p) :
    p.Bounded ∧ p.used = totalWidth earlier ∧ p.used ≤ Word.size ∧
      ∀ f ∈ earlier, f.Maskable := by
  have start : ({} : Packing).Bounded := by decide
  obtain ⟨maskable, fits⟩ := maskable_of_pushAll {} p earlier start (by decide) reached
  obtain ⟨_, again, used, bounded, -⟩ := pushAll_exact {} earlier start maskable fits
  obtain rfl := Except.ok.inj (reached.symm.trans again)
  exact ⟨bounded, by simpa using used, by omega, maskable⟩

section Reached

variable (earlier : List Field) (p : Packing) (reached : ({} : Packing).pushAll earlier = .ok p)
  (f : Field)

include reached

-- Only an empty packing has room for a whole word.
theorem admits_wide_iff :
    p.Admits f ∧ Word.size ≤ f.width ↔ earlier = [] ∧ f.width = Word.size := by
  obtain ⟨-, used, -, maskable⟩ := reached_exact earlier p reached
  constructor
  · rintro ⟨⟨-, fits⟩, wide⟩
    refine ⟨?_, by omega⟩
    by_contra nonempty
    have taken := totalWidth_pos earlier (fun g member => (maskable g member).1) nonempty
    omega
  · rintro ⟨rfl, whole⟩
    have unused : p.used = 0 := used
    exact ⟨⟨by rw [whole]; decide, by omega⟩, by omega⟩

theorem push_admitted (admitted : p.Admits f) (other : ¬ (earlier = [] ∧ f.width = Word.size)) :
    ∃ next, p.push f = .ok next ∧ next.used = p.used + f.width ∧ next.Bounded ∧
      next.word.toNat = p.word.toNat * 2 ^ f.width + f.value.toNat % 2 ^ f.width := by
  have narrow : f.width < Word.size := by
    by_contra wide
    exact other ((admits_wide_iff earlier p reached f).1 ⟨admitted, Nat.not_lt.1 wide⟩)
  obtain ⟨bounded, -⟩ := reached_exact earlier p reached
  exact push_exact p f bounded ⟨admitted.1, narrow⟩ admitted.2

theorem push_error_iff (fault : PackFault) :
    p.push f = .error fault ↔
      (¬ p.Admits f ∧
        fault = if endLimit ≤ p.used + f.width then .endOverflow else .outOfWord) ∨
        (earlier = [] ∧ f.width = Word.size ∧ fault = .maskOverflow) := by
  obtain ⟨-, -, room, -⟩ := reached_exact earlier p reached
  by_cases whole : earlier = [] ∧ f.width = Word.size
  · obtain ⟨admitted, wide⟩ := (admits_wide_iff earlier p reached f).2 whole
    simp [push_whole p f admitted wide, admitted, whole.1, whole.2, eq_comm]
  have apart : ¬ (earlier = [] ∧ f.width = Word.size ∧ fault = .maskOverflow) :=
    fun stopped => whole ⟨stopped.1, stopped.2.1⟩
  rw [or_iff_left apart]
  by_cases admitted : p.Admits f
  · obtain ⟨next, pushed, -⟩ := push_admitted earlier p reached f admitted whole
    simp [pushed, admitted]
  · simp [push_refused p f room admitted, admitted, eq_comm]

end Reached

end Packing

theorem maskable_of_shared (fields : List Field) (positive : ∀ f ∈ fields, 0 < f.width)
    (full : totalWidth fields = Word.size) (shared : 2 ≤ fields.length) :
    ∀ f ∈ fields, f.Maskable := by
  intro f member
  refine ⟨positive f member, ?_⟩
  obtain ⟨front, back, rfl⟩ := List.append_of_mem member
  have others : 0 < totalWidth (front ++ back) := by
    apply totalWidth_pos
    · intro g other
      exact positive g (List.mem_append.2 ((List.mem_append.1 other).imp_right (.tail f)))
    · intro alone
      obtain ⟨rfl, rfl⟩ := List.append_eq_nil_iff.1 alone
      exact absurd shared (Nat.not_succ_le_self 1)
  rw [totalWidth_append, totalWidth_cons] at full
  rw [totalWidth_append] at others
  omega

namespace Packing

inductive StagedFault where
  | checked (fault : PackFault)
  | maskBorrow
  | wordShift
  | endSum
  deriving DecidableEq, Repr

def shiftedBy (width : Nat) (fault : StagedFault) (x : UInt16) : Except StagedFault UInt16 :=
  if width < Word.size then .ok (x <<< UInt16.ofNat width) else .error fault

def lessOne (x : UInt16) : Except StagedFault UInt16 :=
  if x = 0 then .error .maskBorrow else .ok (x - 1)

def endOf (p : Packing) (f : Field) (fault : StagedFault) : Except StagedFault Nat :=
  if p.used + f.width < endLimit then .ok (p.used + f.width) else .error fault

-- The guard adds before it compares. Behind it every step has an overflow of its own: the shift and
-- the difference that make the mask, the shift of the word, and the sum once more.
def stagedPush (p : Packing) (f : Field) : Except StagedFault Packing :=
  if f.width = 0 then .error (.checked .outOfWord)
  else do
    let reach ← p.endOf f (.checked .endOverflow)
    if Word.size < reach then .error (.checked .outOfWord)
    else do
      let top ← shiftedBy f.width (.checked .maskOverflow) 1
      let mask ← lessOne top
      let high ← shiftedBy f.width .wordShift p.word
      let used ← p.endOf f .endSum
      return { word := high ||| (f.value &&& mask), used }

theorem lessOne_top (width : Nat) (narrow : width < Word.size) :
    lessOne (1 <<< UInt16.ofNat width) = .ok (mask width) := by
  unfold Word.size at narrow
  interval_cases width <;> rfl

theorem stagedPush_eq (p : Packing) (f : Field) :
    p.stagedPush f = (p.push f).mapError .checked := by
  unfold stagedPush push
  by_cases empty : f.width = 0
  · simp only [if_pos empty, Except.mapError]
  by_cases far : endLimit ≤ p.used + f.width
  · simp only [if_neg empty, endOf, if_neg (Nat.not_lt.2 far), if_pos far, bind, Except.bind,
      Except.mapError]
  by_cases beyond : Word.size < p.used + f.width
  · simp only [if_neg empty, endOf, if_pos (Nat.not_le.1 far), if_neg far, if_pos beyond, bind,
      Except.bind, Except.mapError]
  by_cases wide : Word.size ≤ f.width
  · simp only [if_neg empty, endOf, if_pos (Nat.not_le.1 far), if_neg far, if_neg beyond,
      shiftedBy, if_neg (Nat.not_lt.2 wide), if_pos wide, bind, Except.bind, Except.mapError]
  · have narrow := Nat.not_le.1 wide
    simp only [if_neg empty, endOf, if_pos (Nat.not_le.1 far), if_neg far, if_neg beyond,
      shiftedBy, if_pos narrow, if_neg wide, lessOne_top f.width narrow, bind, Except.bind,
      Except.mapError, pure, Except.pure]

end Packing

theorem Word.ofFields_whole (f : Field) (whole : f.width = Word.size) :
    Word.ofFields [f] = .error .maskOverflow := by
  have admitted : ({} : Packing).Admits f := ⟨by rw [whole]; decide, by simp [whole]⟩
  simp only [Word.ofFields, Packing.pushAll, Packing.push_whole {} f admitted whole.ge, Except.bind]

theorem Word.ofFields_layout (fields : List Field) (positive : ∀ f ∈ fields, 0 < f.width)
    (full : totalWidth fields = Word.size) :
    (∃ w, Word.ofFields fields = .ok w ∧ w.raw.toNat = fieldsValue 0 fields) ↔
      2 ≤ fields.length := by
  constructor
  · rintro ⟨w, packed, -⟩
    rcases fields with _ | ⟨f, _ | ⟨g, rest⟩⟩
    · cases full
    · have whole : f.width = Word.size := by simpa [totalWidth] using full
      simp [Word.ofFields_whole f whole] at packed
    · simp
  · intro shared
    exact Word.ofFields_exact fields (maskable_of_shared fields positive full shared) full

namespace Packing

/-- A field that the guard admits is packed without an overflow, unless it is the first one and
takes the whole word. So a word can be packed exactly if it has two fields or more. -/
theorem admitted_fields_exact (earlier : List Field) (p : Packing)
    (reached : ({} : Packing).pushAll earlier = .ok p) :
    (∀ f, p.stagedPush f = (p.push f).mapError .checked) ∧
      (∀ f, 0 < f.width ∧ p.used + f.width ≤ 16 → ¬ (earlier = [] ∧ f.width = 16) →
        ∃ next, p.stagedPush f = .ok next ∧ next.used = p.used + f.width ∧
          next.word.toNat = p.word.toNat * 2 ^ f.width + f.value.toNat % 2 ^ f.width) ∧
      (∀ f fault, p.push f = .error fault ↔
        (¬ (0 < f.width ∧ p.used + f.width ≤ 16) ∧
          fault = if endLimit ≤ p.used + f.width then .endOverflow else .outOfWord) ∨
          (earlier = [] ∧ f.width = 16 ∧ fault = .maskOverflow)) ∧
      ∀ later, (∀ f ∈ later, 0 < f.width) → totalWidth (earlier ++ later) = 16 →
        ((∃ w, Word.ofFields (earlier ++ later) = .ok w ∧
          w.raw.toNat = fieldsValue 0 (earlier ++ later)) ↔ 2 ≤ (earlier ++ later).length) := by
  refine ⟨stagedPush_eq p, ?_, push_error_iff earlier p reached, ?_⟩
  · intro f admitted other
    obtain ⟨next, pushed, used, -, word⟩ := push_admitted earlier p reached f admitted other
    exact ⟨next, by rw [stagedPush_eq, pushed, Except.mapError], used, word⟩
  · intro later positive full
    obtain ⟨-, -, -, maskable⟩ := reached_exact earlier p reached
    apply Word.ofFields_layout
    · exact List.forall_mem_append.2 ⟨fun f member => (maskable f member).1, positive⟩
    · exact full

theorem fifteen_bits_and_one :
    ({} : Packing).pushAll [⟨0x7FFF, 15⟩] = .ok ⟨0x7FFF, 15⟩ ∧
      (∃ next, stagedPush ⟨0x7FFF, 15⟩ ⟨2, 1⟩ = .ok next ∧ next.used = 16 ∧
        next.word.toNat = 0xFFFE) ∧
      push ⟨0x7FFF, 15⟩ ⟨2, 2⟩ = .error .outOfWord ∧
      ∃ w, Word.ofFields [⟨0x7FFF, 15⟩, ⟨2, 1⟩] = .ok w ∧ w.raw.toNat = 0xFFFE := by
  have reached : ({} : Packing).pushAll [⟨0x7FFF, 15⟩] = .ok ⟨0x7FFF, 15⟩ := by decide
  obtain ⟨-, packed, stopped, layout⟩ := admitted_fields_exact _ _ reached
  exact ⟨reached, packed ⟨2, 1⟩ (by decide) (by simp), (stopped ⟨2, 2⟩ _).2 (.inl (by decide)),
    (layout [⟨2, 1⟩] (by decide) (by decide)).2 (by decide)⟩

theorem sixteen_bits_stopped :
    (0 < 16 ∧ ({} : Packing).used + 16 ≤ 16) ∧
      ({} : Packing).push ⟨1, 16⟩ = .error .maskOverflow ∧
      Word.ofFields [⟨1, 16⟩] = .error .maskOverflow ∧
      (¬ ∀ (earlier : List Field) (p : Packing) (f : Field),
        ({} : Packing).pushAll earlier = .ok p → 0 < f.width ∧ p.used + f.width ≤ 16 →
          ∃ next, p.push f = .ok next) ∧
      ¬ ∀ fields : List Field, (∀ f ∈ fields, 0 < f.width) → totalWidth fields = 16 →
        ∃ w, Word.ofFields fields = .ok w := by
  have stopped : ({} : Packing).push ⟨1, 16⟩ = .error .maskOverflow := by decide
  have unfinished : Word.ofFields [⟨1, 16⟩] = .error .maskOverflow := by decide
  refine ⟨by decide, stopped, unfinished, ?_, ?_⟩
  · intro sufficient
    obtain ⟨next, pushed⟩ := sufficient [] {} ⟨1, 16⟩ rfl (by decide)
    rw [stopped] at pushed
    cases pushed
  · intro packable
    obtain ⟨w, packed⟩ := packable [⟨1, 16⟩] (by decide) (by decide)
    rw [unfinished] at packed
    cases packed

end Packing

end Asm16
