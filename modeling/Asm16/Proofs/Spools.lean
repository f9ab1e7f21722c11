import Asm16.Run.Sink
import Mathlib.Tactic

set_option autoImplicit false

namespace Asm16

def upTo (limit : Option Nat) (bytes : List UInt8) : List UInt8 :=
  match limit with
  | none => bytes
  | some n => bytes.take n

theorem Device.write_eq (d : Device) (bytes : List UInt8) :
    d.write bytes =
      ({ d with content := d.content ++ upTo d.room bytes, room := d.room.map (· - bytes.length) },
        bytes.drop (d.room.getD bytes.length)) := by
  obtain ⟨content, room, refusal⟩ := d
  cases room <;> simp [write, upTo]

namespace Spool

def lineOf (word : String) : List UInt8 := Text.utf8 word ++ [Text.lineFeed]

structure Holds (limit : Option Nat) (total : List UInt8) (s : Spool) : Prop where
  inOrder : s.device.content ++ s.pending = total
  room : s.device.room = limit.map (· - s.device.content.length)
  within : ∀ n, limit = some n → s.device.content.length ≤ n

section Flush

variable {limit : Option Nat} {total : List UInt8} {s : Spool}

theorem flush_content (holds : s.Holds limit total) :
    s.flush.1.device.content = upTo limit total := by
  have content : s.flush.1.device.content = s.device.content ++ upTo s.device.room s.pending := by
    simp [flush, Device.write_eq]
  rw [content, holds.room, ← holds.inOrder]
  cases limit with
  | none => rfl
  | some n =>
    have first := List.take_of_length_le (holds.within n rfl)
    simp [upTo, List.take_append, first]

theorem flush_pending (holds : s.Holds limit total) :
    s.flush.1.pending = total.drop (limit.getD total.length) := by
  have pending : s.flush.1.pending = s.pending.drop (s.device.room.getD s.pending.length) := by
    simp [flush, Device.write_eq]
  rw [pending, holds.room, ← holds.inOrder]
  cases limit with
  | none => simp
  | some n =>
    have first := List.drop_eq_nil_of_le (holds.within n rfl)
    simp [List.drop_append, first]

-- A flush that fails loses nothing: what the device refused comes first the next time.
theorem flush_holds (holds : s.Holds limit total) : s.flush.1.Holds limit total := by
  constructor
  · rw [flush_content holds, flush_pending holds]
    cases limit <;> simp [upTo]
  · have room : s.flush.1.device.room = s.device.room.map (· - s.pending.length) := by
      simp [flush, Device.write_eq]
    rw [room, flush_content holds, holds.room, ← holds.inOrder]
    cases limit with
    | none => rfl
    | some n =>
      simp [upTo]
      omega
  · rintro n rfl
    rw [flush_content holds]
    exact List.length_take_le n total

theorem flush_succeeds (holds : s.Holds limit total) :
    s.flush.2 = none ↔ ∀ n, limit = some n → total.length ≤ n := by
  have fault : s.flush.2 = faultOf s.device s.flush.1.pending := by
    simp [flush]
  rw [fault, flush_pending holds]
  cases limit <;> simp [faultOf]

theorem release_content (holds : s.Holds limit total) : s.release.content = upTo limit total :=
  flush_content holds

theorem reclaim_content (holds : s.Holds limit total) :
    s.reclaim.1.content = upTo limit total := by
  have again := release_content (flush_holds holds)
  have once := flush_content holds
  unfold reclaim
  rcases flushed : s.flush with ⟨after, _ | fault⟩ <;> rw [flushed] at again once
  · exact once
  · exact again

end Flush

section Small

variable (s : Spool)

theorem push_small (bytes : List UInt8) (small : s.pending.length + bytes.length < capacity) :
    s.push bytes = ({ s with pending := s.pending ++ bytes }, none) := by
  have short : ¬ capacity ≤ bytes.length := by omega
  simp only [push, append, if_pos small.le, if_neg short]

theorem put_small (word : String) (small : s.pending.length + (lineOf word).length < capacity) :
    s.put word =
      ({ s with pending := s.pending ++ lineOf word, words := s.words + 1 }, none) := by
  simp only [lineOf, List.length_append, List.length_singleton] at small
  have first := s.push_small (Text.utf8 word) (by omega)
  have second := push_small { s with pending := s.pending ++ Text.utf8 word } [Text.lineFeed]
    (by simpa [Nat.add_assoc] using small)
  simp only [put, first, second, lineOf, List.append_assoc]

end Small

section Unlimited

variable {total : List UInt8} {s : Spool}

theorem append_unlimited (bytes : List UInt8) (holds : s.Holds none total)
    (alone : capacity ≤ bytes.length → s.pending = []) :
    ∃ after, s.append bytes = (after, none) ∧ after.Holds none (total ++ bytes) := by
  have room : s.device.room = none := holds.room
  by_cases long : capacity ≤ bytes.length
  · have whole : s.device.content = total := by
      simpa [alone long] using holds.inOrder
    refine ⟨{ s with device := (s.device.write bytes).1 }, ?_, ?_⟩
    · simp [append, long, Device.write_eq, room, faultOf]
    · constructor <;> simp [Device.write_eq, room, upTo, whole, alone long]
  · refine ⟨{ s with pending := s.pending ++ bytes }, ?_, ?_⟩
    · simp [append, long]
    · constructor
      · simp [← holds.inOrder]
      · exact room
      · nofun

theorem push_unlimited (bytes : List UInt8) (holds : s.Holds none total) :
    ∃ after, s.push bytes = (after, none) ∧ after.Holds none (total ++ bytes) := by
  unfold push
  by_cases fits : s.pending.length + bytes.length ≤ capacity
  · rw [if_pos fits]
    apply append_unlimited bytes holds
    intro long
    apply List.eq_nil_of_length_eq_zero
    omega
  · have flushed : s.flush = (s.flush.1, none) :=
      Prod.ext rfl ((flush_succeeds holds).2 nofun)
    rw [if_neg fits, flushed]
    apply append_unlimited bytes (flush_holds holds)
    intro _
    simp [flush_pending holds]

theorem put_unlimited (word : String) (holds : s.Holds none total) :
    ∃ after, s.put word = (after, none) ∧ after.Holds none (total ++ lineOf word) := by
  obtain ⟨started, first, middle⟩ := push_unlimited (Text.utf8 word) holds
  obtain ⟨ended, second, last⟩ := push_unlimited [Text.lineFeed] middle
  refine ⟨{ ended with words := ended.words + 1 }, ?_, ?_⟩
  · simp only [put, first, second]
  · rw [List.append_assoc] at last
    exact ⟨last.inOrder, last.room, last.within⟩

end Unlimited

def Step.bytes : Step → List UInt8
  | .word text => lineOf text
  | .finish => []

def Step.isWord : Step → Bool
  | .word _ => true
  | .finish => false

-- With the bytes of the next step, the pending bytes are always fewer than may be pending.
def StaysSmall (s : Spool) : List Step → Prop
  | [] => True
  | next :: rest =>
      s.pending.length + next.bytes.length < capacity ∧ (s.step next).1.StaysSmall rest

theorem StaysSmall.front {s : Spool} {before after : List Step}
    (small : s.StaysSmall (before ++ after)) : s.StaysSmall before := by
  induction before generalizing s with
  | nil => trivial
  | cons next rest ih => exact ⟨small.1, ih small.2⟩

section Steps

variable {limit : Option Nat} {total : List UInt8} {s : Spool}

theorem step_holds (holds : s.Holds limit total) (next : Step)
    (small : s.pending.length + next.bytes.length < capacity) :
    (s.step next).1.Holds limit (total ++ next.bytes) := by
  cases next with
  | finish => simpa [step, Step.bytes] using flush_holds holds
  | word text =>
    simp only [step, s.put_small text small]
    exact ⟨by simp [← holds.inOrder, Step.bytes], holds.room, holds.within⟩

theorem step_words (next : Step) (small : s.pending.length + next.bytes.length < capacity) :
    (s.step next).1.words = s.words + if next.isWord then 1 else 0 := by
  cases next with
  | finish => rfl
  | word text => simp only [step, s.put_small text small, Step.isWord, if_true]

theorem steps_hold (holds : s.Holds limit total) (steps : List Step) (small : s.StaysSmall steps) :
    (s.steps steps).Holds limit (total ++ steps.flatMap Step.bytes) ∧
      (s.steps steps).words = s.words + steps.countP Step.isWord := by
  induction steps generalizing s total with
  | nil => simpa [Spool.steps] using holds
  | cons next rest ih =>
    obtain ⟨bytes, words⟩ := ih (step_holds holds next small.1) small.2
    rw [step_words next small.1] at words
    refine ⟨by simpa [Spool.steps] using bytes, ?_⟩
    rw [List.countP_cons, Spool.steps, words]
    omega

end Steps

/-- At every point the device and the pending bytes hold the words so far, and closing the spool in
any way leaves on the device as much of them as it takes. -/
theorem spool_exact (limit : Option Nat) (refusal : Fault) (steps before : List Step)
    (small : StaysSmall { device := { room := limit, refusal } } steps) (reached : before <+: steps) :
    let s := Spool.steps { device := { room := limit, refusal } } before
    let total := before.flatMap Step.bytes
    s.device.content ++ s.pending = total ∧
      s.words = before.countP Step.isWord ∧
      ((s.step .finish).2 = none ↔ ∀ n, limit = some n → total.length ≤ n) ∧
      (s.step .finish).1.device.content = upTo limit total ∧
      s.reclaim.1.content = upTo limit total ∧
      s.release.content = upTo limit total := by
  intro s total
  obtain ⟨after, rfl⟩ := reached
  have initial : Holds limit [] { device := { room := limit, refusal } } := by
    constructor <;> simp
  obtain ⟨holds, words⟩ := steps_hold initial before small.front
  rw [List.nil_append] at holds
  rw [Nat.zero_add] at words
  exact ⟨holds.inOrder, words, flush_succeeds holds, flush_content holds, reclaim_content holds,
    release_content holds⟩

theorem spool_of_seven_bytes :
    let steps : List Step := [.word "0990", .finish, .word "600A", .finish, .finish]
    let s := Spool.steps { device := { room := some 7 } } steps
    s.device.content ++ s.pending = Text.utf8 "0990\n600A\n" ∧ s.words = 2 ∧
      (s.step .finish).2 ≠ none ∧ s.reclaim.1.content = Text.utf8 "0990\n60" := by
  intro steps s
  have small : StaysSmall { device := { room := some 7 } } steps := by
    refine ⟨?_, ?_, ?_, ?_, ?_, trivial⟩ <;> decide
  obtain ⟨inOrder, words, finish, -, reclaimed, -⟩ :=
    spool_exact (some 7) .deviceFull steps steps small List.prefix_rfl
  refine ⟨inOrder, words, fun succeeded => ?_, reclaimed⟩
  exact absurd (finish.1 succeeded 7 rfl) (by decide)

end Spool

end Asm16
