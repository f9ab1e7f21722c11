import Asm16.Run.Basic
import Mathlib.Tactic

set_option autoImplicit false

namespace Asm16

def written (lines : List String) : List String := lines.filter (!Text.allBlank ·)

def listing (first : Nat) (lines : List String) : List Row :=
  (written lines).mapIdx fun place line => Row.ofLine (first + place) line

def rowWords (rows : List Row) : List String := rows.filterMap Row.hex

theorem rowWords_append (rows more : List Row) :
    rowWords (rows ++ more) = rowWords rows ++ rowWords more := List.filterMap_append

def Summary.count (counts : Summary) (rows : List Row) : Summary :=
  { lines := counts.lines + rows.length
    encoded := counts.encoded + rows.countP Row.accepted
    rejected := counts.rejected + rows.countP (!·.accepted) }

theorem Summary.count_cons (counts : Summary) (row : Row) (rows : List Row) :
    counts.count (row :: rows) = (counts.count [row]).count rows := by
  simp only [count, List.length_cons, List.length_nil, List.countP_cons, List.countP_nil,
    Summary.mk.injEq]
  omega

@[simp] theorem listing_nil (first : Nat) : listing first [] = [] := rfl

theorem listing_blank (first : Nat) (line : String) (lines : List String)
    (blank : Text.allBlank line = true) : listing first (line :: lines) = listing first lines := by
  simp [listing, written, blank]

theorem listing_written (first : Nat) (line : String) (lines : List String)
    (blank : Text.allBlank line = false) :
    listing first (line :: lines) = Row.ofLine first line :: listing (first + 1) lines := by
  simp [listing, written, blank, List.mapIdx_cons, Nat.add_assoc, Nat.add_comm 1]

theorem listing_append (first : Nat) (lines more : List String) :
    listing first (lines ++ more) =
      listing first lines ++ listing (first + (listing first lines).length) more := by
  simp [listing, written, List.mapIdx_append, Nat.add_assoc, Nat.add_comm (List.length _)]

theorem listing_split_at_word (first n : Nat) (lines : List String)
    (more : n < (rowWords (listing first lines)).length) :
    ∃ before line later hex, lines = before ++ line :: later ∧ Text.allBlank line = false ∧
      (rowWords (listing first before)).length = n ∧
      (Row.ofLine (first + (listing first before).length) line).hex = some hex := by
  induction lines generalizing first n with
  | nil => simp [rowWords] at more
  | cons line lines ih =>
    cases blank : Text.allBlank line with
    | true =>
      rw [listing_blank first line lines blank] at more
      obtain ⟨before, found, later, hex, rfl, rest⟩ := ih first n more
      refine ⟨line :: before, found, later, hex, rfl, ?_⟩
      rwa [listing_blank first line before blank]
    | false =>
      have behind (m : Nat) (inside : m < (rowWords (listing (first + 1) lines)).length)
          (total : (rowWords [Row.ofLine first line]).length + m = n) :
          ∃ before found later hex, line :: lines = before ++ found :: later ∧
            Text.allBlank found = false ∧ (rowWords (listing first before)).length = n ∧
            (Row.ofLine (first + (listing first before).length) found).hex = some hex := by
        obtain ⟨before, found, later, hex, rfl, solid, count, spelled⟩ := ih (first + 1) m inside
        refine ⟨line :: before, found, later, hex, rfl, solid, ?_, ?_⟩ <;>
          rw [listing_written first line before blank]
        · rw [← total, ← count, ← List.length_append, ← rowWords_append, List.singleton_append]
        · rwa [List.length_cons, ← Nat.add_assoc, Nat.add_right_comm]
      rw [listing_written first line lines blank] at more
      cases word : (Row.ofLine first line).hex with
      | none =>
        simp only [rowWords, List.filterMap_cons, word] at more
        exact behind n more (by simp [rowWords, word])
      | some hex =>
        simp only [rowWords, List.filterMap_cons, word, List.length_cons] at more
        cases n with
        | zero => exact ⟨[], line, lines, hex, rfl, blank, rfl, word⟩
        | succ n =>
          exact behind n (Nat.lt_of_succ_lt_succ more) (by simp [rowWords, word, Nat.add_comm])

section Sink

variable {σ : Type} [WordSink σ]

def WordSink.putAll (sink : σ) : List String → σ × Option Fault
  | [] => (sink, none)
  | word :: rest =>
      match WordSink.put sink word with
      | (after, some fault) => (after, some fault)
      | (after, none) => putAll after rest

namespace Run

section Step

variable (counts : Summary) (sink after : σ) (line hex : String) (rest : List (Except Fault String))

theorem resume_blank (blank : Text.allBlank line = true) :
    resume counts sink (.ok line :: rest) = resume counts sink rest := by
  rw [resume, if_pos blank]

theorem resume_rejected (solid : Text.allBlank line = false)
    (word : (Row.ofLine (counts.lines + 1) line).hex = none) :
    resume counts sink (.ok line :: rest) =
      (resume (counts.count [Row.ofLine (counts.lines + 1) line]) sink rest).report
        (Row.ofLine (counts.lines + 1) line) := by
  have counted : counts.count [Row.ofLine (counts.lines + 1) line] =
      { counts with lines := counts.lines + 1, rejected := counts.rejected + 1 } := by
    simp [Summary.count, Row.accepted, word]
  simp only [resume, solid, word, counted, Bool.false_eq_true, if_false]

theorem resume_taken (solid : Text.allBlank line = false)
    (word : (Row.ofLine (counts.lines + 1) line).hex = some hex)
    (taken : WordSink.put sink hex = (after, none)) :
    resume counts sink (.ok line :: rest) =
      (resume (counts.count [Row.ofLine (counts.lines + 1) line]) after rest).report
        (Row.ofLine (counts.lines + 1) line) := by
  have counted : counts.count [Row.ofLine (counts.lines + 1) line] =
      { counts with lines := counts.lines + 1, encoded := counts.encoded + 1 } := by
    simp [Summary.count, Row.accepted, word]
  simp only [resume, solid, word, taken, counted, Bool.false_eq_true, if_false]

theorem resume_refused (fault : Fault) (solid : Text.allBlank line = false)
    (word : (Row.ofLine (counts.lines + 1) line).hex = some hex)
    (refused : WordSink.put sink hex = (after, some fault)) :
    resume counts sink (.ok line :: rest) = stop (.write fault) after := by
  simp only [resume, solid, word, refused, Bool.false_eq_true, if_false]

theorem resume_cases :
    resume counts sink (.ok line :: rest) = resume counts sink rest ∨
      (∃ fault after, resume counts sink (.ok line :: rest) = stop (.write fault) after) ∨
      ∃ after, resume counts sink (.ok line :: rest) =
        (resume (counts.count [Row.ofLine (counts.lines + 1) line]) after rest).report
          (Row.ofLine (counts.lines + 1) line) := by
  cases blank : Text.allBlank line with
  | true => exact .inl (resume_blank _ _ _ _ blank)
  | false =>
    apply Or.inr
    cases word : (Row.ofLine (counts.lines + 1) line).hex with
    | none => exact .inr ⟨sink, resume_rejected _ _ _ _ blank word⟩
    | some hex =>
      rcases put : WordSink.put sink hex with ⟨after, _ | fault⟩
      · exact .inr ⟨after, resume_taken _ _ _ _ _ _ blank word put⟩
      · exact .inl ⟨fault, after, resume_refused _ _ _ _ _ _ fault blank word put⟩

end Step

theorem resume_counts (counts summary : Summary) (sink : σ) (lines : List (Except Fault String))
    (succeeded : (resume counts sink lines).result = .ok summary) :
    summary = counts.count (resume counts sink lines).rows := by
  induction lines generalizing counts sink with
  | nil =>
    rw [resume, finish] at succeeded ⊢
    rcases closed : WordSink.close sink with ⟨after, _ | fault⟩ <;> rw [closed] at succeeded
    · cases succeeded
      rfl
    · cases succeeded
  | cons line rest ih =>
    cases line with
    | error fault => cases succeeded
    | ok line =>
      obtain passed | ⟨fault, after, stopped⟩ | ⟨after, reported⟩ :=
        resume_cases counts sink line rest
      · rw [passed] at succeeded ⊢
        exact ih counts sink succeeded
      · rw [stopped] at succeeded
        cases succeeded
      · rw [reported] at succeeded ⊢
        exact (ih _ after succeeded).trans (Summary.count_cons _ _ _).symm

theorem resume_rows (counts : Summary) (sink : σ) (lines : List (Except Fault String)) (row : Row)
    (member : row ∈ (resume counts sink lines).rows) :
    ∃ seq line, .ok line ∈ lines ∧ row = Row.ofLine seq line := by
  induction lines generalizing counts sink with
  | nil =>
    rw [resume, finish] at member
    rcases closed : WordSink.close sink with ⟨after, _ | fault⟩ <;> rw [closed] at member <;>
      cases member
  | cons line rest ih =>
    have later (before : Summary) (left : σ) (behind : row ∈ (resume before left rest).rows) :
        ∃ seq text, .ok text ∈ line :: rest ∧ row = Row.ofLine seq text := by
      obtain ⟨seq, text, inside, same⟩ := ih before left behind
      exact ⟨seq, text, List.mem_cons_of_mem line inside, same⟩
    cases line with
    | error fault => cases member
    | ok line =>
      obtain passed | ⟨fault, after, stopped⟩ | ⟨after, reported⟩ :=
        resume_cases counts sink line rest
      · exact later counts sink (passed ▸ member)
      · rw [stopped] at member
        cases member
      · rw [reported, report, List.mem_cons] at member
        rcases member with rfl | behind
        · exact ⟨_, line, List.mem_cons_self, rfl⟩
        · exact later _ after behind

def reportAll (rows : List Row) (run : Run σ) : Run σ := { run with rows := rows ++ run.rows }

-- The counts and the sink move along with the lines, and nothing else is carried over to the rest.
theorem resume_texts (counts : Summary) (sink after : σ) (texts : List String)
    (rest : List (Except Fault String))
    (taken : WordSink.putAll sink (rowWords (listing (counts.lines + 1) texts)) = (after, none)) :
    resume counts sink (texts.map .ok ++ rest) =
      (resume (counts.count (listing (counts.lines + 1) texts)) after rest).reportAll
        (listing (counts.lines + 1) texts) := by
  induction texts generalizing counts sink with
  | nil =>
    cases taken
    rfl
  | cons line texts ih =>
    rw [List.map_cons, List.cons_append]
    cases blank : Text.allBlank line with
    | true =>
      rw [listing_blank _ line texts blank] at taken ⊢
      rw [resume_blank _ _ _ _ blank]
      exact ih counts sink taken
    | false =>
      rw [listing_written _ line texts blank] at taken ⊢
      rw [Summary.count_cons]
      have tail := ih (counts.count [Row.ofLine (counts.lines + 1) line])
      cases word : (Row.ofLine (counts.lines + 1) line).hex with
      | none =>
        simp only [rowWords, List.filterMap_cons, word] at taken
        rw [resume_rejected _ _ _ _ blank word, tail sink taken]
        rfl
      | some hex =>
        simp only [rowWords, List.filterMap_cons, word, WordSink.putAll] at taken
        rcases put : WordSink.put sink hex with ⟨next, _ | fault⟩
        · simp only [put] at taken
          rw [resume_taken _ _ next _ hex _ blank word put, tail next taken]
          rfl
        · simp [put] at taken

end Run

end Sink

end Asm16
