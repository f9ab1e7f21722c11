import Asm16.Proofs.Rows
import Asm16.Proofs.TrayRun

set_option autoImplicit false

namespace Asm16

open Text (textLines cutLines dropReturn)

theorem assemble_eq (source : String) :
    assemble source =
      .ok ⟨listing 1 (textLines source), rowWords (listing 1 (textLines source)),
        Summary.count {} (listing 1 (textLines source))⟩ := by
  have room : ({} : Tray).HasRoom (rowWords (listing 1 (textLines source))).length := by
    intro n limit
    cases limit
  have ran := Run.resume_texts {} ({} : Tray) _ (textLines source) [] (Tray.putAll_room {} _ room)
  rw [List.append_nil, ← Text.readLines_utf8] at ran
  simp only [assemble, Run.ofBytes, Run.start, ran]
  simp [Run.resume, Run.finish, WordSink.close, Tray.close, Tray.holding, Run.reportAll, Except.map]

def encodings (lines : List String) : List Encoding :=
  (written lines).filterMap fun line => (Encoding.ofLine (expand line)).toOption

theorem rowWords_listing (first : Nat) (lines : List String) :
    rowWords (listing first lines) = (encodings lines).map fun e => e.word.hex := by
  induction lines generalizing first with
  | nil => rfl
  | cons line lines ih =>
    cases blank : Text.allBlank line with
    | true =>
      rw [listing_blank first line lines blank, ih]
      simp [encodings, written, blank]
    | false =>
      rw [listing_written first line lines blank, ← List.singleton_append, rowWords_append, ih]
      cases encoded : Encoding.ofLine (expand line) <;>
        simp [rowWords, encodings, written, blank, Row.ofLine_hex, encoded, Except.toOption]

theorem listing_seq (first : Nat) (lines : List String) :
    (listing first lines).map Row.seq = List.range' first (written lines).length := by
  apply List.ext_getElem
  · simp [listing]
  · intro place inside _
    simp [listing, Row.ofLine_seq]

theorem assemble_faithful (source : String) :
    ∃ a, assemble source = .ok a ∧
      a.rows = (written (textLines source)).mapIdx
        (fun place line => Row.ofLine (1 + place) line) ∧
      a.rows.map Row.seq = List.range' 1 (written (textLines source)).length ∧
      a.words = a.rows.filterMap Row.hex ∧
      List.Forall₂
        (fun word e => word.length = 4 ∧ (∀ c ∈ word.toList, c ∈ Word.hexDigits) ∧
          Word.hexValue word = e.word.raw.toNat)
        a.words
        ((written (textLines source)).filterMap fun line =>
          (Encoding.ofLine (expand line)).toOption) := by
  refine ⟨_, assemble_eq source, rfl, listing_seq 1 _, rfl, ?_⟩
  rw [rowWords_listing, List.forall₂_map_left_iff]
  apply List.forall₂_same.2
  intro e _
  exact ⟨by simp [Word.hex], Word.mem_hexDigits_of_mem_hex e.word, Word.hexValue_hex e.word⟩

theorem listing_dropReturn (first : Nat) (line : List Char) (lines : List String) :
    listing first (String.ofList (dropReturn '\r' line) :: lines) =
      listing first (String.ofList line :: lines) := by
  rcases Text.dropReturn_cases '\r' line with whole | dropped
  · rw [whole]
  · -- Only the trimmed text and the tokens of the line matter, and the return is in neither.
    generalize dropReturn '\r' line = front at dropped
    subst dropped
    have same : Text.allBlank (String.ofList (front ++ ['\r'])) =
        Text.allBlank (String.ofList front) := allBlank_append_blank front '\r' rfl
    have row : Row.ofLine first (String.ofList (front ++ ['\r'])) =
        Row.ofLine first (String.ofList front) :=
      Row.ofLine_congr first _ _ (tokens_append_separator front '\r' rfl)
        (trim_append_blank front '\r' rfl)
    cases blank : Text.allBlank (String.ofList front) with
    | true => rw [listing_blank _ _ _ blank, listing_blank _ _ _ (same.trans blank)]
    | false => rw [listing_written _ _ _ blank, listing_written _ _ _ (same.trans blank), row]

theorem listing_cons_congr (line : String) (lines more : List String)
    (same : ∀ first, listing first lines = listing first more) (first : Nat) :
    listing first (line :: lines) = listing first (line :: more) := by
  cases blank : Text.allBlank line with
  | true => rw [listing_blank _ _ _ blank, listing_blank _ _ _ blank, same]
  | false => rw [listing_written _ _ _ blank, listing_written _ _ _ blank, same]

-- The line feed in between ends the last line of the first text, or makes a blank line.
theorem listing_cutLines_join (before after : List Char) (first : Nat) :
    listing first ((cutLines '\n' '\r' (before ++ '\n' :: after)).map String.ofList) =
      listing first
        ((cutLines '\n' '\r' before ++ cutLines '\n' '\r' after).map String.ofList) := by
  induction before using Text.piece_induction '\n' generalizing first with
  | unterminated piece apart =>
    rw [Text.cutLines_terminated _ _ _ _ apart, Text.cutLines_unterminated _ _ _ apart,
      List.map_cons, listing_dropReturn]
    cases piece with
    | nil => exact listing_blank first _ _ rfl
    | cons c piece => rfl
  | terminated piece rest apart ih =>
    rw [List.append_assoc, List.cons_append, Text.cutLines_terminated _ _ _ _ apart,
      Text.cutLines_terminated _ _ _ _ apart, List.map_cons, List.cons_append, List.map_cons]
    exact listing_cons_congr _ _ _ ih first

theorem listing_textLines_join (before after : String) (first : Nat) :
    listing first (textLines (before ++ "\n" ++ after)) =
      listing first (textLines before ++ textLines after) := by
  have joined : (before ++ "\n" ++ after).toList = before.toList ++ '\n' :: after.toList := by
    simp
  rw [textLines, joined, listing_cutLines_join, List.map_append]
  rfl

def Row.shift (offset : Nat) (row : Row) : Row := { row with seq := row.seq + offset }

theorem listing_renumber (first shift : Nat) (lines : List String) :
    listing (first + shift) lines = (listing first lines).map (Row.shift shift) := by
  induction lines generalizing first with
  | nil => rfl
  | cons line lines ih =>
    cases blank : Text.allBlank line with
    | true => rw [listing_blank _ _ _ blank, listing_blank _ _ _ blank, ih]
    | false =>
      rw [listing_written _ _ _ blank, listing_written _ _ _ blank, Nat.add_right_comm, ih,
        Row.ofLine_renumber]
      rfl

theorem rowWords_shift (shift : Nat) (rows : List Row) :
    rowWords (rows.map (Row.shift shift)) = rowWords rows := by
  rw [rowWords, List.filterMap_map]
  rfl

theorem Summary.count_join (rows more : List Row) (shift : Nat) :
    Summary.count {} (rows ++ more.map (Row.shift shift)) =
      { lines := rows.length + more.length
        encoded := rows.countP Row.accepted + more.countP Row.accepted
        rejected := rows.countP (!·.accepted) + more.countP (!·.accepted) } := by
  have accepted : Row.accepted ∘ Row.shift shift = Row.accepted := rfl
  have rejected : (fun row => !row.accepted) ∘ Row.shift shift = fun row => !row.accepted := rfl
  simp [count, List.countP_append, List.countP_map, accepted, rejected]

theorem assemble_join (before after : String) :
    ∃ a b, assemble before = .ok a ∧ assemble after = .ok b ∧
      assemble (before ++ "\n" ++ after) = .ok
        { rows := a.rows ++ b.rows.map fun row => { row with seq := row.seq + a.summary.lines }
          words := a.words ++ b.words
          summary :=
            { lines := a.summary.lines + b.summary.lines
              encoded := a.summary.encoded + b.summary.encoded
              rejected := a.summary.rejected + b.summary.rejected } } := by
  refine ⟨_, _, assemble_eq before, assemble_eq after, ?_⟩
  have rows : listing 1 (textLines (before ++ "\n" ++ after)) =
      listing 1 (textLines before) ++
        (listing 1 (textLines after)).map (Row.shift (listing 1 (textLines before)).length) := by
    rw [listing_textLines_join, listing_append, listing_renumber]
  have summary := Summary.count_join (listing 1 (textLines before)) (listing 1 (textLines after))
    (listing 1 (textLines before)).length
  rw [assemble_eq, rows, rowWords_append, rowWords_shift, summary]
  simp only [Summary.count, Nat.zero_add]
  rfl

section Respelling

variable (chosen : Nat → Bool)

-- Puts a carriage return before the line feeds at the chosen places, counted from `place`.
def addReturns : Nat → List Char → List Char
  | _, [] => []
  | place, c :: cs =>
      if c = '\n' ∧ chosen place then '\r' :: '\n' :: addReturns (place + 1) cs
      else c :: addReturns (place + 1) cs

theorem addReturns_piece (piece rest : List Char) (apart : '\n' ∉ piece) (place : Nat) :
    addReturns chosen place (piece ++ rest) =
      piece ++ addReturns chosen (place + piece.length) rest := by
  induction piece generalizing place with
  | nil => rfl
  | cons c piece ih =>
    simp only [List.mem_cons, not_or] at apart
    have other : ¬ (c = '\n' ∧ chosen place) := fun feed => apart.1 feed.1.symm
    rw [List.cons_append, addReturns, if_neg other, ih apart.2, List.length_cons,
      Nat.add_right_comm, Nat.add_assoc]
    rfl

theorem listing_addReturns (cs : List Char) (first place : Nat) :
    listing first ((cutLines '\n' '\r' (addReturns chosen place cs)).map String.ofList) =
      listing first ((cutLines '\n' '\r' cs).map String.ofList) := by
  induction cs using Text.piece_induction '\n' generalizing first place with
  | unterminated piece apart =>
    have whole := addReturns_piece chosen piece [] apart place
    rw [List.append_nil] at whole
    rw [whole, addReturns, List.append_nil]
  | terminated piece rest apart ih =>
    rw [addReturns_piece chosen piece _ apart, addReturns, Text.cutLines_terminated _ _ _ _ apart,
      List.map_cons, listing_dropReturn]
    have later := listing_cons_congr (String.ofList piece) _ _
      (fun next => ih next (place + piece.length + 1)) first
    by_cases here : '\n' = '\n' ∧ chosen (place + piece.length)
    · have returned : '\n' ∉ piece ++ ['\r'] := by simp [apart]
      have split := Text.cutLines_terminated '\n' '\r' (piece ++ ['\r'])
        (addReturns chosen (place + piece.length + 1) rest) returned
      have dropped : dropReturn '\r' (piece ++ ['\r']) = piece := by simp [dropReturn]
      rw [List.append_assoc, List.singleton_append, dropped] at split
      rw [if_pos here, split, List.map_cons, later]
    · rw [if_neg here, Text.cutLines_terminated _ _ _ _ apart, List.map_cons, listing_dropReturn,
        later]

def respell (source : String) : String := String.ofList (addReturns chosen 0 source.toList)

theorem listing_respell (source : String) (first : Nat) :
    listing first (textLines (respell chosen source)) = listing first (textLines source) := by
  rw [textLines, respell, String.toList_ofList, listing_addReturns]
  rfl

end Respelling

def finalFeed (ended : Bool) : String := if ended then "\n" else ""

theorem listing_finalFeed (source : String) (ended : Bool) (first : Nat) :
    listing first (textLines (source ++ finalFeed ended)) = listing first (textLines source) := by
  cases ended with
  | false => rw [show finalFeed false = "" from rfl, String.append_empty]
  | true =>
    have join := listing_textLines_join source "" first
    rw [String.append_empty] at join
    rw [show finalFeed true = "\n" from rfl, join, listing_append]
    exact List.append_nil _

/-- The final line feed may be put before or after the carriage returns. -/
theorem assemble_respelled (source : String) (chosen : Nat → Bool) (ended : Bool) :
    ∃ a, assemble source = .ok a ∧
      assemble (respell chosen source ++ finalFeed ended) = .ok a ∧
      assemble (respell chosen (source ++ finalFeed ended)) = .ok a := by
  refine ⟨_, assemble_eq source, ?_, ?_⟩
  · rw [assemble_eq, listing_finalFeed, listing_respell]
  · rw [assemble_eq, listing_respell, listing_finalFeed]

example : respell (· ≠ 4) "NOP\n\nNOP\r\n" = "NOP\r\n\nNOP\r\r\n" := rfl

end Asm16
