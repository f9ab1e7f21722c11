import Asm16.Text.Basic
import Mathlib.Tactic

set_option autoImplicit false

namespace Asm16.Text

section Cut

variable {α : Type} [DecidableEq α]

def dropReturn (ret : α) (line : List α) : List α :=
  if line.getLast? = some ret then line.dropLast else line

theorem dropReturn_cases (ret : α) (line : List α) :
    dropReturn ret line = line ∨ line = dropReturn ret line ++ [ret] := by
  unfold dropReturn
  split
  · rename_i ends
    exact .inr (List.dropLast_append_getLast? ret ends).symm
  · exact .inl rfl

-- What stands between line feeds, less its return. Behind the last line feed there is a line only
-- if something stands there, and its return is its own.
def cutLines (feed ret : α) (xs : List α) : List (List α) :=
  let pieces := xs.splitOn feed
  pieces.dropLast.map (dropReturn ret) ++ pieces.getLast?.toList.filter (!·.isEmpty)

theorem cutLines_unterminated (feed ret : α) (piece : List α) (apart : feed ∉ piece) :
    cutLines feed ret piece = if piece = [] then [] else [piece] := by
  cases piece <;> simp [cutLines, List.splitOn_eq_singleton apart]

theorem cutLines_terminated (feed ret : α) (piece rest : List α) (apart : feed ∉ piece) :
    cutLines feed ret (piece ++ feed :: rest) = dropReturn ret piece :: cutLines feed ret rest := by
  have more : rest.splitOn feed ≠ [] := List.splitOn_ne_nil feed rest
  simp only [cutLines, List.splitOn_append_cons_self_of_not_mem apart]
  rw [List.dropLast_cons_of_ne_nil more, List.getLast?_cons, List.getLast?_eq_some_getLast more]
  rfl

theorem piece_induction (feed : α) {motive : List α → Prop}
    (unterminated : ∀ piece, feed ∉ piece → motive piece)
    (terminated : ∀ piece rest, feed ∉ piece → motive rest → motive (piece ++ feed :: rest))
    (xs : List α) : motive xs := by
  induction size : xs.length using Nat.strongRecOn generalizing xs with
  | ind n ih =>
    by_cases member : feed ∈ xs
    · obtain ⟨piece, rest, rfl, apart⟩ := List.eq_append_cons_of_mem member
      refine terminated piece rest apart (ih rest.length ?_ rest rfl)
      simp only [List.length_append, List.length_cons] at size
      omega
    · exact unterminated xs member

end Cut

theorem splitLines_unterminated (piece : List UInt8) (apart : lineFeed ∉ piece) :
    splitLines piece = if piece = [] then [] else [piece] := by
  induction piece with
  | nil => rfl
  | cons b piece ih =>
    simp only [List.mem_cons, not_or] at apart
    have rest := ih apart.2
    unfold splitLines at rest ⊢
    rw [List.foldr_cons, rest]
    cases piece <;> simp [consByte, Ne.symm apart.1]

theorem splitLines_terminated (piece rest : List UInt8) (apart : lineFeed ∉ piece) :
    splitLines (piece ++ lineFeed :: rest) = (piece ++ [lineFeed]) :: splitLines rest := by
  induction piece with
  | nil =>
    change consByte lineFeed (splitLines rest) = _
    cases splitLines rest <;> simp [consByte]
  | cons b piece ih =>
    simp only [List.mem_cons, not_or] at apart
    change consByte b (splitLines (piece ++ lineFeed :: rest)) = _
    rw [ih apart.2]
    simp [consByte, Ne.symm apart.1]

theorem chomp_unterminated (piece : List UInt8) (apart : lineFeed ∉ piece) :
    chomp piece = piece := by
  unfold chomp
  split
  · rename_i empty
    exact (List.reverse_eq_nil_iff.1 empty).symm
  · rename_i b front shape
    have member : b ∈ piece := List.mem_reverse.1 (by simp [shape])
    have other : b ≠ lineFeed := fun same => apart (same ▸ member)
    rw [if_neg other]

theorem chomp_terminated (piece : List UInt8) :
    chomp (piece ++ [lineFeed]) = dropReturn carriageReturn piece := by
  rcases List.eq_nil_or_concat piece with rfl | ⟨front, last, rfl⟩
  · rfl
  · by_cases same : last = carriageReturn <;> simp [chomp, dropReturn, same]

theorem chomp_splitLines (bytes : List UInt8) :
    (splitLines bytes).map chomp = cutLines lineFeed carriageReturn bytes := by
  induction bytes using piece_induction lineFeed with
  | unterminated piece apart =>
    rw [splitLines_unterminated piece apart, cutLines_unterminated _ _ piece apart]
    split <;> simp [chomp_unterminated piece apart]
  | terminated piece rest apart ih =>
    rw [splitLines_terminated piece rest apart, cutLines_terminated _ _ piece rest apart,
      List.map_cons, chomp_terminated, ih]

def sourceLines (bytes : List UInt8) : List (List UInt8) := cutLines lineFeed carriageReturn bytes

theorem readLines_cut (bytes : List UInt8) :
    readLines bytes = (sourceLines bytes).map decodeLine := by
  rw [sourceLines, ← chomp_splitLines, List.map_map]
  rfl

def leadingTexts : List (List UInt8) → List String
  | [] => []
  | line :: rest =>
      if valid : line.toByteArray.IsValidUTF8 then
        String.fromUTF8 line.toByteArray valid :: leadingTexts rest
      else []

theorem decodeLine_valid (line : List UInt8) (valid : line.toByteArray.IsValidUTF8) :
    decodeLine line = .ok (String.fromUTF8 line.toByteArray valid) := by
  simp only [decodeLine, String.fromUTF8?, dif_pos valid]

theorem decode_texts (lines : List (List UInt8))
    (valid : ∀ line ∈ lines, line.toByteArray.IsValidUTF8) :
    lines.map decodeLine = (leadingTexts lines).map .ok := by
  induction lines with
  | nil => rfl
  | cons line rest ih =>
    have first := valid line (by simp)
    have tail := ih fun other member => valid other (List.mem_cons_of_mem line member)
    rw [leadingTexts, dif_pos first, List.map_cons, List.map_cons, decodeLine_valid line first, tail]

theorem decode_up_to_invalid (lines : List (List UInt8))
    (invalid : ∃ line ∈ lines, ¬ line.toByteArray.IsValidUTF8) :
    ∃ rest, lines.map decodeLine =
      (leadingTexts lines).map .ok ++ .error .invalidUtf8 :: rest := by
  induction lines with
  | nil => simp at invalid
  | cons line rest ih =>
    by_cases first : line.toByteArray.IsValidUTF8
    · have behind : ∃ other ∈ rest, ¬ other.toByteArray.IsValidUTF8 := by
        simpa [first] using invalid
      obtain ⟨later, decoded⟩ := ih behind
      refine ⟨later, ?_⟩
      rw [leadingTexts, dif_pos first, List.map_cons, decodeLine_valid line first, decoded]
      rfl
    · refine ⟨rest.map decodeLine, ?_⟩
      rw [leadingTexts, dif_neg first, List.map_cons]
      simp only [decodeLine, String.fromUTF8?, dif_neg first]
      rfl

def encodeText (cs : List Char) : List UInt8 := cs.flatMap String.utf8EncodeChar

theorem utf8_eq_encodeText (s : String) : utf8 s = encodeText s.toList := by
  obtain ⟨cs, rfl⟩ := s.exists_eq_ofList
  simp [utf8, encodeText, List.utf8Encode]

theorem decodeLine_encodeText (cs : List Char) :
    decodeLine (encodeText cs) = .ok (String.ofList cs) := by
  have valid : (encodeText cs).toByteArray.IsValidUTF8 := .intro cs rfl
  rw [decodeLine_valid (encodeText cs) valid]
  rfl

theorem ascii_mem_encodeChar (b : UInt8) (c : Char) (ascii : b.toNat < 128)
    (member : b ∈ String.utf8EncodeChar c) : c.toNat = b.toNat := by
  have code : c.val.toNat = c.toNat := rfl
  unfold String.utf8EncodeChar at member
  dsimp only at member
  rw [code] at member
  split at member
  · rw [List.mem_singleton] at member
    rw [member, UInt8.toNat_ofNat']
    omega
  · exfalso
    -- The bytes of a longer code all have their top bit set.
    split at member
    on_goal 2 => split at member
    all_goals
      simp only [List.mem_cons, List.not_mem_nil, or_false, ← UInt8.toNat_inj,
        UInt8.toNat_ofNat'] at member
      omega

theorem mem_encodeText (b : UInt8) (c : Char) (cs : List Char) (ascii : b.toNat < 128)
    (code : c.toNat = b.toNat) (member : b ∈ encodeText cs) : c ∈ cs := by
  obtain ⟨d, inside, part⟩ := List.mem_flatMap.1 member
  have same : d = c := Char.toNat_inj.1 ((ascii_mem_encodeChar b d ascii part).trans code.symm)
  exact same ▸ inside

theorem dropReturn_encodeText (cs : List Char) :
    dropReturn carriageReturn (encodeText cs) = encodeText (dropReturn '\r' cs) := by
  rcases List.eq_nil_or_concat cs with rfl | ⟨front, last, rfl⟩
  · rfl
  · rw [List.concat_eq_append]
    have whole : encodeText (front ++ [last]) = encodeText front ++ String.utf8EncodeChar last := by
      simp [encodeText]
    by_cases same : last = '\r'
    · subst same
      rw [whole]
      simp [dropReturn, show String.utf8EncodeChar '\r' = [carriageReturn] from rfl]
    · have other : (encodeText (front ++ [last])).getLast? ≠ some carriageReturn := by
        intro ends
        rw [whole, List.getLast?_append_of_ne_nil _ String.utf8EncodeChar_ne_nil] at ends
        have member := List.mem_of_getLast? ends
        exact same (Char.toNat_inj.1 (ascii_mem_encodeChar carriageReturn last (by decide) member))
      simp [dropReturn, same, other]

theorem cutLines_encodeText (cs : List Char) :
    cutLines lineFeed carriageReturn (encodeText cs) =
      (cutLines '\n' '\r' cs).map encodeText := by
  induction cs using piece_induction '\n' with
  | unterminated piece apart =>
    have bytes : lineFeed ∉ encodeText piece :=
      fun member => apart (mem_encodeText lineFeed '\n' piece (by decide) rfl member)
    rw [cutLines_unterminated _ _ _ bytes, cutLines_unterminated _ _ _ apart]
    cases piece <;> simp [encodeText]
  | terminated piece rest apart ih =>
    have bytes : lineFeed ∉ encodeText piece :=
      fun member => apart (mem_encodeText lineFeed '\n' piece (by decide) rfl member)
    have whole : encodeText (piece ++ '\n' :: rest) =
        encodeText piece ++ lineFeed :: encodeText rest := by
      simp [encodeText, show String.utf8EncodeChar '\n' = [lineFeed] from rfl]
    rw [whole, cutLines_terminated _ _ _ _ bytes, cutLines_terminated _ _ _ _ apart, List.map_cons,
      dropReturn_encodeText, ih]

def textLines (s : String) : List String := (cutLines '\n' '\r' s.toList).map String.ofList

theorem readLines_utf8 (s : String) : readLines (utf8 s) = (textLines s).map .ok := by
  rw [readLines_cut, utf8_eq_encodeText, sourceLines, cutLines_encodeText, textLines, List.map_map,
    List.map_map]
  exact List.map_congr_left fun line _ => decodeLine_encodeText line

end Asm16.Text
