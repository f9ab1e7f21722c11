import Asm16.Proofs.Immediates
import Asm16.Proofs.Lines
import Asm16.Proofs.Rows

set_option autoImplicit false

namespace Asm16

namespace Text

section Class

variable (p : Char → Bool)

def every (s : String) : Bool := s.toList.all p

theorem every_append (s t : String) : every p (s ++ t) = (every p s && every p t) := by
  simp [every]

theorem every_intercalate (separator : String) (texts : List String)
    (between : every p separator = true) (all : ∀ text ∈ texts, every p text = true) :
    every p (String.intercalate separator texts) = true := by
  induction texts with
  | nil => rfl
  | cons text rest ih =>
    rw [List.forall_mem_cons] at all
    cases rest with
    | nil => simpa using all.1
    | cons next rest =>
      rw [String.intercalate_cons_cons, every_append, every_append, all.1, between, ih all.2]
      rfl

theorem every_column (width : Nat) (s : String) (blank : p ' ' = true) :
    every p (column width s) = every p s := by
  simp [every, column, blank]

theorem every_trim (s : String) (all : every p s = true) : every p (trim s) = true := by
  simp only [every, List.all_eq_true, trim, trimRight, trimLeft, String.toList_ofList,
    List.mem_reverse] at all ⊢
  intro c member
  have left := List.mem_reverse.1 ((List.dropWhile_sublist isBlank).subset member)
  exact all c ((List.dropWhile_sublist isBlank).subset left)

end Class

def isVisible (c : Char) : Bool := 0x20 ≤ c.toNat

def isInline (c : Char) : Bool := c != '\n'

theorem every_inline_of_visible (s : String) (visible : every isVisible s = true) :
    every isInline s = true := by
  simp only [every, List.all_eq_true] at visible ⊢
  intro c member
  have above := visible c member
  by_cases feed : c = '\n'
  · subst feed
    cases above
  · simpa [isInline] using feed

theorem every_inline_iff (s : String) : every isInline s = true ↔ '\n' ∉ s.toList := by
  simp only [every, List.all_eq_true, isInline, bne_iff_ne]
  exact ⟨fun apart member => apart '\n' member rfl, fun absent c member same => absent (same ▸ member)⟩

theorem repr_visible (n : Nat) : every isVisible n.repr = true := by
  simp only [every, List.all_eq_true]
  intro c member
  have low : 48 ≤ c.toNat := (Char.isDigit_iff_toNat.1 (Immediate.isDigit_of_mem_repr n c member)).1
  exact decide_eq_true (by omega)

theorem jsonEscape_visible (c : Char) : (jsonEscape c).all isVisible = true := by
  unfold jsonEscape
  split_ifs with _ _ _ _ _ _ _ control
  iterate 7 rfl
  · have digit (n : Nat) (small : n < 16) : isVisible (Nat.digitChar n) = true := by
      interval_cases n <;> rfl
    have high := digit (c.toNat / 16) (by omega)
    have low := digit (c.toNat % 16) (by omega)
    simp only [List.all_cons, high, low]
    rfl
  · simpa [isVisible] using control

theorem jsonString_visible (s : String) : every isVisible (jsonString s) = true := by
  have escapes : (s.toList.flatMap jsonEscape).all isVisible = true := by
    simp only [List.all_flatMap, jsonEscape_visible, List.all_eq_true, implies_true]
  simp only [every, jsonString, String.toList_ofList, List.cons_append, List.all_cons,
    List.all_append, escapes]
  rfl

theorem cutLines_apart {α : Type} [DecidableEq α] (feed ret : α) (xs line : List α)
    (member : line ∈ cutLines feed ret xs) : feed ∉ line := by
  induction xs using piece_induction feed with
  | unterminated piece apart =>
    rw [cutLines_unterminated _ _ _ apart] at member
    split at member
    · cases member
    · rwa [List.mem_singleton.1 member]
  | terminated piece rest apart ih =>
    rw [cutLines_terminated _ _ _ _ apart, List.mem_cons] at member
    rcases member with rfl | later
    · rcases dropReturn_cases ret piece with whole | dropped
      · rwa [whole]
      · intro inside
        apply apart
        rw [dropped]
        exact List.mem_append_left _ inside
    · exact ih later

theorem readLines_inline (bytes : List UInt8) (text : String)
    (member : .ok text ∈ readLines bytes) : every isInline text = true := by
  rw [readLines_cut, List.mem_map] at member
  obtain ⟨line, inside, decoded⟩ := member
  have apart := cutLines_apart lineFeed carriageReturn bytes line inside
  have spelled : encodeText text.toList = line := by
    rw [← utf8_eq_encodeText]
    unfold decodeLine String.fromUTF8? at decoded
    split_ifs at decoded with valid
    cases decoded
    simp [utf8, String.fromUTF8]
  rw [every_inline_iff]
  intro feed
  apply apart
  rw [← spelled]
  exact List.mem_flatMap.2 ⟨'\n', feed, by decide⟩

end Text

namespace Row

open Text

theorem jsonMember_visible (key value : String) (named : every isVisible key = true)
    (spelled : every isVisible value = true) : every isVisible (jsonMember key value) = true := by
  simp only [jsonMember, every_append, named, spelled]
  rfl

theorem jsonOrNull_visible (text : Option String) : every isVisible (jsonOrNull text) = true := by
  cases text with
  | none => rfl
  | some s => exact jsonString_visible s

theorem jsonOptional_visible (key : String) (named : every isVisible key = true)
    (text : Option String) : ∀ member ∈ jsonOptional key text, every isVisible member = true := by
  cases text with
  | none => simp [jsonOptional]
  | some s =>
    simp only [jsonOptional, List.mem_singleton, forall_eq]
    exact jsonMember_visible key _ named (jsonString_visible s)

theorem json_visible (r : Row) : every isVisible r.json = true := by
  have seq : every isVisible (toString r.seq) = true := repr_visible r.seq
  have members := every_intercalate isVisible ","
    ([jsonMember "seq" (toString r.seq), jsonMember "source" (jsonString r.source)] ++
      jsonOptional "expanded" r.expanded ++
      [jsonMember "binary" (jsonOrNull r.binary), jsonMember "hex" (jsonOrNull r.hex)] ++
      jsonOptional "error" r.error) rfl (by
    simp only [List.forall_mem_append, List.forall_mem_cons, List.not_mem_nil, IsEmpty.forall_iff,
      implies_true, and_true]
    exact ⟨⟨⟨⟨jsonMember_visible _ _ rfl seq, jsonMember_visible _ _ rfl (jsonString_visible _)⟩,
      jsonOptional_visible _ rfl _⟩, jsonMember_visible _ _ rfl (jsonOrNull_visible _),
      jsonMember_visible _ _ rfl (jsonOrNull_visible _)⟩, jsonOptional_visible _ rfl _⟩)
  simp only [json, every_append, members]
  rfl

theorem bits_inline (w : Word) : every isInline w.bits = true := by
  simp only [every, List.all_eq_true]
  intro c member
  rcases w.bits_digits.2 c member with rfl | rfl <;> rfl

theorem hex_inline (w : Word) : every isInline w.hex = true := by
  have digits : Word.hexDigits.all isInline = true := rfl
  simp only [every, List.all_eq_true] at digits ⊢
  exact fun c member => digits c (w.mem_hexDigits_of_mem_hex c member)

theorem verdict_inline (result : Except Rejection Encoding) :
    every isInline (verdict result) = true := by
  cases result with
  | ok e =>
    simp only [verdict, every_append, bits_inline, hex_inline]
    rfl
  | error rejection =>
    change every isInline syntaxError = true
    rfl

theorem text_ofLine_inline (seq : Nat) (line : String) (inline : every isInline line = true) :
    every isInline (ofLine seq line).text = true := by
  have number : every isInline (toString seq) = true := every_inline_of_visible _ (repr_visible seq)
  have source := every_trim isInline line inline
  rw [text_ofLine]
  simp only [every_append, every_column isInline _ _ rfl, number, source, verdict_inline]
  rfl

end Row

end Asm16
