import Asm16.Proofs.SingleLines

set_option autoImplicit false

namespace Asm16

namespace Text

def hexDigit (c : Char) : Nat := "0123456789abcdef".toList.idxOf c

theorem hexDigit_digitChar (n : Nat) (digit : n < 16) : hexDigit (Nat.digitChar n) = n := by
  interval_cases n <;> rfl

def unescape? : Char → Option Char
  | '"' => some '"'
  | '\\' => some '\\'
  | 'b' => some '\x08'
  | 'f' => some '\x0c'
  | 'n' => some '\n'
  | 'r' => some '\r'
  | 't' => some '\t'
  | _ => none

def readBody : List Char → Option (List Char × List Char)
  | [] => none
  | '"' :: rest => some ([], rest)
  | '\\' :: 'u' :: '0' :: '0' :: high :: low :: rest =>
      (readBody rest).map fun parts =>
        (Char.ofNat (16 * hexDigit high + hexDigit low) :: parts.1, parts.2)
  | '\\' :: c :: rest =>
      (unescape? c).bind fun d => (readBody rest).map fun parts => (d :: parts.1, parts.2)
  | c :: rest => (readBody rest).map fun parts => (c :: parts.1, parts.2)

def readString? : List Char → Option (String × List Char)
  | '"' :: rest => (readBody rest).map fun parts => (String.ofList parts.1, parts.2)
  | _ => none

theorem readBody_escape (c : Char) (rest : List Char) :
    readBody (jsonEscape c ++ rest) =
      (readBody rest).map fun parts => (c :: parts.1, parts.2) := by
  unfold jsonEscape
  split_ifs with quote backslash backspace form feed ret tab control
  · subst quote; rfl
  · subst backslash; rfl
  · subst backspace; rfl
  · subst form; rfl
  · subst feed; rfl
  · subst ret; rfl
  · subst tab; rfl
  · have number : Char.ofNat (16 * hexDigit (Nat.digitChar (c.toNat / 16)) +
        hexDigit (Nat.digitChar (c.toNat % 16))) = c := by
      rw [hexDigit_digitChar _ (by omega), hexDigit_digitChar _ (by omega), Nat.div_add_mod,
        Char.ofNat_toNat]
    simp only [List.cons_append, List.nil_append, readBody, number]
  · rw [List.singleton_append, readBody]
    all_goals simp_all

theorem readBody_escapes (cs rest : List Char) :
    readBody (cs.flatMap jsonEscape ++ '"' :: rest) = some (cs, rest) := by
  induction cs with
  | nil => rfl
  | cons c cs ih => rw [List.flatMap_cons, List.append_assoc, readBody_escape, ih, Option.map_some]

theorem readString_jsonString (s : String) (rest : List Char) :
    readString? ((jsonString s).toList ++ rest) = some (s, rest) := by
  have body := readBody_escapes s.toList rest
  simp only [jsonString, String.toList_ofList, List.cons_append, List.append_assoc,
    List.nil_append, readString?, body, Option.map_some, String.ofList_toList]

end Text

namespace Row

open Text

section Read

variable (cs : List Char)

def keyChars (key : String) : List Char := (",\"" ++ key ++ "\":").toList

def readNullable? : Option (Option String × List Char) :=
  match cs.dropPrefix? "null".toList with
  | some rest => some (none, rest)
  | none => (readString? cs).map fun parts => (some parts.1, parts.2)

-- Where another key stands, nothing is read.
def readOptional? (key : String) : Option (Option String × List Char) :=
  match cs.dropPrefix? (keyChars key) with
  | some rest => (readString? rest).map fun parts => (some parts.1, parts.2)
  | none => some (none, cs)

end Read

def ofJson? (text : String) : Option Row := do
  let cs ← text.toList.dropPrefix? "\x7b\"seq\":".toList
  let (seq, cs) := splitNumber cs
  let cs ← cs.dropPrefix? (keyChars "source")
  let (source, cs) ← readString? cs
  let (expanded, cs) ← readOptional? cs "expanded"
  let cs ← cs.dropPrefix? (keyChars "binary")
  let (binary, cs) ← readNullable? cs
  let cs ← cs.dropPrefix? (keyChars "hex")
  let (hex, cs) ← readNullable? cs
  let (error, cs) ← readOptional? cs "error"
  if cs = ['\x7d'] then some { seq, source, expanded, binary, hex, error } else none

theorem dropPrefix_append (front back : List Char) :
    (front ++ back).dropPrefix? front = some back :=
  List.dropPrefix?_eq_some_iff.2 ⟨front, rfl, by simp⟩

theorem splitNumber_key (n : Nat) (key : String) (rest : List Char) :
    splitNumber ((toString n).toList ++ (keyChars key ++ rest)) = (n, keyChars key ++ rest) := by
  apply splitNumber_repr
  simp [keyChars]

theorem readNullable_spelled (text : Option String) (rest : List Char) :
    readNullable? ((jsonOrNull text).toList ++ rest) = some (text, rest) := by
  cases text with
  | none => simp only [jsonOrNull, readNullable?, dropPrefix_append]
  | some s =>
    have quoted : ((jsonString s).toList ++ rest).dropPrefix? "null".toList = none := by
      simp [jsonString]
      rfl
    simp only [jsonOrNull, readNullable?, quoted, readString_jsonString, Option.map_some]

def optionalChars (key : String) : Option String → List Char
  | some s => keyChars key ++ (jsonString s).toList
  | none => []

theorem readOptional_spelled (key : String) (text : Option String) (rest : List Char)
    (other : rest.dropPrefix? (keyChars key) = none) :
    readOptional? (optionalChars key text ++ rest) key = some (text, rest) := by
  cases text with
  | none => simp only [optionalChars, List.nil_append, readOptional?, other]
  | some s =>
    simp only [optionalChars, List.append_assoc, readOptional?, dropPrefix_append,
      readString_jsonString, Option.map_some]

theorem json_toList (r : Row) :
    r.json.toList = "\x7b\"seq\":".toList ++ ((toString r.seq).toList ++ (keyChars "source" ++
      ((jsonString r.source).toList ++ (optionalChars "expanded" r.expanded ++ (keyChars "binary" ++
      ((jsonOrNull r.binary).toList ++ (keyChars "hex" ++ ((jsonOrNull r.hex).toList ++
      (optionalChars "error" r.error ++ ['\x7d']))))))))) := by
  cases expanded : r.expanded <;> cases error : r.error <;>
    simp [json, jsonMember, jsonOptional, optionalChars, keyChars, expanded, error,
      String.intercalate_cons_cons]

theorem ofJson_json (r : Row) : ofJson? r.json = some r := by
  have binary (rest : List Char) :
      (keyChars "binary" ++ rest).dropPrefix? (keyChars "expanded") = none := rfl
  have closing : ['\x7d'].dropPrefix? (keyChars "error") = none := rfl
  simp only [ofJson?, json_toList, dropPrefix_append, splitNumber_key, readString_jsonString,
    readOptional_spelled _ _ _ (binary _), readOptional_spelled _ _ _ closing,
    readNullable_spelled, Option.bind_eq_bind, Option.bind_some, if_true]

theorem json_lossless (r s : Row) :
    (∀ c ∈ r.json.toList, 0x20 ≤ c.toNat) ∧ ofJson? r.json = some r ∧
      (r.json = s.json → r = s) := by
  refine ⟨?_, ofJson_json r, ?_⟩
  · have visible := json_visible r
    simpa only [every, isVisible, List.all_eq_true, decide_eq_true_eq] using visible
  · intro same
    have read := ofJson_json r
    rw [same, ofJson_json s] at read
    exact (Option.some.inj read).symm

theorem json_rows_apart :
    '\\' ∈ (ofLine 3 "\"\x01\\").json.toList ∧ 0x20 ≤ '\\'.toNat ∧
      ofLine 3 "\"\x01\\" =
        { seq := 3, source := "\"\x01\\", error := some "unknown opcode `\"\x01\\`" } ∧
      ({ seq := 3, source := "", expanded := some "" } : Row).json ≠
        ({ seq := 3, source := "" } : Row).json ∧
      ({ seq := 3, source := "", binary := some "null" } : Row).json ≠
        ({ seq := 3, source := "" } : Row).json := by
  have escaped : '\\' ∈ (ofLine 3 "\"\x01\\").json.toList := by decide +kernel
  have same : (ofLine 3 "\"\x01\\").json =
      ({ seq := 3, source := "\"\x01\\", error := some "unknown opcode `\"\x01\\`" } : Row).json := by
    decide +kernel
  obtain ⟨visible, -, equal⟩ := json_lossless (ofLine 3 "\"\x01\\") _
  refine ⟨escaped, visible _ escaped, equal same, ?_, ?_⟩
  · exact fun alike => absurd ((json_lossless _ _).2.2 alike) (by decide)
  · exact fun alike => absurd ((json_lossless _ _).2.2 alike) (by decide)

end Row

end Asm16
