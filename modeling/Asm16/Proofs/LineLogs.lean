import Asm16.Proofs.Repairs
import Asm16.Proofs.RowFields

set_option autoImplicit false

namespace Asm16

def Report.events (r : Report) : List Event := r.notes.map Note.event

instance (token : String) : Decidable (NamesRegister token) :=
  decidable_of_iff (¬ Register.ofName? token = none) (by rw [Register.ofName_eq_none, not_not])

namespace DefectKind

def message : DefectKind → String
  | .unknownRegister => "unknown register, using R0"
  | .malformedImmediate => "malformed immediate, using 0"
  | .operandCount => "operand count mismatch, fields left at 0"

theorem message_inj (kind other : DefectKind) : kind.message = other.message ↔ kind = other := by
  cases kind <;> cases other <;> decide

end DefectKind

theorem Defect.event_message (d : Defect) : d.event.message = d.kind.message := by
  cases d <;> rfl

def Role.event? : Role → String → Option Event
  | .register, token =>
      if NamesRegister token then none
      else some ⟨.debug, DefectKind.unknownRegister.message, [("token", .text token)]⟩
  | .immediate, token =>
      if (Immediate.ofToken? token).isSome then none
      else some ⟨.debug, DefectKind.malformedImmediate.message, [("token", .text token)]⟩
  | .unread, _ => none

theorem registerDefects_events (token : String) :
    (registerDefects token).map Defect.event = (Role.register.event? token).toList := by
  by_cases named : NamesRegister token
  · obtain ⟨r, found⟩ := Option.ne_none_iff_exists'.1
      (mt (Register.ofName_eq_none token).1 (not_not.2 named))
    simp [registerDefects, found, Role.event?, named]
  · have missing := (Register.ofName_eq_none token).2 named
    simp [registerDefects, missing, Role.event?, named, Defect.event, DefectKind.message]

theorem immediateDefects_events (token : String) :
    (immediateDefects token).map Defect.event = (Role.immediate.event? token).toList := by
  cases read : Immediate.ofToken? token with
  | none => simp [immediateDefects, read, Role.event?, Defect.event, DefectKind.message]
  | some v => simp [immediateDefects, read, Role.event?]

namespace Format

def eventsFrom (format : Format) (place : Nat) (operands : List String) : List Event :=
  (operands.zipIdx place).filterMap fun operand => (format.role operand.2).event? operand.1

variable (format : Format) (place : Nat)

theorem eventsFrom_cons (token : String) (rest : List String) :
    format.eventsFrom place (token :: rest) =
      ((format.role place).event? token).toList ++ format.eventsFrom (place + 1) rest := by
  simp only [eventsFrom, List.zipIdx_cons, List.filterMap_eq_flatMap_toList, List.flatMap_cons]

theorem eventsFrom_unread (operands : List String)
    (unread : ∀ behind, place ≤ behind → format.role behind = .unread) :
    format.eventsFrom place operands = [] := by
  rw [eventsFrom, List.filterMap_eq_nil_iff]
  intro operand member
  rw [unread operand.2 (List.le_snd_of_mem_zipIdx member)]
  rfl

end Format

namespace Operation

def flawEvents (op : Operation) (operands : List String) : List Event :=
  if op.Fits operands then op.format.eventsFrom 0 operands
  else
    [⟨.debug, DefectKind.operandCount.message,
      [("arity", .number operands.length), ("mnemonic", .text op.mnemonic)]⟩]

theorem defects_events (op : Operation) (operands : List String) :
    (op.defects operands).map Defect.event = op.flawEvents operands := by
  by_cases fits : op.Fits operands
  · have none (format : Format) (place : Nat) : format.eventsFrom place [] = [] := rfl
    have rri (rest : List String) : Format.rri.eventsFrom 3 rest = [] :=
      Format.eventsFrom_unread _ _ rest fun behind later => by
        simp [Format.role, show ¬ behind < 2 by omega, show behind ≠ 2 by omega]
    have ri (rest : List String) : Format.ri.eventsFrom 2 rest = [] :=
      Format.eventsFrom_unread _ _ rest fun behind later => by
        simp [Format.role, show behind ≠ 0 by omega, show behind ≠ 1 by omega]
    rw [flawEvents, if_pos fits]
    obtain ⟨funct, d, s, format, rfl⟩ | ⟨funct, d, s, t, format, rfl⟩ |
      ⟨s, t, i, rest, format, rfl⟩ | ⟨s, i, rest, format, rfl⟩ := fits_cases op operands fits
    all_goals
      simp [defects, format, registerDefects_events, immediateDefects_events,
        Format.eventsFrom_cons, Format.role, none, rri, ri]
  · rw [flawEvents, if_neg fits, op.defects_unfit operands fits]
    rfl

end Operation

namespace Report

def outcomeNotes (seq : Nat) (source : String) : Except Rejection Encoding → List Note
  | .ok e => e.notes
  | .error rejection => [.rejected seq source rejection]

theorem ofResult_notes (row : Row) (result : Except Rejection Encoding) :
    (ofResult row result).notes = outcomeNotes row.seq row.source result := by
  cases result with
  | ok e => simp only [ofResult, ofEncoding, Word.hexOfBits_bits, outcomeNotes]
  | error rejection => rfl

def expansionNotes (source : String) (shorthand : Option Shorthand) : List Note :=
  shorthand.toList.map (.expanded source)

theorem ofLine_notes (seq : Nat) (line : String) :
    (ofLine seq line).notes = expansionNotes (Text.trim line) (Shorthand.ofLine? line) ++
      outcomeNotes seq (Text.trim line) (Encoding.ofLine (expand line)) := by
  unfold ofLine expand
  cases Shorthand.ofLine? line with
  | none =>
    simp only [ofResult_notes, expansionNotes, Option.toList_none, List.map_nil, List.nil_append]
  | some shorthand =>
    simp only [ofResult_notes, expansionNotes, Option.toList_some, List.map_cons, List.map_nil,
      List.singleton_append]

theorem events_append (seq : Nat) (line : String) :
    (ofLine seq line).events =
      (expansionNotes (Text.trim line) (Shorthand.ofLine? line)).map Note.event ++
        (outcomeNotes seq (Text.trim line) (Encoding.ofLine (expand line))).map Note.event := by
  rw [events, ofLine_notes, List.map_append]

end Report

theorem Encoding.notes_events (e : Encoding) :
    e.notes.map Note.event =
      e.defects.map Defect.event ++ [Note.event (.encoded e.operation e.word)] := by
  simp [notes, Note.event]

theorem DefectSet.contains_iff_event (defects : List Defect) (kind : DefectKind) :
    (ofDefects defects).contains kind = true ↔
      ∃ event ∈ defects.map Defect.event, event.message = kind.message := by
  simp [ofDefects, Defect.event_message, DefectKind.message_inj]

theorem Shorthand.encoded (line : String) (s : Shorthand) (found : ofLine? line = some s) :
    ∃ e, Encoding.ofLine (expand line) = .ok e := by
  obtain ⟨i, read, short⟩ := Option.bind_eq_some_iff.1 found
  have word : HasWord line := ⟨i, read, .inr ⟨s, short⟩⟩
  rcases Encoding.ofLine_expand_cases line with ⟨-, encoded⟩ | ⟨wordless, -⟩ | ⟨wordless, -⟩
  · exact encoded
  · exact absurd word wordless
  · exact absurd word wordless

namespace Row

def expansionEvents (row : Row) (name : String) : List Event :=
  row.expanded.toList.map fun text =>
    ⟨.debug, "pseudo-op expanded",
      [("source", .text row.source), ("expanded", .text text), ("op", .text name)]⟩

end Row

def Shorthand.nameOf (line : String) : String := ((ofLine? line).map name).getD ""

namespace Report

theorem expansionNotes_events (seq : Nat) (line : String) :
    (expansionNotes (Text.trim line) (Shorthand.ofLine? line)).map Note.event =
      (Row.ofLine seq line).expansionEvents (Shorthand.nameOf line) := by
  rw [Row.expansionEvents, Row.ofLine_expanded, Row.source_ofLine, Shorthand.nameOf]
  cases Shorthand.ofLine? line <;> rfl

section Log

variable (seq : Nat) (line : String)

theorem events_rejected (rejection : Rejection)
    (rejected : Encoding.ofLine (expand line) = .error rejection) :
    Shorthand.ofLine? line = none ∧
      (ofLine seq line).events = [Note.event (.rejected seq (Text.trim line) rejection)] := by
  have plain : Shorthand.ofLine? line = none := by
    rw [Option.eq_none_iff_forall_ne_some]
    intro s found
    obtain ⟨e, encoded⟩ := Shorthand.encoded line s found
    rw [rejected] at encoded
    cases encoded
  refine ⟨plain, ?_⟩
  rw [events_append, plain, rejected]
  rfl

theorem events_encoded (e : Encoding) (encoded : Encoding.ofLine (expand line) = .ok e) :
    (ofLine seq line).events =
      (Row.ofLine seq line).expansionEvents (Shorthand.nameOf line) ++
        e.defects.map Defect.event ++ [Note.event (.encoded e.operation e.word)] := by
  rw [events_append, encoded, expansionNotes_events seq, outcomeNotes, Encoding.notes_events,
    List.append_assoc]

-- No entry but that of a flaw is worded like one.
theorem contains_iff_logged (e : Encoding) (encoded : Encoding.ofLine (expand line) = .ok e)
    (kind : DefectKind) :
    e.defectSet.contains kind = true ↔
      ∃ event ∈ (ofLine seq line).events, event.message = kind.message := by
  have expanded : kind.message ≠ "pseudo-op expanded" := by cases kind <;> decide
  have word : kind.message ≠ "encoded" := by cases kind <;> decide
  rw [Encoding.defectSet, DefectSet.contains_iff_event, events_encoded seq line e encoded]
  constructor
  · rintro ⟨event, member, named⟩
    exact ⟨event, by simp only [List.mem_append, member, or_true, true_or], named⟩
  · rintro ⟨event, member, named⟩
    simp only [List.mem_append, List.mem_singleton] at member
    rcases member with (first | flaw) | last
    · obtain ⟨text, -, rfl⟩ := List.mem_map.1 first
      exact absurd named.symm expanded
    · exact ⟨event, flaw, named⟩
    · subst last
      exact absurd named.symm word

end Log

/-- A line without a word leaves one entry. Any other leaves its expansion, if it has one, the flaws
of its operands, and its word. -/
theorem line_log_exact (seq : Nat) (line : String) :
    (∀ rejection, Encoding.ofLine (expand line) = .error rejection →
      (Row.ofLine seq line).expanded = none ∧
        (Row.ofLine seq line).error = some rejection.message ∧
        (ofLine seq line).events =
          [⟨.warn, "line rejected",
            [("seq", .number seq), ("source", .text (Row.ofLine seq line).source),
              ("error", .text rejection.message)]⟩]) ∧
    ∀ e, Encoding.ofLine (expand line) = .ok e →
      ∃ i bits, Invocation.ofLine? (expand line) = some i ∧
        (Row.ofLine seq line).binary = some bits ∧
        (ofLine seq line).events =
          (Row.ofLine seq line).expansionEvents (Shorthand.nameOf line) ++
            e.operation.flawEvents i.operands ++
            [⟨.trace, "encoded",
              [("mnemonic", .text e.operation.mnemonic),
                ("format", .text e.operation.format.name), ("word", .text bits)]⟩] ∧
        ∀ kind, e.defectSet.contains kind = true ↔
          ∃ event ∈ (ofLine seq line).events, event.message = kind.message := by
  refine ⟨?_, ?_⟩
  · intro rejection rejected
    obtain ⟨plain, log⟩ := events_rejected seq line rejection rejected
    refine ⟨?_, (Row.ofLine_rejected seq line rejection rejected).2.2, ?_⟩
    · rw [Row.ofLine_expanded, plain, Option.map_none]
    · rw [log, Row.source_ofLine]
      rfl
  · intro e encoded
    obtain ⟨i, read, invoked⟩ := Encoding.ofLine_ok (expand line) e encoded
    have flaws : e.defects.map Defect.event = e.operation.flawEvents i.operands := by
      rw [(Encoding.ofInvocation_ok i e invoked).2.2, Operation.defects_events]
    have log := events_encoded seq line e encoded
    rw [flaws] at log
    exact ⟨i, e.word.bits, read, (Row.ofLine_encoded seq line e encoded).1, log,
      contains_iff_logged seq line e encoded⟩

theorem two_lines_logged :
    (∃ e, Encoding.ofLine (expand "not r1, x") = .ok e ∧
      (ofLine 4 "not r1, x").events.map Event.message =
        ["pseudo-op expanded", "unknown register, using R0", "unknown register, using R0",
          "encoded"] ∧
      e.defectSet.contains .unknownRegister = true) ∧
    (ofLine 5 " foo").events.map Event.message = ["line rejected"] := by
  have encoded : Encoding.ofLine (expand "not r1, x") =
      .ok ⟨.arithmetic "NAND" 6, ⟨0x16⟩, [.unknownRegister "X", .unknownRegister "X"]⟩ := by
    decide +kernel
  have rejected : Encoding.ofLine (expand " foo") = .error (.unknownOpcode "FOO") := by
    decide +kernel
  obtain ⟨i, bits, read, -, log, kinds⟩ := (line_log_exact 4 "not r1, x").2 _ encoded
  obtain ⟨-, -, single⟩ := (line_log_exact 5 " foo").1 _ rejected
  have tokens : Invocation.ofLine? (expand "not r1, x") = some ⟨"NAND", ["R1", "X", "X"]⟩ := by
    decide +kernel
  obtain rfl := Option.some.inj (tokens.symm.trans read)
  have messages : (ofLine 4 "not r1, x").events.map Event.message =
      ["pseudo-op expanded", "unknown register, using R0", "unknown register, using R0",
        "encoded"] := by
    simp only [log, List.map_append, List.map_cons, List.map_nil]
    decide +kernel
  have logged : DefectKind.unknownRegister.message ∈
      (ofLine 4 "not r1, x").events.map Event.message := by
    rw [messages]
    decide
  exact ⟨⟨_, encoded, messages, (kinds .unknownRegister).2 (List.mem_map.1 logged)⟩, by
    rw [single]
    rfl⟩

end Report

end Asm16
