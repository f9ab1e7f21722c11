import Asm16.Line.Encoding

set_option autoImplicit false

namespace Asm16

structure Row where
  seq : Nat
  source : String
  expanded : Option String := none
  binary : Option String := none
  hex : Option String := none
  error : Option String := none
  deriving DecidableEq, Repr

namespace Row

def accepted (r : Row) : Bool := r.hex.isSome

def syntaxError : String := "SYNTAX ERROR"

def header : String :=
  Text.column 4 "SEQ" ++ "| " ++ Text.column 21 "Source" ++ "| " ++ Text.column 17 "Binary" ++
    "| Hex\n----|----------------------|------------------|-----"

def text (r : Row) : String :=
  Text.column 4 (toString r.seq) ++ "| " ++ Text.column 21 r.source ++ "| " ++
    match r.binary, r.hex with
    | some binary, some hex => binary ++ " | " ++ hex
    | _, _ => syntaxError

def jsonOrNull : Option String → String
  | some s => Text.jsonString s
  | none => "null"

def jsonMember (key value : String) : String := "\"" ++ key ++ "\":" ++ value

def jsonOptional (key : String) : Option String → List String
  | some s => [jsonMember key (Text.jsonString s)]
  | none => []

def json (r : Row) : String :=
  let members :=
    [jsonMember "seq" (toString r.seq), jsonMember "source" (Text.jsonString r.source)] ++
      jsonOptional "expanded" r.expanded ++
      [jsonMember "binary" (jsonOrNull r.binary), jsonMember "hex" (jsonOrNull r.hex)] ++
      jsonOptional "error" r.error
  "\x7b" ++ String.intercalate "," members ++ "\x7d"

end Row

inductive Level where
  | trace
  | debug
  | info
  | warn
  deriving DecidableEq, Repr

def Level.name : Level → String
  | .trace => "TRACE"
  | .debug => "DEBUG"
  | .info => "INFO"
  | .warn => "WARN"

inductive FieldValue where
  | number (n : Nat)
  | text (s : String)
  deriving DecidableEq, Repr

structure Event where
  level : Level
  message : String
  fields : List (String × FieldValue)
  deriving DecidableEq, Repr

inductive Note where
  | expanded (source : String) (shorthand : Shorthand)
  | defect (flaw : Defect)
  | encoded (operation : Operation) (word : Word)
  | rejected (seq : Nat) (source : String) (rejection : Rejection)
  | unreadable (seq : Nat) (bits : String) (fault : BitsFault)
  deriving DecidableEq, Repr

def Defect.event : Defect → Event
  | .unknownRegister token =>
      ⟨.debug, "unknown register, using R0", [("token", .text token)]⟩
  | .malformedImmediate token =>
      ⟨.debug, "malformed immediate, using 0", [("token", .text token)]⟩
  | .operandCount arity mnemonic =>
      ⟨.debug, "operand count mismatch, fields left at 0",
        [("arity", .number arity), ("mnemonic", .text mnemonic)]⟩

def Note.event : Note → Event
  | .expanded source shorthand =>
      ⟨.debug, "pseudo-op expanded",
        [("source", .text source), ("expanded", .text shorthand.expansion),
          ("op", .text shorthand.name)]⟩
  | .defect flaw => flaw.event
  | .encoded operation word =>
      ⟨.trace, "encoded",
        [("mnemonic", .text operation.mnemonic), ("format", .text operation.format.name),
          ("word", .text word.bits)]⟩
  | .rejected seq source rejection =>
      ⟨.warn, "line rejected",
        [("seq", .number seq), ("source", .text source), ("error", .text rejection.message)]⟩
  | .unreadable seq bits fault =>
      ⟨.warn, "hex formatting failed",
        [("seq", .number seq), ("bits", .text bits), ("error", .text fault.message)]⟩

def Encoding.notes (e : Encoding) : List Note :=
  e.defects.map .defect ++ [.encoded e.operation e.word]

structure Report where
  row : Row
  notes : List Note
  deriving DecidableEq, Repr

namespace Report

-- The hexadecimal column is read off the binary one, so the two always agree.
def ofEncoding (row : Row) (e : Encoding) : Report :=
  let bits := e.word.bits
  match Word.hexOfBits bits with
  | .ok hex => ⟨{ row with binary := some bits, hex := some hex }, e.notes⟩
  | .error fault =>
      ⟨{ row with binary := some bits, error := some fault.message },
        e.notes ++ [.unreadable row.seq bits fault]⟩

def ofResult (row : Row) : Except Rejection Encoding → Report
  | .ok e => ofEncoding row e
  | .error rejection =>
      ⟨{ row with error := some rejection.message }, [.rejected row.seq row.source rejection]⟩

def ofLine (seq : Nat) (line : String) : Report :=
  let source := Text.trim line
  match Shorthand.ofLine? line with
  | none => ofResult { seq, source } (Encoding.ofLine line)
  | some shorthand =>
      let text := shorthand.expansion
      let rest := ofResult { seq, source, expanded := some text } (Encoding.ofLine text)
      { rest with notes := .expanded source shorthand :: rest.notes }

end Report

def Row.ofLine (seq : Nat) (line : String) : Row := (Report.ofLine seq line).row

end Asm16
