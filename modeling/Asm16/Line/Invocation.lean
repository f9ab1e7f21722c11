import Asm16.Text.Basic

set_option autoImplicit false

namespace Asm16

def isSeparator (c : Char) : Bool := c == ',' || Text.isBlank c

def tokens (line : String) : List String :=
  (((Text.upper line).toList.splitOnP isSeparator).filter (!·.isEmpty)).map String.ofList

structure Invocation where
  mnemonic : String
  operands : List String
  deriving DecidableEq, Repr

namespace Invocation

def ofTokens? : List String → Option Invocation
  | [] => none
  | mnemonic :: operands => some ⟨mnemonic, operands⟩

def ofLine? (line : String) : Option Invocation := ofTokens? (tokens line)

def arity (i : Invocation) : Nat := i.operands.length

end Invocation

inductive Shorthand where
  | not (target source : String)
  | mov (target source : String)
  | nop
  | jmp (offset : String)
  deriving DecidableEq, Repr

namespace Shorthand

def name : Shorthand → String
  | .not _ _ => "Not"
  | .mov _ _ => "Mov"
  | .nop => "Nop"
  | .jmp _ => "Jmp"

def ofInvocation? (i : Invocation) : Option Shorthand :=
  match i.mnemonic, i.operands with
  | "NOT", [target, source] => some (.not target source)
  | "MOV", [target, source] => some (.mov target source)
  | "NOP", [] => some .nop
  | "JMP", [offset] => some (.jmp offset)
  | _, _ => none

def ofLine? (line : String) : Option Shorthand := (Invocation.ofLine? line).bind ofInvocation?

def expansion : Shorthand → String
  | .not target source => "NAND " ++ target ++ ", " ++ source ++ ", " ++ source
  | .mov target source => "AND " ++ target ++ ", " ++ source ++ ", " ++ source
  | .nop => "ADDI R1, R1, 0"
  | .jmp offset => "BEQ R0, R0, " ++ offset

end Shorthand

-- A line that is no shorthand stays as it is, to the last blank.
def expand (line : String) : String :=
  match Shorthand.ofLine? line with
  | some shorthand => shorthand.expansion
  | none => line

end Asm16
