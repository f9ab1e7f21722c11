import Asm16.Line.Invocation
import Asm16.Machine.Instruction

set_option autoImplicit false

namespace Asm16

namespace Immediate

def wide? (digits : List Char) : Option Int64 :=
  let n := Nat.ofDigitChars 10 digits 0
  if n < 0x8000000000000000 then some (Int64.ofNat n) else none

-- What follows the digits is not read.
def magnitude? (cs : List Char) : Option Int64 :=
  match cs.takeWhile Char.isDigit with
  | [] => none
  | digits => wide? digits

def signed? : List Char → Option Int64
  | '-' :: cs => (magnitude? cs).map (-·)
  | '+' :: cs => magnitude? cs
  | cs => magnitude? cs

def narrow? (v : Int64) : Option Int32 :=
  if Int32.minValue.toInt ≤ v.toInt ∧ v.toInt ≤ Int32.maxValue.toInt then some v.toInt32 else none

def ofToken? (token : String) : Option Int32 := (signed? token.toList).bind narrow?

def pattern (v : Int32) : UInt16 := v.toUInt32.toUInt16

end Immediate

inductive Defect where
  | unknownRegister (token : String)
  | malformedImmediate (token : String)
  | operandCount (arity : Nat) (mnemonic : String)
  deriving DecidableEq, Repr

inductive DefectKind where
  | unknownRegister
  | malformedImmediate
  | operandCount
  deriving DecidableEq, Repr

def Defect.kind : Defect → DefectKind
  | .unknownRegister _ => .unknownRegister
  | .malformedImmediate _ => .malformedImmediate
  | .operandCount _ _ => .operandCount

namespace DefectKind

def all : List DefectKind := [.unknownRegister, .malformedImmediate, .operandCount]

def name : DefectKind → String
  | .unknownRegister => "UNKNOWN_REGISTER"
  | .malformedImmediate => "MALFORMED_IMMEDIATE"
  | .operandCount => "OPERAND_COUNT"

def position : DefectKind → Nat
  | .unknownRegister => 0
  | .malformedImmediate => 1
  | .operandCount => 2

end DefectKind

structure DefectSet where
  contains : DefectKind → Bool

namespace DefectSet

def ofDefects (defects : List Defect) : DefectSet :=
  ⟨fun kind => defects.any fun d => d.kind == kind⟩

def toBits (s : DefectSet) : Nat :=
  DefectKind.all.foldr
    (fun kind bits => if s.contains kind then (1 <<< kind.position) + bits else bits) 0

-- Bits that stand for no kind are dropped.
def ofBits (n : Nat) : DefectSet := ⟨fun kind => n.testBit kind.position⟩

def ofBits? (n : Nat) : Option DefectSet :=
  if n < 1 <<< DefectKind.all.length then some (ofBits n) else none

def text (s : DefectSet) : String :=
  String.intercalate " | " ((DefectKind.all.filter s.contains).map DefectKind.name)

end DefectSet

def registerOf (token : String) : Register := (Register.ofName? token).getD .zero

def registerDefects (token : String) : List Defect :=
  match Register.ofName? token with
  | some _ => []
  | none => [.unknownRegister token]

def immediateOf (token : String) : UInt16 := Immediate.pattern ((Immediate.ofToken? token).getD 0)

def immediateDefects (token : String) : List Defect :=
  match Immediate.ofToken? token with
  | some _ => []
  | none => [.malformedImmediate token]

namespace Operation

-- Three registers are written target first, and the last may be left out. Of the other formats
-- only the front of the list is read.
def instruction (op : Operation) (operands : List String) : Instruction :=
  match op.format, operands with
  | .rrr funct, [d, s] => .rrr op.opcode funct (registerOf d) (registerOf s) .zero
  | .rrr funct, [d, s, t] => .rrr op.opcode funct (registerOf d) (registerOf s) (registerOf t)
  | .rrr funct, _ => .rrr op.opcode funct .zero .zero .zero
  | .rri, s :: t :: i :: _ => .rri op.opcode (registerOf s) (registerOf t) (immediateOf i)
  | .rri, _ => .rri op.opcode .zero .zero 0
  | .ri, s :: i :: _ => .ri op.opcode (registerOf s) (immediateOf i)
  | .ri, _ => .ri op.opcode .zero 0

def defects (op : Operation) (operands : List String) : List Defect :=
  match op.format, operands with
  | .rrr _, [d, s] => registerDefects d ++ registerDefects s
  | .rrr _, [d, s, t] => registerDefects d ++ registerDefects s ++ registerDefects t
  | .rri, s :: t :: i :: _ => registerDefects s ++ registerDefects t ++ immediateDefects i
  | .ri, s :: i :: _ => registerDefects s ++ immediateDefects i
  | _, _ => [.operandCount operands.length op.mnemonic]

end Operation

inductive Rejection where
  | blank
  | unknownOpcode (mnemonic : String)
  | layout (fault : PackFault)
  deriving DecidableEq, Repr

def Rejection.message : Rejection → String
  | .blank => "line has no mnemonic"
  | .unknownOpcode mnemonic => "unknown opcode `" ++ mnemonic ++ "`"
  | .layout _ => "instruction fields do not fill a word"

structure Encoding where
  operation : Operation
  word : Word
  defects : List Defect
  deriving DecidableEq, Repr

namespace Encoding

def ofInvocation (i : Invocation) : Except Rejection Encoding :=
  match Operation.ofMnemonic? i.mnemonic with
  | none => .error (.unknownOpcode i.mnemonic)
  | some op =>
      match (op.instruction i.operands).word with
      | .error fault => .error (.layout fault)
      | .ok word => .ok ⟨op, word, op.defects i.operands⟩

def ofLine (line : String) : Except Rejection Encoding :=
  match Invocation.ofLine? line with
  | none => .error .blank
  | some i => ofInvocation i

def defectSet (e : Encoding) : DefectSet := .ofDefects e.defects

end Encoding

end Asm16
