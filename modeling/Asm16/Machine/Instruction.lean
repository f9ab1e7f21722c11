import Asm16.Text.Basic
import Asm16.Word.Basic

set_option autoImplicit false

namespace Asm16

structure Register where
  code : Fin 8
  deriving DecidableEq, Repr

namespace Register

def width : Nat := 3

def zero : Register := ⟨⟨0, by decide⟩⟩

def all : List Register := (List.finRange 8).map Register.mk

def name (r : Register) : String := String.ofList ['R', Nat.digitChar r.code.val]

def ofName? (text : String) : Option Register :=
  all.find? fun r => r.name == Text.upper text

def field (r : Register) : UInt16 := UInt16.ofNat r.code.val

end Register

inductive Format where
  | rrr (funct : Fin 16)
  | rri
  | ri
  deriving DecidableEq, Repr

def Format.name : Format → String
  | .rrr _ => "RRR"
  | .rri => "RRI"
  | .ri => "RI"

structure Operation where
  mnemonic : String
  opcode : Fin 8
  format : Format
  deriving DecidableEq, Repr

namespace Operation

def opcodeWidth : Nat := 3

def functWidth : Nat := 4

-- Bits of the immediate beside two registers.
def shortWidth : Nat := 7

-- Bits of the immediate beside one register.
def longWidth : Nat := 10

def arithmetic (mnemonic : String) (funct : Fin 16) : Operation := ⟨mnemonic, 0, .rrr funct⟩

def all : List Operation :=
  [ arithmetic "ADD" 0, arithmetic "INC" 1, arithmetic "SUB" 2, arithmetic "DEC" 3,
    arithmetic "AND" 4, arithmetic "OR" 5, arithmetic "NAND" 6, arithmetic "XOR" 7,
    arithmetic "SHFL" 8, arithmetic "SHFR" 9, arithmetic "SLL" 10, arithmetic "SRR" 11,
    arithmetic "SRA" 12, arithmetic "MUL" 13, arithmetic "SLT" 14, arithmetic "SGT" 15,
    ⟨"ADDI", 1, .rri⟩, ⟨"SUBI", 2, .rri⟩, ⟨"BEQ", 3, .rri⟩,
    ⟨"LW", 4, .ri⟩, ⟨"SW", 5, .ri⟩, ⟨"JNZ", 6, .ri⟩, ⟨"LI", 7, .ri⟩ ]

def ofMnemonic? (mnemonic : String) : Option Operation :=
  all.find? fun op => op.mnemonic == mnemonic

end Operation

inductive Instruction where
  | rrr (opcode : Fin 8) (funct : Fin 16) (rd rs rt : Register)
  | rri (opcode : Fin 8) (rs rt : Register) (imm : UInt16)
  | ri (opcode : Fin 8) (rs : Register) (imm : UInt16)
  deriving DecidableEq, Repr

namespace Instruction

def opcodeField (opcode : Fin 8) : Field := ⟨UInt16.ofNat opcode.val, Operation.opcodeWidth⟩

def registerField (r : Register) : Field := ⟨r.field, Register.width⟩

-- From the top bit of the word to its bottom bit.
def fields : Instruction → List Field
  | .rrr opcode funct rd rs rt =>
      [opcodeField opcode, registerField rs, registerField rt, registerField rd,
        ⟨UInt16.ofNat funct.val, Operation.functWidth⟩]
  | .rri opcode rs rt imm =>
      [opcodeField opcode, registerField rs, registerField rt, ⟨imm, Operation.shortWidth⟩]
  | .ri opcode rs imm =>
      [opcodeField opcode, registerField rs, ⟨imm, Operation.longWidth⟩]

def word (i : Instruction) : Except PackFault Word := Word.ofFields i.fields

end Instruction

end Asm16
