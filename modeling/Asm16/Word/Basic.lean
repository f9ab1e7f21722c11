import Asm16.Text.CharLiteral

set_option autoImplicit false

namespace Asm16

structure Word where
  raw : UInt16
  deriving DecidableEq, Repr

namespace Word

def size : Nat := 16

-- The bit of weight `2 ^ i`.
def bit (w : Word) (i : Nat) : Bool := w.raw.toNat.testBit i

def bitChar (b : Bool) : Char := if b then '1' else '0'

def bits (w : Word) : String :=
  String.ofList ((List.range size).reverse.map fun i => bitChar (w.bit i))

def hexChar (n : Nat) : Char := (Nat.digitChar n).toUpper

def nibble (w : Word) (i : Nat) : Nat := w.raw.toNat >>> (4 * i) % 16

def hex (w : Word) : String :=
  String.ofList ((List.range 4).reverse.map fun i => hexChar (w.nibble i))

end Word

inductive BitsFault where
  | length (found : Nat)
  | digit (found : Char)
  deriving DecidableEq, Repr

def BitsFault.message : BitsFault → String
  | .length found => s!"expected {Word.size} bits, got {found}"
  | .digit found => "invalid binary digit " ++ Text.charLiteral found

namespace Word

def isBitChar (c : Char) : Bool := c == '0' || c == '1'

def bitsValue (cs : List Char) : Nat :=
  cs.foldl (fun value c => 2 * value + if c = '1' then 1 else 0) 0

-- The length is checked before the digits, and the first bad digit is the one named.
def ofBits (bits : String) : Except BitsFault Word :=
  if bits.length ≠ size then .error (.length bits.length)
  else
    match bits.toList.find? (!isBitChar ·) with
    | some c => .error (.digit c)
    | none => .ok ⟨UInt16.ofNat (bitsValue bits.toList)⟩

def hexOfBits (bits : String) : Except BitsFault String :=
  (ofBits bits).map hex

def marker : String := "ERROR"

def hexOrMarker (bits : String) : String :=
  match hexOfBits bits with
  | .ok text => text
  | .error _ => marker

end Word

inductive PackFault where
  | outOfWord
  | endOverflow
  -- A field as wide as the word leaves no room for the shift that makes its mask.
  | maskOverflow
  | unfilled (used : Nat)
  deriving DecidableEq, Repr

-- The low `width` bits of the value.
structure Field where
  value : UInt16
  width : Nat
  deriving DecidableEq, Repr

structure Packing where
  word : UInt16 := 0
  used : Nat := 0
  deriving DecidableEq, Repr

namespace Packing

def endLimit : Nat := UInt32.size

def mask (width : Nat) : UInt16 := (1 <<< UInt16.ofNat width) - 1

def push (p : Packing) (f : Field) : Except PackFault Packing :=
  if f.width = 0 then .error .outOfWord
  else if endLimit ≤ p.used + f.width then .error .endOverflow
  else if Word.size < p.used + f.width then .error .outOfWord
  else if Word.size ≤ f.width then .error .maskOverflow
  else .ok
    { word := (p.word <<< UInt16.ofNat f.width) ||| (f.value &&& mask f.width)
      used := p.used + f.width }

def finish (p : Packing) : Except PackFault Word :=
  if p.used = Word.size then .ok ⟨p.word⟩ else .error (.unfilled p.used)

def pushAll : Packing → List Field → Except PackFault Packing
  | p, [] => .ok p
  | p, f :: fields => (p.push f).bind fun next => next.pushAll fields

end Packing

def Word.ofFields (fields : List Field) : Except PackFault Word :=
  (({} : Packing).pushAll fields).bind Packing.finish

end Asm16
