import Asm16.Run.Fault

set_option autoImplicit false

namespace Asm16.Text

-- The characters with the Unicode property `White_Space`.
def isBlank (c : Char) : Bool :=
  let n := c.toNat
  (0x9 ≤ n && n ≤ 0xD) || n == 0x20 || n == 0x85 || n == 0xA0 || n == 0x1680 ||
    (0x2000 ≤ n && n ≤ 0x200A) || n == 0x2028 || n == 0x2029 || n == 0x202F ||
    n == 0x205F || n == 0x3000

def trimLeft (cs : List Char) : List Char := cs.dropWhile isBlank

def trimRight (cs : List Char) : List Char := (trimLeft cs.reverse).reverse

def trim (s : String) : String := String.ofList (trimRight (trimLeft s.toList))

def allBlank (s : String) : Bool := s.toList.all isBlank

-- Only `a` to `z` change; a letter outside ASCII is its own upper case.
def upper (s : String) : String := String.ofList (s.toList.map Char.toUpper)

-- Blanks on the right up to a width, counted in characters. Longer text is not cut.
def column (width : Nat) (s : String) : String :=
  s ++ String.ofList (List.replicate (width - s.length) ' ')

def jsonEscape (c : Char) : List Char :=
  if c = '"' then ['\\', '"']
  else if c = '\\' then ['\\', '\\']
  else if c = '\x08' then ['\\', 'b']
  else if c = '\x0c' then ['\\', 'f']
  else if c = '\n' then ['\\', 'n']
  else if c = '\r' then ['\\', 'r']
  else if c = '\t' then ['\\', 't']
  else if c.toNat < 0x20 then
    ['\\', 'u', '0', '0', Nat.digitChar (c.toNat / 16), Nat.digitChar (c.toNat % 16)]
  else [c]

def jsonString (s : String) : String :=
  String.ofList ('"' :: s.toList.flatMap jsonEscape ++ ['"'])

def lineFeed : UInt8 := 10

def carriageReturn : UInt8 := 13

-- Puts a byte in front of the first line; a line feed is a line's last byte.
def consByte (b : UInt8) : List (List UInt8) → List (List UInt8)
  | [] => [[b]]
  | line :: rest => if b = lineFeed then [b] :: line :: rest else (b :: line) :: rest

def splitLines (bytes : List UInt8) : List (List UInt8) := bytes.foldr consByte []

def chomp (line : List UInt8) : List UInt8 :=
  match line.reverse with
  | [] => []
  | b :: front =>
      if b = lineFeed then
        match front with
        | [] => []
        | r :: body => if r = carriageReturn then body.reverse else front.reverse
      else line

def decodeLine (line : List UInt8) : Except Fault String :=
  match String.fromUTF8? line.toByteArray with
  | some text => .ok text
  | none => .error .invalidUtf8

def readLines (bytes : List UInt8) : List (Except Fault String) :=
  (splitLines bytes).map fun line => decodeLine (chomp line)

def utf8 (s : String) : List UInt8 := s.toUTF8.data.toList

end Asm16.Text
