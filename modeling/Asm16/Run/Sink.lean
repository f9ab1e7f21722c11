import Asm16.Text.Basic

set_option autoImplicit false

namespace Asm16

-- A place that takes words one at a time and is closed after the last. Either step may fail, and
-- the place is then as the step left it.
class WordSink (σ : Type) where
  put : σ → String → σ × Option Fault
  close : σ → σ × Option Fault

-- A jammed tray cannot be closed, and `closed` tells whether that was tried.
structure Tray where
  words : Array String := #[]
  capacity : Option Nat := none
  jammed : Bool := false
  closed : Bool := false
  deriving DecidableEq, Repr

namespace Tray

def isFull (t : Tray) : Bool :=
  match t.capacity with
  | none => false
  | some n => n ≤ t.words.size

def put (t : Tray) (word : String) : Tray × Option Fault :=
  if t.isFull then (t, some .sinkFull) else ({ t with words := t.words.push word }, none)

def close (t : Tray) : Tray × Option Fault :=
  ({ t with closed := true }, if t.jammed then some .sinkClosed else none)

instance : WordSink Tray := ⟨put, close⟩

end Tray

structure Device where
  content : List UInt8 := []
  -- How many bytes more the device takes; no number is no limit.
  room : Option Nat := none
  refusal : Fault := .deviceFull
  deriving DecidableEq, Repr

def Device.write (d : Device) (bytes : List UInt8) : Device × List UInt8 :=
  match d.room with
  | none => ({ d with content := d.content ++ bytes }, [])
  | some n =>
      ({ d with content := d.content ++ bytes.take n, room := some (n - bytes.length) },
        bytes.drop n)

structure Spool where
  device : Device := {}
  pending : List UInt8 := []
  -- Words accepted, whether the device has them yet or not.
  words : Nat := 0
  deriving DecidableEq, Repr

namespace Spool

def capacity : Nat := 8192

def faultOf (d : Device) (refused : List UInt8) : Option Fault :=
  if refused.isEmpty then none else some d.refusal

-- Refused bytes stay pending.
def flush (s : Spool) : Spool × Option Fault :=
  let (device, refused) := s.device.write s.pending
  ({ s with device, pending := refused }, faultOf s.device refused)

-- Text as long as the whole capacity goes to the device at once.
def append (s : Spool) (bytes : List UInt8) : Spool × Option Fault :=
  if capacity ≤ bytes.length then
    let (device, refused) := s.device.write bytes
    ({ s with device }, faultOf s.device refused)
  else ({ s with pending := s.pending ++ bytes }, none)

-- Pending bytes make way for bytes that do not fit beside them.
def push (s : Spool) (bytes : List UInt8) : Spool × Option Fault :=
  if s.pending.length + bytes.length ≤ capacity then s.append bytes
  else
    match s.flush with
    | (flushed, some fault) => (flushed, some fault)
    | (flushed, none) => flushed.append bytes

def put (s : Spool) (word : String) : Spool × Option Fault :=
  match s.push (Text.utf8 word) with
  | (started, some fault) => (started, some fault)
  | (started, none) =>
      match started.push [Text.lineFeed] with
      | (ended, some fault) => (ended, some fault)
      | (ended, none) => ({ ended with words := ended.words + 1 }, none)

instance : WordSink Spool := ⟨put, flush⟩

inductive Step where
  | word (text : String)
  | finish
  deriving DecidableEq, Repr

def step (s : Spool) : Step → Spool × Option Fault
  | .word text => s.put text
  | .finish => s.flush

def steps (s : Spool) : List Step → Spool
  | [] => s
  | next :: rest => (s.step next).1.steps rest

def release (s : Spool) : Device := s.flush.1.device

-- The device handed back. A spool that cannot write what is pending goes away all the same.
def reclaim (s : Spool) : Device × Option Fault :=
  match s.flush with
  | (flushed, none) => (flushed.device, none)
  | (flushed, some fault) => (flushed.release, some fault)

end Spool

end Asm16
