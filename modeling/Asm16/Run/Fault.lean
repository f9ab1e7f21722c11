set_option autoImplicit false

namespace Asm16

structure SystemError where
  code : Nat
  text : String
  deriving DecidableEq, Repr

namespace SystemError

def notFound : SystemError := ⟨2, "No such file or directory"⟩
def notDirectory : SystemError := ⟨20, "Not a directory"⟩
def isDirectory : SystemError := ⟨21, "Is a directory"⟩
def noSpace : SystemError := ⟨28, "No space left on device"⟩
def nameTooLong : SystemError := ⟨36, "File name too long"⟩

def message (e : SystemError) : String := s!"{e.text} (os error {e.code})"

end SystemError

inductive Fault where
  | system (error : SystemError)
  | nulInPath
  | invalidUtf8
  | unending
  | deviceFull
  | sinkFull
  | sinkClosed
  deriving DecidableEq, Repr

def Fault.message : Fault → String
  | .system error => error.message
  | .nulInPath => "file name contained an unexpected NUL byte"
  | .invalidUtf8 => "stream did not contain valid UTF-8"
  | .unending => "source does not end"
  | .deviceFull => "device full"
  | .sinkFull => "sink full"
  | .sinkClosed => "sink closed"

inductive Failure where
  | noSource (path : String) (cause : Fault)
  | noOutput (path : String) (cause : Fault)
  | read (cause : Fault)
  | write (cause : Fault)
  deriving DecidableEq, Repr

namespace Failure

def cause : Failure → Fault
  | .noSource _ cause | .noOutput _ cause | .read cause | .write cause => cause

def message : Failure → String
  | .noSource path cause => "cannot open source " ++ path ++ ": " ++ cause.message
  | .noOutput path cause => "cannot create output " ++ path ++ ": " ++ cause.message
  | .read cause => "read failed: " ++ cause.message
  | .write cause => "write failed: " ++ cause.message

def exitCode : Failure → Nat
  | .noSource _ _ => 2
  | .noOutput _ _ => 3
  | .read _ | .write _ => 1

end Failure

-- Lines that are not blank, those that became a word, and those that did not.
structure Summary where
  lines : Nat := 0
  encoded : Nat := 0
  rejected : Nat := 0
  deriving DecidableEq, Repr

end Asm16
