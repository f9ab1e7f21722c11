import Asm16.Command.Session

set_option autoImplicit false

namespace Asm16.Command

def systemError : IO.Error → SystemError
  | .alreadyExists _ code text | .interrupted _ code text | .noFileOrDirectory _ code text
  | .invalidArgument _ code text | .permissionDenied _ code text | .resourceExhausted _ code text
  | .inappropriateType _ code text | .noSuchThing _ code text => ⟨code.toNat, text⟩
  | .otherError code text | .resourceBusy code text | .resourceVanished code text
  | .unsupportedOperation code text | .hardwareFault code text | .unsatisfiedConstraints code text
  | .illegalOperation code text | .protocolError code text | .timeExpired code text =>
      ⟨code.toNat, text⟩
  | .unexpectedEof => ⟨0, "unexpected end of file"⟩
  | .userError text => ⟨0, text⟩

def attempt {α : Type} (action : IO α) : IO (Except SystemError α) := do
  try
    return .ok (← action)
  catch error =>
    return .error (systemError error)

-- What a job finds at its two paths, as a store, and the output if it could be opened. As in the job,
-- the source is read after the output was made.
def survey (job : Job) : IO (Store × Option IO.FS.Handle) := do
  let home := (← IO.currentDir).toString
  let store := { Store.initial.addDirectory home with home := Path.names home.toList }
  match ← attempt (IO.FS.Handle.mk job.input .read) with
  | .error error => return ((store.addFile job.input []).refuse job.input .read error, none)
  | .ok source =>
    let ready := (store.reach job.output).1
    match ← attempt (IO.FS.Handle.mk job.output .write) with
    | .error error => return ((ready.addFile job.input []).refuse job.output .write error, none)
    | .ok target =>
      match ← attempt source.readBinToEnd with
      | .ok bytes => return (ready.addFile job.input bytes.data.toList, some target)
      | .error error =>
        if error.code = SystemError.isDirectory.code then
          return (ready.addDirectory job.input, some target)
        throw (.userError error.message)

-- The output gets what the job leaves in the store.
def deliver (job : Job) (run : JobRun) (target : IO.FS.Handle) : IO JobRun := do
  let some (.file content) := Store.entry? run.store (run.store.placeOf job.output) | return run
  match run.result, ← attempt (target.write content.toByteArray *> target.flush) with
  | .ok _, .error error => return { run with result := .error (.write (.system error)) }
  | _, _ => return run

def present (s : Session) : IO UInt32 := do
  IO.print (printed s.stdout)
  IO.eprint (printed s.stderr)
  return UInt32.ofNat s.exit

def assembleFile (job : Job) : IO UInt32 := do
  let (store, target) ← survey job
  let run := job.run store
  match target with
  | none => present (Session.ofRun job run)
  | some target => present (Session.ofRun job (← deliver job run target))

end Asm16.Command

open Asm16.Command in
def main (arguments : List String) : IO UInt32 := do
  match parse arguments with
  | .ok job => assembleFile job
  | .error _ =>
    match session arguments .initial with
    | .ok s => present s
    | .error error =>
      IO.eprint (printed ["error: " ++ error.message])
      return UInt32.ofNat usageExitCode
