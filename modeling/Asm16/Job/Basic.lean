import Asm16.Files.Store
import Asm16.Run.Basic

set_option autoImplicit false

namespace Asm16

inductive Style where
  | text
  | json
  deriving DecidableEq, Repr

def Style.name : Style → String
  | .text => "text"
  | .json => "json"

def Style.ofName? (name : String) : Option Style :=
  [Style.text, Style.json].find? fun style => style.name == name

structure Job where
  input : String := "input.asm"
  output : String := "program.hex"
  style : Style := .text
  quiet : Bool := false
  deriving DecidableEq, Repr

inductive Milestone where
  | assembling (input output : String)
  | done (summary : Summary)
  deriving DecidableEq, Repr

def Milestone.event : Milestone → Event
  | .assembling input output =>
      ⟨.info, "assembling", [("input", .text input), ("output", .text output)]⟩
  | .done summary =>
      ⟨.info, "done",
        [("lines", .number summary.lines), ("encoded", .number summary.encoded),
          ("rejected", .number summary.rejected)]⟩

structure JobRun where
  result : Except Failure Summary
  rows : List Row := []
  milestones : List Milestone := []
  store : Store

namespace Job

def closing : Except Failure Summary → List Milestone
  | .ok summary => [.done summary]
  | .error _ => []

-- The output is created once the source is open and before it is read, so a file that is both is
-- read as empty. Words accepted before a failure still reach the output.
def run (job : Job) (store : Store) : JobRun :=
  match store.openSource job.input with
  | .error fault => { result := .error (.noSource job.input fault), store }
  | .ok source =>
      match store.create job.output with
      | .error fault => { result := .error (.noOutput job.output fault), store }
      | .ok (target, created) =>
          let spool : Spool := { device := created.deviceAt target }
          let run := Run.start spool (created.readLines source)
          { result := run.result
            rows := run.rows
            milestones := .assembling job.input job.output :: closing run.result
            store := created.save target run.sink.release.content }

end Job

end Asm16
