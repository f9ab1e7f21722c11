import Asm16.Job.Basic

set_option autoImplicit false

namespace Asm16

inductive Value where
  | null
  | bool (b : Bool)
  | number
  | text (s : String)
  | array (items : List Value)
  | object (members : List (String × Value))
  deriving Inhabited

namespace Value

def member? (members : List (String × Value)) (key : String) : Option Value :=
  (members.find? fun m => m.1 == key).map (·.2)

def text? : Value → Option String
  | .text s => some s
  | _ => none

def bool? : Value → Option Bool
  | .bool b => some b
  | _ => none

-- A choice is named by text, or by the one key of an object that holds nothing else.
def style? : Value → Option Style
  | .text s => Style.ofName? s
  | .object [(key, .null)] => Style.ofName? key
  | _ => none

end Value

namespace Job

def ofParts? (input output style quiet : Value) : Option Job := do
  let input ← input.text?
  let output ← output.text?
  let style ← style.style?
  let quiet ← quiet.bool?
  return { input, output, style, quiet }

-- An object with all four members, others being ignored, or the four values in order.
def ofValue? : Value → Option Job
  | .object members => do
      ofParts? (← Value.member? members "input") (← Value.member? members "output")
        (← Value.member? members "format") (← Value.member? members "quiet")
  | .array [input, output, style, quiet] => ofParts? input output style quiet
  | _ => none

end Job

end Asm16
