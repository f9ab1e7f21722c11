import Asm16.Job.Basic

set_option autoImplicit false

namespace Asm16.Command

inductive UsageError where
  | unknownOption (text : String)
  | repeatedOption (name : String)
  | missingValue (name : String)
  | emptyValue (name : String)
  | unexpectedValue (name : String)
  | unknownStyle (text : String)
  | extraArgument (text : String)
  deriving DecidableEq, Repr

inductive Stop where
  | help
  | version
  | usage (error : UsageError)
  deriving DecidableEq, Repr

structure Choices where
  input : Option String := none
  output : Option String := none
  style : Option Style := none
  quiet : Bool := false
  deriving DecidableEq, Repr

inductive Setting where
  | output
  | style
  deriving DecidableEq, Repr

def Setting.name : Setting → String
  | .output => "--output"
  | .style => "--format"

namespace Choices

def job (c : Choices) : Job where
  input := c.input.getD ({} : Job).input
  output := c.output.getD ({} : Job).output
  style := c.style.getD ({} : Job).style
  quiet := c.quiet

def setInput (c : Choices) (text : String) : Except Stop Choices :=
  if c.input.isSome then .error (.usage (.extraArgument text))
  else if text.isEmpty then .error (.usage (.emptyValue "INPUT"))
  else .ok { c with input := some text }

def setQuiet (c : Choices) : Except Stop Choices :=
  if c.quiet then .error (.usage (.repeatedOption "--quiet")) else .ok { c with quiet := true }

def set (c : Choices) (setting : Setting) (value : String) : Except Stop Choices :=
  match setting with
  | .output =>
      if c.output.isSome then .error (.usage (.repeatedOption setting.name))
      else if value.isEmpty then .error (.usage (.emptyValue setting.name))
      else .ok { c with output := some value }
  | .style =>
      if c.style.isSome then .error (.usage (.repeatedOption setting.name))
      else
        match Style.ofName? value with
        | none => .error (.usage (.unknownStyle value))
        | some style => .ok { c with style := some style }

end Choices

structure Progress where
  choices : Choices
  awaiting : Option Setting := none
  deriving DecidableEq, Repr

-- Letters after one hyphen. What follows the letter of a setting is its value.
def readLetters (c : Choices) : List Char → Except Stop Progress
  | [] => .ok { choices := c }
  | 'q' :: rest => c.setQuiet.bind fun next => readLetters next rest
  | 'h' :: _ => .error .help
  | 'V' :: _ => .error .version
  | ['o'] => .ok { choices := c, awaiting := some .output }
  | 'o' :: '=' :: value => (c.set .output (String.ofList value)).map ({ choices := · })
  | 'o' :: value => (c.set .output (String.ofList value)).map ({ choices := · })
  | letter :: _ => .error (.usage (.unknownOption (String.ofList ['-', letter])))

def readFlag (name : String) (value : Option String) (result : Except Stop Choices) :
    Except Stop Progress :=
  match value with
  | some _ => .error (.usage (.unexpectedValue name))
  | none => result.map ({ choices := · })

def readSetting (c : Choices) (setting : Setting) : Option String → Except Stop Progress
  | some value => (c.set setting value).map ({ choices := · })
  | none => .ok { choices := c, awaiting := some setting }

-- A word after two hyphens, with the value behind its first equals sign.
def readWord (c : Choices) (word : List Char) : Except Stop Progress :=
  let name := String.ofList (word.takeWhile (· != '='))
  let value := (word.dropWhile (· != '=')).tail?.map String.ofList
  match name with
  | "output" => readSetting c .output value
  | "format" => readSetting c .style value
  | "quiet" => readFlag name value c.setQuiet
  | "help" => readFlag name value (.error .help)
  | "version" => readFlag name value (.error .version)
  | _ => .error (.usage (.unknownOption ("--" ++ name)))

def readArgument (c : Choices) (argument : String) : Except Stop Progress :=
  match argument.toList with
  | '-' :: '-' :: word => readWord c word
  | '-' :: letter :: rest => readLetters c (letter :: rest)
  | _ => (c.setInput argument).map ({ choices := · })

def readOperands (c : Choices) : List String → Except Stop Choices
  | [] => .ok c
  | argument :: rest => (c.setInput argument).bind fun next => readOperands next rest

-- An argument that starts with a hyphen is no value, one hyphen alone is.
def isValue (argument : String) : Bool :=
  match argument.toList with
  | '-' :: _ :: _ => false
  | _ => true

def readArguments (progress : Progress) : List String → Except Stop Choices
  | [] =>
      match progress.awaiting with
      | some setting => .error (.usage (.missingValue setting.name))
      | none => .ok progress.choices
  | argument :: rest =>
      match progress.awaiting with
      | some setting =>
          if isValue argument then
            (progress.choices.set setting argument).bind fun next =>
              readArguments { choices := next } rest
          else .error (.usage (.missingValue setting.name))
      | none =>
          if argument = "--" then readOperands progress.choices rest
          else (readArgument progress.choices argument).bind fun next => readArguments next rest

def parse (arguments : List String) : Except Stop Job :=
  (readArguments { choices := {} } arguments).map Choices.job

end Asm16.Command
