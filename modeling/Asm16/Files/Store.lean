import Asm16.Run.Sink

set_option autoImplicit false

/-! A tree of files as a value. Paths are text, so those that are not UTF-8 are left out. -/

namespace Asm16

structure Path where
  absolute : Bool
  parts : List String
  slashed : Bool
  deriving DecidableEq, Repr

namespace Path

-- Bytes of a path, with one more for its end.
def lengthLimit : Nat := 4096

def nameLimit : Nat := 255

def byteLength (s : String) : Nat := (Text.utf8 s).length

def names (text : List Char) : List String :=
  ((text.splitOnP (· == '/')).filter (!·.isEmpty)).map String.ofList

def isAbsolute (text : String) : Bool := text.toList.head? == some '/'

def ofText (text : String) : Except Fault Path :=
  if text.toList.contains '\x00' then .error .nulInPath
  else if text.isEmpty then .error (.system .notFound)
  else if lengthLimit ≤ byteLength text then .error (.system .nameTooLong)
  else .ok
    { absolute := isAbsolute text
      parts := names text.toList
      slashed := text.toList.getLast? == some '/' }

def checkName (name : String) : Except Fault Unit :=
  if nameLimit < byteLength name then .error (.system .nameTooLong) else .ok ()

end Path

abbrev Location := List String

inductive Entry where
  | directory
  | file (content : List UInt8)
  | nullDevice
  | fullDevice
  deriving DecidableEq, Repr

inductive Access where
  | read
  | write
  deriving DecidableEq, Repr

structure Store where
  -- The working directory.
  home : Location
  entries : List (Location × Entry)
  -- Places that are not opened for some access though they could be, and the error that says so.
  refusals : List ((Location × Access) × SystemError) := []
  deriving DecidableEq, Repr

namespace Store

def entry? (s : Store) (place : Location) : Option Entry :=
  (s.entries.find? fun e => e.1 == place).map (·.2)

def set (s : Store) (place : Location) (entry : Entry) : Store :=
  { s with entries := (place, entry) :: s.entries.filter fun e => e.1 != place }

def permit (s : Store) (place : Location) (access : Access) : Except Fault Unit :=
  match s.refusals.find? fun r => r.1 == (place, access) with
  | some refusal => .error (.system refusal.2)
  | none => .ok ()

-- An empty working directory, and the two devices. The working directory and the one above it have
-- the empty name, which is no part of any path, so they are not reached by name from outside.
def initial : Store where
  home := ["", ""]
  entries :=
    [ ([], .directory), ([""], .directory), (["", ""], .directory), (["dev"], .directory),
      (["dev", "null"], .nullDevice), (["dev", "full"], .fullDevice) ]

def enter (s : Store) (here : Location) (name : String) : Except Fault Location :=
  if name = "." then .ok here
  else if name = ".." then .ok here.dropLast
  else
    (Path.checkName name).bind fun _ =>
      let place := here ++ [name]
      match s.entry? place with
      | none => .error (.system .notFound)
      | some .directory => .ok place
      | some _ => .error (.system .notDirectory)

def walk (s : Store) : Location → List String → Except Fault Location
  | here, [] => .ok here
  | here, name :: rest => (s.enter here name).bind fun next => s.walk next rest

def origin (s : Store) (absolute : Bool) : Location := if absolute then [] else s.home

def parent (s : Store) (p : Path) : Except Fault Location :=
  s.walk (s.origin p.absolute) p.parts.dropLast

def isDots (name : String) : Bool := name == "." || name == ".."

-- The place of a file that exists. A directory can be opened too.
def locate (s : Store) (p : Path) : Except Fault Location :=
  (s.parent p).bind fun here =>
    match p.parts.getLast? with
    | none => .ok here
    | some name =>
        if isDots name || p.slashed then s.enter here name
        else
          (Path.checkName name).bind fun _ =>
            match s.entry? (here ++ [name]) with
            | none => .error (.system .notFound)
            | some _ => .ok (here ++ [name])

def openSource (s : Store) (text : String) : Except Fault Location :=
  (Path.ofText text).bind fun p =>
    (s.locate p).bind fun place => (s.permit place .read).map fun _ => place

-- A file that exists loses its content, a device is left alone.
def emptied : Option Entry → Except Fault Entry
  | none | some (.file _) => .ok (.file [])
  | some .directory => .error (.system .isDirectory)
  | some device => .ok device

def create (s : Store) (text : String) : Except Fault (Location × Store) :=
  (Path.ofText text).bind fun p =>
    (s.parent p).bind fun here =>
      match p.parts.getLast? with
      | none => .error (.system .isDirectory)
      | some name =>
          if isDots name || p.slashed then .error (.system .isDirectory)
          else
            (Path.checkName name).bind fun _ =>
              let place := here ++ [name]
              (emptied (s.entry? place)).bind fun entry =>
                (s.permit place .write).map fun _ => (place, s.set place entry)

-- A full device gives zeros without end, so no line of it is ever complete.
def readLines (s : Store) (place : Location) : List (Except Fault String) :=
  match s.entry? place with
  | some (.file content) => Text.readLines content
  | some .directory => [.error (.system .isDirectory)]
  | some .fullDevice => [.error .unending]
  | some .nullDevice | none => []

def deviceAt (s : Store) (place : Location) : Device :=
  match s.entry? place with
  | some .fullDevice => { room := some 0, refusal := .system .noSpace }
  | _ => {}

-- Only a file keeps what was written.
def save (s : Store) (place : Location) (content : List UInt8) : Store :=
  match s.entry? place with
  | some (.file _) => s.set place (.file content)
  | _ => s

-- Where a name leads if everything on the way is a directory.
def move (here : Location) (name : String) : Location :=
  if name = "." then here else if name = ".." then here.dropLast else here ++ [name]

def makeDirectories (s : Store) : Location → List String → Store × Location
  | here, [] => (s, here)
  | here, name :: rest =>
      let place := move here name
      let made := if (s.entry? place).isSome then s else s.set place .directory
      made.makeDirectories place rest

def addDirectory (s : Store) (path : String) : Store :=
  (s.makeDirectories (s.origin (Path.isAbsolute path)) (Path.names path.toList)).1

-- All directories before the last name of a path, and the place of the last of them.
def reach (s : Store) (path : String) : Store × Location :=
  s.makeDirectories (s.origin (Path.isAbsolute path)) (Path.names path.toList).dropLast

def placeOf (s : Store) (path : String) : Location :=
  (s.reach path).2 ++ (Path.names path.toList).getLast?.toList

def addFile (s : Store) (path : String) (content : List UInt8) : Store :=
  (s.reach path).1.set (s.placeOf path) (.file content)

def refuse (s : Store) (path : String) (access : Access) (error : SystemError) : Store :=
  { s with refusals := ((s.placeOf path, access), error) :: s.refusals }

def changedSince (s before : Store) : List (String × List UInt8) :=
  s.entries.filterMap fun (place, entry) =>
    match entry with
    | .file content =>
        if s.home.isPrefixOf place && before.entry? place != some entry then
          some (String.intercalate "/" (place.drop s.home.length), content)
        else none
    | _ => none

end Store

end Asm16
