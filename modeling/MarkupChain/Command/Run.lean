import MarkupChain.Command.Arguments
import MarkupChain.Command.FileTree

/-!
# Running a command line

The input is read and converted before anything is written, so a run that fails leaves all files as
they are. A result that is not empty ends in a line feed. A run is the same on every system that can
be asked to read and write: the program runs on the machine that it is started on, and here runs on
a file tree are described.
-/

namespace MarkupChain.Command

open Component

inductive Failure where
  | notFound (path : String)
  | isDirectory
  | notDirectory
  | noParent
  | tooLong
  | tooManyLinks
  | notPath
  | denied
  | notText
  | conversion (e : ConversionError)
  /-- Anything else that the machine has to say. -/
  | system (message : String)
  deriving DecidableEq, Repr, Inhabited

def Failure.message : Failure → String
  | .notFound path => "File not found: " ++ path
  | .isDirectory => "Is a directory (os error 21)"
  | .notDirectory => "Not a directory (os error 20)"
  | .noParent => "No such file or directory (os error 2)"
  | .tooLong => "File name too long (os error 36)"
  | .tooManyLinks => "Too many levels of symbolic links (os error 40)"
  | .notPath => "file name contained an unexpected NUL byte"
  | .denied => "Permission denied (os error 13)"
  | .notText => "stream did not contain valid UTF-8"
  | .conversion e => e.message
  | .system message => message

/-- The identifier under which the failure is documented. -/
def Failure.code? : Failure → Option String
  | .conversion e => some e.code
  | _ => none

/-- The text of an input. -/
def decode (content : ByteArray) : Except Failure String :=
  match String.fromUTF8? content with
  | some text => .ok text
  | none => .error .notText

def Settings.convert (s : Settings) (text : String) : Except ConversionError String :=
  if s.raw then convertCompact s.options text else Component.convert s.options s.widths text

def endLine (code : String) : String :=
  if code.isEmpty || code.toList.getLast? = some '\n' then code else code ++ "\n"

/-- What is written for an input. -/
def Settings.respond (s : Settings) (text : String) : Except Failure String :=
  match s.convert text with
  | .ok code => .ok (endLine code)
  | .error e => .error (.conversion e)

/-- The events of converting a text. -/
def Settings.respondingEvents (s : Settings) (text : String) : List Event :=
  conversionEvents s.level s.options text ++
    match s.convert text with
    | .ok code => if code.isEmpty then s.level.filter [.emptyResult] else []
    | .error _ => []

/-! ## Runs on any system -/

/-- What a run asks of the system, with files of some type that are open for writing. -/
structure System (File : Type) (m : Type → Type) where
  /-- A file or a directory stands where a path leads. -/
  isThere : String → m Bool
  readFile : String → ExceptT Failure m ByteArray
  /-- The standard input is a terminal. -/
  isTerminal : m Bool
  readInput : ExceptT Failure m ByteArray
  /-- Creates a file, or empties the one that is there. -/
  createFile : String → ExceptT Failure m File
  /-- Writes behind what a file holds. -/
  writeFile : File → String → ExceptT Failure m Unit
  print : String → ExceptT Failure m Unit
  report : Event → m Unit

section Program

variable {File : Type} {m : Type → Type} [Monad m] (sys : System File m)

def System.reportAll (events : List Event) : m Unit := events.forM sys.report

/-- The text of the input. Nobody is waited for at a terminal. -/
def Settings.source (s : Settings) : ExceptT Failure m String := do
  match s.input with
  | some path =>
    if ← sys.isThere path then
      sys.reportAll (s.level.filter [.reading path])
      MonadExcept.ofExcept (decode (← sys.readFile path))
    else throw (.notFound path)
  | none =>
    if ← sys.isTerminal then return ""
    else MonadExcept.ofExcept (decode (← sys.readInput))

/-- Puts the result where the settings want it. -/
def Settings.deliver (s : Settings) (result : String) : ExceptT Failure m Unit := do
  match s.output with
  | none => sys.print result
  | some path => sys.writeFile (← sys.createFile path) result

def Settings.execute (s : Settings) : ExceptT Failure m Unit := do
  let text ← s.source sys
  sys.reportAll (s.respondingEvents text)
  let result ← MonadExcept.ofExcept (s.respond text)
  s.deliver sys result

end Program

/-! ## Runs on a file tree -/

/-- What a file holds. -/
def FileTree.read (t : FileTree) (path : String) : Except Failure ByteArray :=
  match t.target path with
  | .directory => .error .isDirectory
  | .file number => .ok (t.content number)
  | .vacant _ | .noDirectory | .noParent | .blocked | .tooLong | .tooManyLinks | .notPath =>
    .error (.notFound path)

def FileTree.isThere (t : FileTree) (path : String) : Bool :=
  match t.target path with
  | .directory | .file _ => true
  | .vacant _ | .noDirectory | .noParent | .blocked | .tooLong | .tooManyLinks | .notPath => false

/-- Creates a file, or empties the one that is there, and says its number. -/
def FileTree.create (t : FileTree) (path : String) : Except Failure (Nat × FileTree) :=
  match t.target path with
  | .file number =>
    if t.readOnly.contains number then .error .denied else .ok (number, t.fill number .empty)
  | .vacant place =>
    if t.locked.contains place.dropLast then .error .denied
    else .ok (t.fresh, (t.add place t.fresh).fill t.fresh .empty)
  | .directory | .noDirectory => .error .isDirectory
  | .noParent => .error .noParent
  | .blocked => .error .notDirectory
  | .tooLong => .error .tooLong
  | .tooManyLinks => .error .tooManyLinks
  | .notPath => .error .notPath

def FileTree.append (t : FileTree) (number : Nat) (text : String) : FileTree :=
  t.fill number (t.content number ++ text.toUTF8)

/-- A standard input. -/
inductive Input where
  | terminal
  | stream (content : ByteArray)
  deriving Inhabited

/-- What can be read without waiting for anybody. -/
def Input.content : Input → ByteArray
  | .terminal => .empty
  | .stream content => content

/-- All that a run can change. -/
structure World where
  tree : FileTree := {}
  stdout : String := ""
  reported : List Event := []
  deriving Inhabited

/-- The system of a file tree. The standard input can be read to its end, and what is written to a
file that was created or to the standard output arrives there: no disk is full, no pipe closed. -/
def World.system (stdin : Input) : System Nat (StateM World) where
  isThere path := return (← get).tree.isThere path
  readFile path := do MonadExcept.ofExcept ((← get).tree.read path)
  isTerminal := return stdin matches .terminal
  readInput := return stdin.content
  createFile path := do
    let created ← MonadExcept.ofExcept ((← get).tree.create path)
    modify ({ · with tree := created.2 })
    return created.1
  writeFile number text := modify fun w => { w with tree := w.tree.append number text }
  print text := modify fun w => { w with stdout := w.stdout ++ text }
  report e := modify fun w => { w with reported := w.reported ++ [e] }

/-- The files and the standard output after a run, and why it failed if it did. -/
structure Outcome where
  tree : FileTree
  stdout : String := ""
  failure : Option Failure := none
  deriving Inhabited

/-- How a run ends, and in what world. -/
def Settings.finalWorld (s : Settings) (t : FileTree) (stdin : Input) :
    Except Failure Unit × World :=
  (s.execute (World.system stdin)).run.run { tree := t }

def Settings.run (s : Settings) (t : FileTree) (stdin : Input) : Outcome :=
  match s.finalWorld t stdin with
  | (.ok (), w) => { tree := w.tree, stdout := w.stdout }
  | (.error failure, w) => { tree := w.tree, stdout := w.stdout, failure := some failure }

/-- The events of a run that the settings want reported. -/
def Settings.events (s : Settings) (t : FileTree) (stdin : Input) : List Event :=
  (s.finalWorld t stdin).2.reported

end MarkupChain.Command
