import MarkupChain.Component.Convert
import MarkupChain.Text.Similarity

/-!
# Arguments

A command line sets fields and flags in any order, names at most one input directly and may end in
a command of its own. A value is either attached to its option or is the next argument; such a value
is checked only when the next option or input is reached, so an unknown argument right behind it is
found first. Behind two dashes every argument is an input. An input too many that resembles the name
of a command is taken for a misspelt command.
-/

namespace MarkupChain.Command

open Component Script

inductive Shell where
  | bash
  | elvish
  | fish
  | powershell
  | zsh
  deriving DecidableEq, Repr, Inhabited

def Shell.ofName? (name : String) : Option Shell :=
  [("bash", bash), ("elvish", elvish), ("fish", fish), ("powershell", powershell),
    ("zsh", zsh)].lookup name

/-- Why a command line does not lead to a run. -/
inductive Stop where
  | help
  | version
  | unknownArgument
  /-- A value is missing, empty or none of the choices. -/
  | invalidValue
  | invalidNumber
  | unneededValue
  | conflict
  | missingShell
  | unknownCommand
  deriving DecidableEq, Repr, Inhabited

/-- What a question for the version is answered with. -/
def versionText : String := "html-to-ivi 0.1.0\n"

inductive Flag where
  | noTrim
  | raw
  | verbose
  | quiet
  | help
  | version
  deriving DecidableEq, Repr, Inhabited

inductive Field where
  /-- The input named without an option. -/
  | direct
  | file
  | name
  | indentWidth
  | printWidth
  | output
  | shell
  deriving DecidableEq, Repr, Inhabited

inductive Item where
  | flag (f : Flag)
  | field (f : Field)
  deriving DecidableEq, Repr, Inhabited

/-- Which options are known. -/
inductive Scope where
  | main
  | completion
  deriving DecidableEq, Repr, Inhabited

def Scope.long? (scope : Scope) (name : String) : Option Item :=
  List.lookup name <| match scope with
    | .main =>
      [("file", .field .file), ("component-name", .field .name), ("no-trim", .flag .noTrim),
        ("raw", .flag .raw), ("indent-width", .field .indentWidth),
        ("print-width", .field .printWidth), ("output", .field .output),
        ("verbose", .flag .verbose), ("quiet", .flag .quiet), ("help", .flag .help),
        ("version", .flag .version)]
    | .completion =>
      [("shell", .field .shell), ("verbose", .flag .verbose), ("quiet", .flag .quiet),
        ("help", .flag .help)]

def Scope.short? (scope : Scope) (letter : Char) : Option Item :=
  List.lookup letter <| match scope with
    | .main =>
      [('f', .field .file), ('o', .field .output), ('v', .flag .verbose), ('q', .flag .quiet),
        ('h', .flag .help), ('V', .flag .version)]
    | .completion =>
      [('s', .field .shell), ('v', .flag .verbose), ('q', .flag .quiet), ('h', .flag .help)]

/-- The names of the commands. -/
def Scope.commands : Scope → List String
  | .main => ["completion", "help"]
  | .completion => []

/-- Why an input too many is refused. A command's own name gets here only behind two dashes, where it
names no command. -/
def Scope.refusal (scope : Scope) (arg : String) : Stop :=
  if arg ∈ scope.commands then .unknownArgument
  else if scope.commands.any fun name => Text.similarity arg.toList name.toList > 0.7 then
    .unknownCommand
  else .unknownArgument

/-- Digits behind at most one plus sign, of a value that fits in 64 bits. -/
def number? (text : String) : Option Nat :=
  let digits := match text.toList with
    | '+' :: rest => rest
    | cs => cs
  if digits.isEmpty || !digits.all Char.isDigit then none
  else
    let n := digits.foldl (fun n c => n * 10 + (c.toNat - '0'.toNat)) 0
    if n < UInt64.size then some n else none

def path? (text : String) : Option String := if text.isEmpty then none else some text

/-- What was given so far. -/
structure Given where
  direct : Option String := none
  file : Option String := none
  name : Option String := none
  indentWidth : Option Nat := none
  printWidth : Option Nat := none
  output : Option String := none
  shell : Option Shell := none
  noTrim : Bool := false
  raw : Bool := false
  verbose : Nat := 0
  quiet : Nat := 0
  deriving DecidableEq, Repr, Inhabited

/-- Sets what may be given once. -/
def setOnce {α : Type} (old new : Option α) (invalid : Stop) (set : α → Given) :
    Except Stop Given :=
  if old.isSome then .error .conflict
  else match new with
    | some value => .ok (set value)
    | none => .error invalid

def Given.assign (g : Given) (field : Field) (text : String) : Except Stop Given :=
  match field with
  | .direct => setOnce g.direct (path? text) .invalidValue fun v => { g with direct := some v }
  | .file => setOnce g.file (path? text) .invalidValue fun v => { g with file := some v }
  | .name => setOnce g.name (some text) .invalidValue fun v => { g with name := some v }
  | .indentWidth =>
    setOnce g.indentWidth (number? text) .invalidNumber fun v => { g with indentWidth := some v }
  | .printWidth =>
    setOnce g.printWidth (number? text) .invalidNumber fun v => { g with printWidth := some v }
  | .output => setOnce g.output (path? text) .invalidValue fun v => { g with output := some v }
  | .shell =>
    setOnce g.shell (Shell.ofName? text) .invalidValue fun v => { g with shell := some v }

def Given.raise (g : Given) : Flag → Except Stop Given
  | .noTrim => if g.noTrim then .error .conflict else .ok { g with noTrim := true }
  | .raw => if g.raw then .error .conflict else .ok { g with raw := true }
  | .verbose => .ok { g with verbose := g.verbose + 1 }
  | .quiet => .ok { g with quiet := g.quiet + 1 }
  | .help => .error .help
  | .version => .error .version

/-- A field whose value was read but not checked, or is still to come. -/
structure Pending where
  field : Field
  value : Option String
  deriving DecidableEq, Repr, Inhabited

structure Scan where
  given : Given := {}
  pending : Option Pending := none
  /-- Two dashes were read. -/
  onlyInputs : Bool := false
  /-- An input was named directly. -/
  hasInput : Bool := false
  deriving DecidableEq, Repr, Inhabited

/-- The next argument is a value if it is no option. -/
def Scan.awaits (s : Scan) : Bool := s.pending.any (·.value.isNone)

/-- Checks the value that is pending. -/
def Scan.flush (s : Scan) : Except Stop Scan :=
  match s.pending with
  | none => .ok s
  | some ⟨_, none⟩ => .error .invalidValue
  | some ⟨field, some value⟩ => do
    let given ← s.given.assign field value
    return { s with given := given, pending := none }

def Scan.raise (s : Scan) (flag : Flag) : Except Stop Scan := do
  let s ← s.flush
  let given ← s.given.raise flag
  return { s with given := given }

/-- A field with its value attached, or to be followed by it. -/
def Scan.assign (s : Scan) (field : Field) (value : Option String) : Except Stop Scan := do
  let s ← s.flush
  match value with
  | none => return { s with pending := some ⟨field, none⟩ }
  | some text =>
    let given ← s.given.assign field text
    return { s with given := given }

/-- An option by its long name, with what follows an equals sign. -/
def Scan.long (scope : Scope) (s : Scan) (body : List Char) : Except Stop Scan :=
  let value := match body.dropWhile (· != '=') with
    | [] => none
    | _ :: cs => some (String.ofList cs)
  match scope.long? (String.ofList (body.takeWhile (· != '='))) with
  | none => .error .unknownArgument
  | some (.field field) => s.assign field value
  | some (.flag flag) => if value.isSome then .error .unneededValue else s.raise flag

/-- Options by their letters. A letter that takes a value takes the rest. -/
def Scan.short (scope : Scope) (s : Scan) : List Char → Except Stop Scan
  | [] => .ok s
  | letter :: rest =>
    match scope.short? letter with
    | none => .error .unknownArgument
    | some (.flag flag) => do
      let s ← s.raise flag
      s.short scope rest
    | some (.field field) =>
      match rest with
      | [] => s.assign field none
      | '=' :: cs => s.assign field (some (String.ofList cs))
      | cs => s.assign field (some (String.ofList cs))

/-- An argument that is neither an option nor a value. -/
def Scan.input (scope : Scope) (s : Scan) (arg : String) : Except Stop Scan :=
  if scope = .main ∧ !s.hasInput then do
    let s ← s.flush
    return { s with pending := some ⟨.direct, some arg⟩, hasInput := true }
  else .error (scope.refusal arg)

def Scan.step (scope : Scope) (s : Scan) (arg : String) : Except Stop Scan :=
  if s.onlyInputs then s.input scope arg
  else match arg.toList with
    | ['-', '-'] => .ok { s with onlyInputs := true }
    | '-' :: '-' :: body => s.long scope body
    | '-' :: letter :: rest => s.short scope (letter :: rest)
    | _ =>
      match s.pending with
      | some ⟨field, none⟩ => .ok { s with pending := some ⟨field, some arg⟩ }
      | _ => s.input scope arg

/-- What was given, when all arguments were read. -/
def Scan.finish (s : Scan) : Except Stop Given := do
  let s ← s.flush
  let g := s.given
  if (g.file.isSome && g.direct.isSome) || (g.verbose != 0 && g.quiet != 0) then .error .conflict
  else .ok g

/-- What to do, with all that was not given at its default. -/
structure Settings where
  /-- The file to read; the standard input if there is none. -/
  input : Option String := none
  options : Options := {}
  /-- The component is left in its compact form. -/
  raw : Bool := false
  widths : Widths := {}
  /-- The file to write; the standard output if there is none. -/
  output : Option String := none
  level : Level := .error
  deriving DecidableEq, Repr, Inhabited

def Given.settings (g : Given) : Settings where
  input := g.direct.or g.file
  options := { name := g.name.getD "Component", trim := !g.noTrim }
  raw := g.raw
  widths := { indent := g.indentWidth.getD 2, print := g.printWidth.getD 80 }
  output := g.output
  level := Level.ofRequests g.verbose g.quiet

inductive Task where
  | convert (s : Settings)
  /-- The completion script of a shell, with the level of the report. -/
  | completion (shell : Shell) (level : Level)
  deriving DecidableEq, Repr, Inhabited

/-- Help on a command is asked for by its name. -/
def helpOn : List String → Stop
  | [] | ["completion"] | ["help"] => .help
  | _ => .unknownCommand

/-- The arguments behind `completion`. Verbosity given there counts instead of the one before. -/
def readCompletion (main : Scan) (args : List String) : Except Stop Task := do
  let s ← args.foldlM (Scan.step .completion) {}
  let sub ← s.finish
  match sub.shell with
  | none => .error .missingShell
  | some shell =>
    let g ← main.finish
    let verbose := if sub.verbose = 0 then g.verbose else sub.verbose
    let quiet := if sub.quiet = 0 then g.quiet else sub.quiet
    return .completion shell (Level.ofRequests verbose quiet)

def readFrom (s : Scan) : List String → Except Stop Task
  | [] => do
    let g ← s.finish
    return .convert g.settings
  | arg :: rest =>
    if !s.onlyInputs && !s.awaits && arg = "help" then .error (helpOn rest)
    else if !s.onlyInputs && !s.awaits && arg = "completion" then readCompletion s rest
    else do
      let s ← s.step .main arg
      readFrom s rest

/-- The task that a command line asks for. -/
def readArguments (args : List String) : Except Stop Task := readFrom {} args

end MarkupChain.Command
