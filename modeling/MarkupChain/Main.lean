import MarkupChain.Command.Run

/-!
# The program

Reads the arguments and runs what they ask for on the machine; what a run does is decided elsewhere.
-/

namespace MarkupChain.Command

def usage : String :=
  "\n".intercalate
    ["Usage: html-to-ivi [OPTIONS] [FILE]",
      "",
      "Converts markup into a component function built with builder chains.",
      "",
      "  -f, --file FILE            file to read; the standard input if there is none",
      "      --component-name NAME  name of the function (Component)",
      "      --no-trim              keep texts that consist only of whitespace",
      "      --raw                  leave the code unformatted",
      "      --indent-width N       spaces for each level of indentation (2)",
      "      --print-width N        width that lines should not pass (80)",
      "  -o, --output FILE          file to write; the standard output if there is none",
      "  -v, --verbose              report more",
      "  -q, --quiet                report less",
      "  -h, --help                 print this text",
      "  -V, --version              print the version",
      ""]

def Stop.reason : Stop → String
  | .help | .version => ""
  | .unknownArgument => "unexpected argument"
  | .invalidValue => "missing or invalid value"
  | .invalidNumber => "invalid number"
  | .unneededValue => "unexpected value for a flag"
  | .conflict => "arguments cannot be used together"
  | .missingShell => "the shell is missing"
  | .unknownCommand => "unrecognized subcommand"

partial def readAll (stream : IO.FS.Stream) (content : ByteArray) : IO ByteArray := do
  let chunk ← stream.read 65536
  if chunk.isEmpty then return content else readAll stream (content ++ chunk)

/-- The system's own words and its number of the error. -/
def systemMessage : IO.Error → String
  | .noFileOrDirectory _ code details | .inappropriateType _ code details
  | .invalidArgument _ code details | .permissionDenied _ code details
  | .resourceExhausted _ code details =>
    details ++ " (os error " ++ toString code.toNat ++ ")"
  | e => toString e

def attempt {α : Type} (action : IO α) : ExceptT Failure IO α := do
  match ← action.toBaseIO with
  | .ok result => return result
  | .error e => throw (.system (systemMessage e))

/-- The machine that the program runs on. -/
def machine : System IO.FS.Handle IO where
  isThere path := do
    match ← (IO.FS.realPath path).toBaseIO with
    | .ok _ => return true
    | .error _ => return false
  readFile path := attempt do (← IO.FS.Handle.mk path .read).readBinToEnd
  isTerminal := do (← IO.getStdin).isTty
  readInput := attempt do readAll (← IO.getStdin) .empty
  createFile path := attempt (IO.FS.Handle.mk path .write)
  writeFile handle text := attempt do
    handle.putStr text
    handle.flush
  print text := attempt do
    IO.print text
    (← IO.getStdout).flush
  report e := IO.eprintln e.line

end MarkupChain.Command

open MarkupChain.Command in
def main (args : List String) : IO UInt32 := do
  match readArguments args with
  | .ok (.convert settings) =>
    match ← (settings.execute machine).run with
    | .ok () => return 0
    | .error failure =>
      IO.eprintln failure.message
      return 1
  | .ok (.completion _ _) => return 0
  | .error .help => IO.print usage; return 0
  | .error .version => IO.print versionText; return 0
  | .error stop =>
    IO.eprintln ("error: " ++ stop.reason)
    return 2
