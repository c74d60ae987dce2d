import MarkupChain.Script.Definition
import MarkupChain.Script.Layout

/-!
# Formatting

A script is read and laid out anew; blank text stays empty. A formatter writes into a buffer of its
own and can be used again, after a success as after an error. A session formats one request after
the other with one formatter and can be asked to format its last result again.
-/

namespace MarkupChain.Script

def format (w : Widths) (code : String) : Except Error String :=
  if Text.isBlankText code then .ok ""
  else do
    let tokens ← tokenize code
    let d ← Definition.ofTokens tokens
    return d.layout w

structure Formatter where
  widths : Widths := {}
  /-- What has been written and not yet handed out. -/
  buffer : String := ""
  deriving DecidableEq, Repr, Inhabited

def Formatter.clear (f : Formatter) : Formatter := { f with buffer := "" }

def Formatter.write (f : Formatter) (text : String) : Formatter :=
  { f with buffer := f.buffer ++ text }

def Formatter.writeDefinition (f : Formatter) (d : Definition) : Formatter :=
  let w := f.widths
  let signature := ((f.write "function ").write d.name).write "() \x7b\n"
  let body := w.layout 1 (w.margin 1 + 7) 1 none d.body
  (((signature.write (w.indentation 1)).write "return ").write body).write ";\n\x7d\n"

/-- Formats a text and hands out the buffer; blank or refused text leaves the formatter as it is. -/
def Formatter.format (f : Formatter) (code : String) : Formatter × Except Error String :=
  if Text.isBlankText code then (f, .ok "")
  else match tokenize code >>= Definition.ofTokens with
    | .error e => (f, .error e)
    | .ok d => let g := f.clear.writeDefinition d; (g.clear, .ok g.buffer)

inductive Request where
  | code (text : String)
  /-- The last text that was formatted, or the empty text. -/
  | again
  deriving DecidableEq, Repr, Inhabited

structure Session extends Formatter where
  /-- The last result. -/
  last : String := ""
  deriving DecidableEq, Repr, Inhabited

def Session.text (s : Session) : Request → String
  | .code text => text
  | .again => s.last

def Session.step (s : Session) (request : Request) : Session × Except Error String :=
  let (f, result) := s.toFormatter.format (s.text request)
  (⟨f, result.toOption.getD s.last⟩, result)

def Session.run : Session → List Request → List (Except Error String)
  | _, [] => []
  | s, request :: rest => let (next, result) := s.step request; result :: next.run rest

end MarkupChain.Script
