import MarkupChain.Script.Expr

/-!
# Layout

An expression stays flat if its flat form and what must follow on the line fit into the print
width. Otherwise objects and argument lists take a line for each item, and a chain of more than two
named links takes a line for each named link after the first. The column at which a text starts is
passed down, so every decision is made for the place where the text will stand.
-/

namespace MarkupChain.Script

/-- The widths that a text is laid out for, of any size. Columns do not wrap, and memory is taken to
be unbounded, so there is room for every line however far it is indented. -/
structure Widths where
  /-- Spaces for each level of indentation. -/
  indent : Nat := 2
  /-- The columns that a line should not pass. -/
  print : Nat := 80
  deriving DecidableEq, Repr, Inhabited

def Widths.fits (w : Widths) (column : Nat) (flat : String) (suffix : Nat) : Bool :=
  column + flat.length + suffix ≤ w.print

/-- The column at which a line of the given level starts. -/
def Widths.margin (w : Widths) (level : Nat) : Nat := level * w.indent

def Widths.indentation (w : Widths) (level : Nat) : String :=
  String.ofList (List.replicate (w.margin level) ' ')

/-- The column behind a text that starts at `start`. -/
def columnAfter (start : Nat) (text : String) : Nat :=
  text.toList.foldl (fun column c => if c = '\n' then 0 else column + 1) start

@[simp] theorem columnAfter_empty (start : Nat) : columnAfter start "" = start := by
  simp [columnAfter]

theorem columnAfter_append (start : Nat) (s t : String) :
    columnAfter start (s ++ t) = columnAfter (columnAfter start s) t := by
  simp [columnAfter]

/-- What stands before a member name in a chain: in a broken chain each name but the first has a
line of its own. -/
def Widths.linkStart (w : Widths) (broken : Bool) (level : Nat) (target : Expr) : String :=
  if broken && 1 ≤ target.namedLinks then "\n" ++ w.indentation (level + 1) else ""

/-- The level of the calls on the last link of `callee`. -/
def linkLevel (broken : Bool) (level : Nat) (callee : Expr) : Nat :=
  if broken && 2 ≤ callee.namedLinks then level + 1 else level

/-- A chain of more than two named links is broken. -/
def Expr.breaks (e : Expr) : Bool := 2 < e.namedLinks

/-- An object that is not empty. -/
def Expr.hasEntries : Expr → Bool
  | .object entries => !entries.isEmpty
  | _ => false

/-- Lines of a deeper level between brackets; the closing bracket starts a line of its own. -/
def Widths.enclose (w : Widths) (level : Nat) (opening lines closing : String) : String :=
  opening ++ "\n" ++ lines ++ w.indentation level ++ closing

mutual

/-- Lays out an expression that starts at `column` of a line of the given level, with `suffix` more
columns needed behind it. For the front part of a chain, `part` says whether the chain is broken;
a whole expression has none and stays flat if it fits. -/
def Widths.layout (w : Widths) (level column suffix : Nat) (part : Option Bool) : Expr → String
  | .ident name => name
  | .literal text => text
  | .object entries =>
    let flat := (Expr.object entries).flat
    if entries.isEmpty || w.fits column flat suffix then flat
    else w.enclose level "\x7b" (w.layoutEntries (level + 1) entries) "\x7d"
  | .member target name =>
    let e := Expr.member target name
    if part.isNone && w.fits column e.flat suffix then e.flat
    else
      let broken := part.getD e.breaks
      w.layout level column 0 (some broken) target ++ w.linkStart broken level target ++ "." ++ name
  | .call callee args =>
    let e := Expr.call callee args
    if part.isNone && w.fits column e.flat suffix then e.flat
    else
      let broken := part.getD e.breaks
      let front := w.layout level column 0 (some broken) callee
      front ++ w.layoutArgs (linkLevel broken level callee) (columnAfter column front) suffix args

/-- An argument list with its parentheses. -/
def Widths.layoutArgs (w : Widths) (level column suffix : Nat) : List Expr → String
  | [] => "()"
  | e :: rest =>
    let flat := "(" ++ commaList (flatArgs (e :: rest)) ++ ")"
    if w.fits column flat suffix then flat
    else if rest.isEmpty && e.hasEntries then "(" ++ w.layoutOpen level e ++ ")"
    else w.enclose level "("
      (w.indentation (level + 1) ++ w.layout (level + 1) (w.margin (level + 1)) 1 none e ++ ",\n" ++
        w.layoutItems (level + 1) rest) ")"

/-- A single object argument is opened behind the parenthesis, without a level of its own. -/
def Widths.layoutOpen (w : Widths) (level : Nat) : Expr → String
  | .object entries => w.enclose level "\x7b" (w.layoutEntries (level + 1) entries) "\x7d"
  | _ => ""

def Widths.layoutItems (w : Widths) (level : Nat) : List Expr → String
  | [] => ""
  | e :: rest =>
    w.indentation level ++ w.layout level (w.margin level) 1 none e ++ ",\n" ++
      w.layoutItems level rest

def Widths.layoutEntries (w : Widths) (level : Nat) : List (String × Expr) → String
  | [] => ""
  | (key, e) :: rest =>
    w.indentation level ++ key ++ ": " ++
      w.layout level (w.margin level + key.length + 2) 1 none e ++ ",\n" ++
      w.layoutEntries level rest

end

def Definition.layout (w : Widths) (d : Definition) : String :=
  "function " ++ d.name ++ "() \x7b\n" ++ w.indentation 1 ++ "return " ++
    w.layout 1 (w.margin 1 + 7) 1 none d.body ++ ";\n\x7d\n"

end MarkupChain.Script
