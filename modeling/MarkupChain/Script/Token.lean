import MarkupChain.Script.Error
import MarkupChain.Text.Blank

/-!
# Script tokens

Words, quoted literals and punctuation, with blanks between them. The scanner reads one character
at a time: it is between tokens, inside a word or inside a literal. A word takes as many characters
as it can. A literal ends at the first quote that no backslash escapes and keeps its source text.
-/

namespace MarkupChain.Script

inductive Symbol where
  | colon
  | comma
  | dot
  | openBrace
  | closeBrace
  | openParen
  | closeParen
  | semicolon
  deriving DecidableEq, Repr, Inhabited

def Symbol.char : Symbol → Char
  | .colon => ':'
  | .comma => ','
  | .dot => '.'
  | .openBrace => '{'
  | .closeBrace => '}'
  | .openParen => '('
  | .closeParen => ')'
  | .semicolon => ';'

def Symbol.ofChar? (c : Char) : Option Symbol :=
  if c = ':' then some .colon
  else if c = ',' then some .comma
  else if c = '.' then some .dot
  else if c = '{' then some .openBrace
  else if c = '}' then some .closeBrace
  else if c = '(' then some .openParen
  else if c = ')' then some .closeParen
  else if c = ';' then some .semicolon
  else none

@[simp] theorem Symbol.ofChar?_char (s : Symbol) : Symbol.ofChar? s.char = some s := by
  cases s <;> rfl

inductive Lexeme where
  | word (name : String)
  | quoted (text : String)
  | symbol (s : Symbol)
  deriving DecidableEq, Repr, Inhabited

def Lexeme.text : Lexeme → String
  | .word name => name
  | .quoted text => text
  | .symbol s => String.singleton s.char

structure Token where
  lexeme : Lexeme
  /-- The bytes before the token. -/
  offset : Nat
  deriving DecidableEq, Repr, Inhabited

def isWordStart (c : Char) : Bool := c.isAlpha || c == '_' || c == '$'

def isWordPart (c : Char) : Bool := c.isAlphanum || c == '_' || c == '$' || c == '-'

inductive ScanMode where
  | between
  | word (start : Nat) (text : String)
  | quoted (start : Nat) (text : String) (escaped : Bool)
  deriving DecidableEq, Repr, Inhabited

structure Scan where
  mode : ScanMode := .between
  offset : Nat := 0
  /-- The finished tokens, the latest first. -/
  tokens : List Token := []
  deriving DecidableEq, Repr, Inhabited

/-- A character that continues no token. -/
def Scan.fresh (offset : Nat) (tokens : List Token) (c : Char) : Except Error Scan :=
  let next := offset + c.utf8Size
  if Text.isBlank c then .ok ⟨.between, next, tokens⟩
  else if c = '"' then .ok ⟨.quoted offset "\"" false, next, tokens⟩
  else if isWordStart c then .ok ⟨.word offset (String.singleton c), next, tokens⟩
  else match Symbol.ofChar? c with
    | some symbol => .ok ⟨.between, next, ⟨.symbol symbol, offset⟩ :: tokens⟩
    | none => .error (.unexpectedCharacter c offset)

def Scan.step : Scan → Char → Except Error Scan
  | ⟨.between, offset, tokens⟩, c => fresh offset tokens c
  | ⟨.word start text, offset, tokens⟩, c =>
    if isWordPart c then .ok ⟨.word start (text.push c), offset + c.utf8Size, tokens⟩
    else fresh offset (⟨.word text, start⟩ :: tokens) c
  | ⟨.quoted start text true, offset, tokens⟩, c =>
    .ok ⟨.quoted start (text.push c) false, offset + c.utf8Size, tokens⟩
  | ⟨.quoted start text false, offset, tokens⟩, c =>
    if c = '"' then
      .ok ⟨.between, offset + c.utf8Size, ⟨.quoted (text.push c), start⟩ :: tokens⟩
    else .ok ⟨.quoted start (text.push c) (c == '\\'), offset + c.utf8Size, tokens⟩

/-- At the end of the text an open literal is refused at its opening quote. -/
def Scan.finish : Scan → Except Error (List Token)
  | ⟨.between, _, tokens⟩ => .ok tokens.reverse
  | ⟨.word start text, _, tokens⟩ => .ok (⟨.word text, start⟩ :: tokens).reverse
  | ⟨.quoted start _ _, _, _⟩ => .error (.unexpectedCharacter '"' start)

def Scan.run (s : Scan) (cs : List Char) : Except Error Scan := cs.foldlM Scan.step s

def tokenize (code : String) : Except Error (List Token) := do
  let s ← Scan.run {} code.toList
  s.finish

@[simp] theorem Scan.run_nil (s : Scan) : s.run [] = .ok s := rfl

@[simp] theorem Scan.run_cons (s : Scan) (c : Char) (cs : List Char) :
    s.run (c :: cs) = s.step c >>= fun t => t.run cs := by simp [Scan.run]

theorem Scan.run_append (s : Scan) (cs ds : List Char) :
    s.run (cs ++ ds) = s.run cs >>= fun t => t.run ds := by simp [Scan.run]

end MarkupChain.Script
