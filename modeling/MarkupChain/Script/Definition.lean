import MarkupChain.Script.Expr
import MarkupChain.Script.Token

/-!
# Reading a definition

The grammar is `function NAME () { return EXPR ;? }`. An expression is a name, a literal or an
object, followed by any number of `.NAME` and `(EXPR, ...)`; lists may end in a comma. The reader
takes one token at a time. It remembers the lists that are open around the place it has reached and
what may come there, so a token is refused exactly where no text could go on with it.
-/

namespace MarkupChain.Script

/-- A list that the expression being read will be put into; what is `done` has the latest first. -/
inductive Frame where
  | arguments (callee : Expr) (done : List Expr)
  | entries (done : List (String × Expr)) (key : String)
  deriving Repr, Inhabited

/-- What was read last inside the body. -/
inductive Spot where
  /-- An expression has to start. -/
  | operand
  /-- An argument may start, or the list may end. -/
  | argument (callee : Expr) (done : List Expr)
  /-- A key may start, or the object may end. -/
  | key (done : List (String × Expr))
  | colon (done : List (String × Expr)) (key : String)
  | member (target : Expr)
  /-- An expression that may go on or be complete. -/
  | after (e : Expr)
  deriving Repr, Inhabited

/-- How far a definition was read. -/
inductive Reading where
  | start
  | keyword
  | named (name : String)
  | params (name : String)
  | signature (name : String)
  | opened (name : String)
  | body (name : String) (frames : List Frame) (spot : Spot)
  /-- The expression was ended by a semicolon. -/
  | ended (d : Definition)
  | complete (d : Definition)
  deriving Repr, Inhabited

/-- The first token of an expression. -/
def Spot.ofFirst? : Lexeme → Option Spot
  | .word name => some (.after (.ident name))
  | .quoted text => some (.after (.literal text))
  | .symbol .openBrace => some (.key [])
  | .symbol _ => none

/-- A token behind the expression `e`, inside the given lists. -/
def Reading.stepAfter (name : String) (e : Expr) : List Frame → Symbol → Option Reading
  | frames, .dot => some (.body name frames (.member e))
  | frames, .openParen => some (.body name frames (.argument e []))
  | [], .semicolon => some (.ended ⟨name, e⟩)
  | [], .closeBrace => some (.complete ⟨name, e⟩)
  | .arguments callee done :: frames, .comma =>
    some (.body name frames (.argument callee (e :: done)))
  | .arguments callee done :: frames, .closeParen =>
    some (.body name frames (.after (.call callee (e :: done).reverse)))
  | .entries done key :: frames, .comma => some (.body name frames (.key ((key, e) :: done)))
  | .entries done key :: frames, .closeBrace =>
    some (.body name frames (.after (.object ((key, e) :: done).reverse)))
  | _, _ => none

def Reading.stepBody (name : String) (frames : List Frame) : Spot → Lexeme → Option Reading
  | .operand, lexeme => (Spot.ofFirst? lexeme).map (.body name frames)
  | .argument callee done, .symbol .closeParen =>
    some (.body name frames (.after (.call callee done.reverse)))
  | .argument callee done, lexeme =>
    (Spot.ofFirst? lexeme).map (.body name (.arguments callee done :: frames))
  | .key done, .symbol .closeBrace => some (.body name frames (.after (.object done.reverse)))
  | .key done, .word key => some (.body name frames (.colon done key))
  | .key done, .quoted key => some (.body name frames (.colon done key))
  | .colon done key, .symbol .colon => some (.body name (.entries done key :: frames) .operand)
  | .member target, .word member => some (.body name frames (.after (.member target member)))
  | .after e, .symbol symbol => stepAfter name e frames symbol
  | _, _ => none

/-- Takes one token, or none if the token cannot stand there. -/
def Reading.step : Reading → Lexeme → Option Reading
  | .start, .word "function" => some .keyword
  | .keyword, .word name => some (.named name)
  | .named name, .symbol .openParen => some (.params name)
  | .params name, .symbol .closeParen => some (.signature name)
  | .signature name, .symbol .openBrace => some (.opened name)
  | .opened name, .word "return" => some (.body name [] .operand)
  | .body name frames spot, lexeme => stepBody name frames spot lexeme
  | .ended d, .symbol .closeBrace => some (.complete d)
  | _, _ => none

def Reading.finish : Reading → Except Error Definition
  | .complete d => .ok d
  | _ => .error .unexpectedEnd

def Reading.run : Reading → List Token → Except Error Reading
  | r, [] => .ok r
  | r, token :: rest =>
    match r.step token.lexeme with
    | some next => next.run rest
    | none => .error (.unexpectedToken token.lexeme.text token.offset)

@[simp] theorem Reading.run_nil (r : Reading) : r.run [] = .ok r := rfl

theorem Reading.run_append (r : Reading) (ts us : List Token) :
    r.run (ts ++ us) = r.run ts >>= fun q => q.run us := by
  induction ts generalizing r with
  | nil => rfl
  | cons token ts ih =>
    rw [List.cons_append, Reading.run, Reading.run]
    cases r.step token.lexeme with
    | none => rfl
    | some next => exact ih next

def Definition.ofTokens (tokens : List Token) : Except Error Definition := do
  let r ← Reading.start.run tokens
  r.finish

end MarkupChain.Script
