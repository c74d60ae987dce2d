/-!
# Events

What happens during a conversion and may be reported, from the most severe level to the most
detailed one.
-/

namespace MarkupChain

inductive Level where
  | off
  | error
  | warn
  | info
  | debug
  | trace
  deriving DecidableEq, Repr, Inhabited

def Level.rank : Level → Nat
  | .off => 0
  | .error => 1
  | .warn => 2
  | .info => 3
  | .debug => 4
  | .trace => 5

def Level.ofRank : Nat → Level
  | 0 => .off
  | 1 => .error
  | 2 => .warn
  | 3 => .info
  | 4 => .debug
  | _ => .trace

def Level.name : Level → String
  | .off => "OFF"
  | .error => "ERROR"
  | .warn => "WARN"
  | .info => "INFO"
  | .debug => "DEBUG"
  | .trace => "TRACE"

/-- Errors are reported unless asked otherwise; each request for more or for less moves the limit by
one level. -/
def Level.ofRequests (more less : Nat) : Level := ofRank (1 + more - less)

@[simp] theorem Level.ofRank_rank (l : Level) : Level.ofRank l.rank = l := by cases l <;> rfl

inductive Event where
  | reading (path : String)
  | noElement
  | ignoredSiblings (count : Nat) (tag : String)
  | emitted (tag code : String)
  | emptyResult
  deriving DecidableEq, Repr, Inhabited

def Event.level : Event → Level
  | .reading _ | .noElement | .ignoredSiblings _ _ => .debug
  | .emitted _ _ => .trace
  | .emptyResult => .warn

def Event.message : Event → String
  | .reading path => "reading " ++ path
  | .noElement => "no top-level element found"
  | .ignoredSiblings count tag =>
    "ignoring " ++ toString count ++ " top-level sibling(s) of <" ++ tag ++ ">"
  | .emitted tag code => "<" ++ tag ++ "> => " ++ code
  | .emptyResult => "No element found in the input"

/-- A line of the report. -/
def Event.line (e : Event) : String := e.level.name ++ ": " ++ e.message

/-- Whether a limit lets a level through. -/
def Level.allows (limit level : Level) : Bool := level.rank ≤ limit.rank

/-- The events that a limit lets through. -/
def Level.filter (limit : Level) (events : List Event) : List Event :=
  events.filter fun e => limit.allows e.level

end MarkupChain
