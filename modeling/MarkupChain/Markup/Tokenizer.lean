import MarkupChain.Markup.Reference
import MarkupChain.Markup.Token
import MarkupChain.Markup.Vocabulary

/-!
# The tokenizer

Markup is read one character at a time. The state holds what has been read of an unfinished token;
each character gives the next state and the tokens that it completes. A character that only ends
something is read again in the state that it leads to. Inside raw text everything is text up to an
end tag with the name of the element. At the end of the input an unfinished tag is dropped.
-/

namespace MarkupChain.Markup

/-- A tag of which the name and some attributes were read. -/
structure Draft where
  closing : Bool
  name : String
  attributes : List Attribute := []
  deriving DecidableEq, Repr, Inhabited

/-- An element inside which raw text is read. -/
structure RawText where
  element : String
  mode : RawMode
  deriving DecidableEq, Repr, Inhabited

inductive Quoting where
  | double
  | single
  | none
  deriving DecidableEq, Repr, Inhabited

/-- An attribute whose value is being read. -/
structure ValueDraft where
  tag : Draft
  quoting : Quoting
  name : String
  value : String
  deriving DecidableEq, Repr, Inhabited

/-- Where a character reference stands. -/
inductive Place where
  | data
  | raw (r : RawText)
  | value (v : ValueDraft)
  deriving DecidableEq, Repr, Inhabited

inductive State where
  | data
  | tagOpen
  | endTagOpen
  | tagName (tag : Draft)
  | beforeAttribute (tag : Draft)
  | attributeName (tag : Draft) (name : String)
  | afterAttributeName (tag : Draft) (name : String)
  | beforeValue (tag : Draft) (name : String)
  | value (v : ValueDraft)
  | selfClosing (tag : Draft)
  | declaration
  | declarationDash
  /-- The word `doctype` up to the letters that are missing. -/
  | doctypeWord (missing : List Char)
  | commentStart
  | commentStartDash
  | comment
  | commentEndDash
  | commentEnd
  | commentEndBang
  | bogusComment
  | doctype
  | raw (r : RawText)
  | rawLess (r : RawText)
  | rawEndOpen (r : RawText)
  /-- The letters of an end tag as written. -/
  | rawEndName (r : RawText) (written : String)
  | escapeStart (r : RawText)
  | escapeStartDash (r : RawText)
  | escapedDash (r : RawText)
  | escapedDashDash (r : RawText)
  | doubleEscapeStart (r : RawText) (word : String)
  | doubleEscapeEnd (r : RawText) (word : String)
  | reference (place : Place) (r : Reference)
  deriving DecidableEq, Repr, Inhabited

/-- The next state and the tokens completed on the way. -/
abbrev Move := State × List Token

/-- The spaces of markup; carriage returns are gone when they are asked for. -/
def isSpace (c : Char) : Bool := c == '\t' || c == '\n' || c == '\x0c' || c == ' '

/-- A null character inside a name, a value or raw text. -/
def visible (c : Char) : Char := if c = '\x00' then replacementChar else c

def textToken (c : Char) : Token := .text (String.singleton c)

/-- Adds an attribute unless there is one of that name. -/
def Draft.add (tag : Draft) (name value : String) : Draft :=
  if tag.attributes.any (·.name == name) then tag
  else { tag with attributes := tag.attributes ++ [⟨name, value⟩] }

def ValueDraft.close (v : ValueDraft) : Draft := v.tag.add v.name v.value

/-- The state behind a start tag. -/
def contentState (name : String) (selfClosing : Bool) : State :=
  match if selfClosing then none else rawMode? name with
  | some mode => .raw ⟨name, mode⟩
  | none => .data

def Draft.emit (tag : Draft) (selfClosing : Bool) : Move :=
  if tag.closing then (.data, [.endTag tag.name])
  else (contentState tag.name selfClosing, [.startTag ⟨tag.name, tag.attributes⟩ selfClosing])

def stepData (c : Char) : Move :=
  if c = '&' then (.reference .data .start, [])
  else if c = '<' then (.tagOpen, [])
  else if c = '\x00' then (.data, [.null])
  else (.data, [textToken c])

def RawText.withScript (r : RawText) (mode : ScriptMode) : RawText := { r with mode := .script mode }

def stepRaw (r : RawText) (c : Char) : Move :=
  match r.mode with
  | .replaceable =>
    if c = '&' then (.reference (.raw r) .start, [])
    else if c = '<' then (.rawLess r, [])
    else (.raw r, [textToken (visible c)])
  | .verbatim | .script .plain =>
    if c = '<' then (.rawLess r, []) else (.raw r, [textToken (visible c)])
  | .script .escaped =>
    if c = '-' then (.escapedDash r, [textToken c])
    else if c = '<' then (.rawLess r, [])
    else (.raw r, [textToken (visible c)])
  | .script .doubleEscaped =>
    if c = '-' then (.escapedDash r, [textToken c])
    else if c = '<' then (.rawLess r, [textToken c])
    else (.raw r, [textToken (visible c)])

def stepBeforeAttribute (tag : Draft) (c : Char) : Move :=
  if isSpace c then (.beforeAttribute tag, [])
  else if c = '/' then (.selfClosing tag, [])
  else if c = '>' then tag.emit false
  else (.attributeName tag (String.singleton (visible c).toLower), [])

def stepTagOpen (c : Char) : Move :=
  if c = '!' then (.declaration, [])
  else if c = '/' then (.endTagOpen, [])
  else if c = '?' then (.bogusComment, [])
  else if c.isAlpha then (.tagName ⟨false, String.singleton c.toLower, []⟩, [])
  else let (next, tokens) := stepData c; (next, .text "<" :: tokens)

def stepEndTagOpen (c : Char) : Move :=
  if c = '>' then (.data, [])
  else if c.isAlpha then (.tagName ⟨true, String.singleton c.toLower, []⟩, [])
  else (.bogusComment, [])

def stepTagName (tag : Draft) (c : Char) : Move :=
  if isSpace c then (.beforeAttribute tag, [])
  else if c = '/' then (.selfClosing tag, [])
  else if c = '>' then tag.emit false
  else (.tagName { tag with name := tag.name.push (visible c).toLower }, [])

def stepAttributeName (tag : Draft) (name : String) (c : Char) : Move :=
  if isSpace c then (.afterAttributeName tag name, [])
  else if c = '/' then (.selfClosing (tag.add name ""), [])
  else if c = '=' then (.beforeValue tag name, [])
  else if c = '>' then (tag.add name "").emit false
  else (.attributeName tag (name.push (visible c).toLower), [])

def stepAfterAttributeName (tag : Draft) (name : String) (c : Char) : Move :=
  if isSpace c then (.afterAttributeName tag name, [])
  else if c = '=' then (.beforeValue tag name, [])
  else stepBeforeAttribute (tag.add name "") c

def stepValue (v : ValueDraft) (c : Char) : Move :=
  if c = '&' then (.reference (.value v) .start, [])
  else match v.quoting with
    | .double =>
      if c = '"' then (.beforeAttribute v.close, [])
      else (.value { v with value := v.value.push (visible c) }, [])
    | .single =>
      if c = '\'' then (.beforeAttribute v.close, [])
      else (.value { v with value := v.value.push (visible c) }, [])
    | .none =>
      if isSpace c then (.beforeAttribute v.close, [])
      else if c = '>' then v.close.emit false
      else (.value { v with value := v.value.push (visible c) }, [])

def stepBeforeValue (tag : Draft) (name : String) (c : Char) : Move :=
  if isSpace c then (.beforeValue tag name, [])
  else if c = '"' then (.value ⟨tag, .double, name, ""⟩, [])
  else if c = '\'' then (.value ⟨tag, .single, name, ""⟩, [])
  else if c = '>' then (tag.add name "").emit false
  else stepValue ⟨tag, .none, name, ""⟩ c

def stepSelfClosing (tag : Draft) (c : Char) : Move :=
  if c = '>' then tag.emit true else stepBeforeAttribute tag c

def stepBogusComment (c : Char) : Move :=
  if c = '>' then (.data, [.comment]) else (.bogusComment, [])

def stepDoctype (c : Char) : Move :=
  if c = '>' then (.data, [.doctype]) else (.doctype, [])

/-- The word `doctype` starts a document type; anything else is a comment up to the next `>`. -/
def stepDoctypeWord (missing : List Char) (c : Char) : Move :=
  match missing with
  | [] => stepDoctype c
  | expected :: more =>
    if c.toLower = expected then (if more.isEmpty then .doctype else .doctypeWord more, [])
    else stepBogusComment c

def stepDeclaration (c : Char) : Move :=
  if c = '-' then (.declarationDash, []) else stepDoctypeWord "doctype".toList c

def stepDeclarationDash (c : Char) : Move :=
  if c = '-' then (.commentStart, []) else stepBogusComment c

def stepComment (c : Char) : Move :=
  if c = '-' then (.commentEndDash, []) else (.comment, [])

def stepCommentStart (c : Char) : Move :=
  if c = '-' then (.commentStartDash, [])
  else if c = '>' then (.data, [.comment])
  else stepComment c

def stepCommentStartDash (c : Char) : Move :=
  if c = '-' then (.commentEnd, [])
  else if c = '>' then (.data, [.comment])
  else stepComment c

def stepCommentEndDash (c : Char) : Move :=
  if c = '-' then (.commentEnd, []) else stepComment c

def stepCommentEnd (c : Char) : Move :=
  if c = '>' then (.data, [.comment])
  else if c = '!' then (.commentEndBang, [])
  else if c = '-' then (.commentEnd, [])
  else stepComment c

def stepCommentEndBang (c : Char) : Move :=
  if c = '-' then (.commentEndDash, [])
  else if c = '>' then (.data, [.comment])
  else stepComment c

/-- Reads a character again in raw text, behind a text that turned out to be plain. -/
def rereadRaw (r : RawText) (text : String) (c : Char) : Move :=
  let (next, tokens) := stepRaw r c
  (next, .text text :: tokens)

def stepRawLess (r : RawText) (c : Char) : Move :=
  match r.mode with
  | .script .doubleEscaped =>
    if c = '/' then (.doubleEscapeEnd r "", [textToken c]) else stepRaw r c
  | .script .escaped =>
    if c = '/' then (.rawEndOpen r, [])
    else if c.isAlpha then
      (.doubleEscapeStart r (String.singleton c.toLower), [.text "<", textToken c])
    else rereadRaw r "<" c
  | .script .plain =>
    if c = '/' then (.rawEndOpen r, [])
    else if c = '!' then (.escapeStart r, [.text "<!"])
    else rereadRaw r "<" c
  | .replaceable | .verbatim => if c = '/' then (.rawEndOpen r, []) else rereadRaw r "<" c

def stepRawEndOpen (r : RawText) (c : Char) : Move :=
  if c.isAlpha then (.rawEndName r (String.singleton c), []) else rereadRaw r "</" c

def lowercase (s : String) : String := String.ofList (s.toList.map Char.toLower)

/-- An end tag leaves raw text only if it has the name of the element. -/
def stepRawEndName (r : RawText) (written : String) (c : Char) : Move :=
  let tag : Draft := ⟨true, lowercase written, []⟩
  if tag.name = r.element ∧ isSpace c then (.beforeAttribute tag, [])
  else if tag.name = r.element ∧ c = '/' then (.selfClosing tag, [])
  else if tag.name = r.element ∧ c = '>' then tag.emit false
  else if c.isAlpha then (.rawEndName r (written.push c), [])
  else rereadRaw r ("</" ++ written) c

def stepEscapeStart (r : RawText) (c : Char) : Move :=
  if c = '-' then (.escapeStartDash r, [textToken c]) else stepRaw r c

def stepEscapeStartDash (r : RawText) (c : Char) : Move :=
  if c = '-' then (.escapedDashDash (r.withScript .escaped), [textToken c]) else stepRaw r c

def stepEscapedDash (r : RawText) (c : Char) : Move :=
  if c = '-' then (.escapedDashDash r, [textToken c]) else stepRaw r c

def stepEscapedDashDash (r : RawText) (c : Char) : Move :=
  if c = '-' then (.escapedDashDash r, [textToken c])
  else if c = '>' then (.raw (r.withScript .plain), [textToken c])
  else stepRaw r c

def endsWord (c : Char) : Bool := isSpace c || c == '/' || c == '>'

/-- A word behind `<` in an escaped script; the word `script` escapes it once more. -/
def stepDoubleEscapeStart (r : RawText) (word : String) (c : Char) : Move :=
  if endsWord c then
    (.raw (if word = "script" then r.withScript .doubleEscaped else r), [textToken c])
  else if c.isAlpha then (.doubleEscapeStart r (word.push c.toLower), [textToken c])
  else stepRaw r c

def stepDoubleEscapeEnd (r : RawText) (word : String) (c : Char) : Move :=
  if endsWord c then
    (.raw (if word = "script" then r.withScript .escaped else r), [textToken c])
  else if c.isAlpha then (.doubleEscapeEnd r (word.push c.toLower), [textToken c])
  else stepRaw r c

def Place.inValue : Place → Bool
  | .value _ => true
  | _ => false

/-- Puts the text of a reference where the reference stands. -/
def Place.put : Place → String → Move
  | .data, text => (.data, [.text text])
  | .raw r, text => (.raw r, [.text text])
  | .value v, text => (.value { v with value := v.value ++ text }, [])

/-- Puts a text and reads the character behind it. -/
def Place.putThen : Place → String → Char → Move
  | .data, text, c => let (next, tokens) := stepData c; (next, .text text :: tokens)
  | .raw r, text, c => rereadRaw r text c
  | .value v, text, c => stepValue { v with value := v.value ++ text } c

def stepReference (place : Place) (r : Reference) (c : Char) : Move :=
  match r.step place.inValue c with
  | .more r => (.reference place r, [])
  | .done text true => place.put text
  | .done text false => place.putThen text c

def State.step : State → Char → Move
  | .data, c => stepData c
  | .tagOpen, c => stepTagOpen c
  | .endTagOpen, c => stepEndTagOpen c
  | .tagName tag, c => stepTagName tag c
  | .beforeAttribute tag, c => stepBeforeAttribute tag c
  | .attributeName tag name, c => stepAttributeName tag name c
  | .afterAttributeName tag name, c => stepAfterAttributeName tag name c
  | .beforeValue tag name, c => stepBeforeValue tag name c
  | .value v, c => stepValue v c
  | .selfClosing tag, c => stepSelfClosing tag c
  | .declaration, c => stepDeclaration c
  | .declarationDash, c => stepDeclarationDash c
  | .doctypeWord missing, c => stepDoctypeWord missing c
  | .commentStart, c => stepCommentStart c
  | .commentStartDash, c => stepCommentStartDash c
  | .comment, c => stepComment c
  | .commentEndDash, c => stepCommentEndDash c
  | .commentEnd, c => stepCommentEnd c
  | .commentEndBang, c => stepCommentEndBang c
  | .bogusComment, c => stepBogusComment c
  | .doctype, c => stepDoctype c
  | .raw r, c => stepRaw r c
  | .rawLess r, c => stepRawLess r c
  | .rawEndOpen r, c => stepRawEndOpen r c
  | .rawEndName r written, c => stepRawEndName r written c
  | .escapeStart r, c => stepEscapeStart r c
  | .escapeStartDash r, c => stepEscapeStartDash r c
  | .escapedDash r, c => stepEscapedDash r c
  | .escapedDashDash r, c => stepEscapedDashDash r c
  | .doubleEscapeStart r word, c => stepDoubleEscapeStart r word c
  | .doubleEscapeEnd r word, c => stepDoubleEscapeEnd r word c
  | .reference place r, c => stepReference place r c

/-- What is left to say when the input ends. -/
def State.finish : State → List Token
  | .tagOpen => [.text "<"]
  | .endTagOpen => [.text "</"]
  | .declaration | .declarationDash | .doctypeWord _ | .commentStart | .commentStartDash
  | .comment | .commentEndDash | .commentEnd | .commentEndBang | .bogusComment => [.comment]
  | .doctype => [.doctype]
  | .rawLess r => if r.mode = .script .doubleEscaped then [] else [.text "<"]
  | .rawEndOpen _ => [.text "</"]
  | .rawEndName _ written => [.text ("</" ++ written)]
  | .reference place r => (place.put (r.finish place.inValue)).2
  | _ => []

/-- Reads the rest of the input from a state, behind the tokens found so far. -/
def State.run : State → Array Token → List Char → Array Token
  | s, found, [] => found ++ s.finish ++ [Token.endOfInput]
  | s, found, c :: cs => let (next, tokens) := s.step c; next.run (found ++ tokens) cs

/-- The tokens found before do not change those that follow. -/
theorem State.toList_run (s : State) (found : Array Token) (cs : List Char) :
    (s.run found cs).toList = found.toList ++ (s.run #[] cs).toList := by
  induction cs generalizing s found with
  | nil => simp [State.run]
  | cons c cs ih =>
    rw [State.run, State.run, ih (s.step c).1 (found ++ (s.step c).2),
      ih (s.step c).1 (#[] ++ (s.step c).2)]
    simp

/-- A line ends in a line feed, however it is written. -/
def unifyNewlines : List Char → List Char
  | [] => []
  | '\r' :: '\n' :: cs => '\n' :: unifyNewlines cs
  | '\r' :: cs => '\n' :: unifyNewlines cs
  | c :: cs => c :: unifyNewlines cs

/-- A byte order mark at the start is no part of the text. -/
def dropMark : List Char → List Char
  | [] => []
  | c :: cs => if c = '\ufeff' then cs else c :: cs

def tokens (html : String) : List Token :=
  (State.data.run #[] (unifyNewlines (dropMark html.toList))).toList

end MarkupChain.Markup
