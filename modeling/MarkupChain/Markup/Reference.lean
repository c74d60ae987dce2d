import MarkupChain.Markup.ReferenceNames

/-!
# Character references

A reference is an ampersand followed by a name or by a number. It is read one character at a time;
what follows the ampersand is kept until the reference is complete or turns out to be plain text. Of
the names that a word starts with the longest counts. Inside an attribute value a name without its
semicolon is plain text if a letter, a digit or an equals sign follows.
-/

namespace MarkupChain.Markup

/-- What was read behind the ampersand. -/
inductive Reference where
  | start
  | named (name : String)
  | number
  /-- A number sign and the letter that announces hexadecimal digits. -/
  | hexMark (mark : Char)
  | decimal (value : Nat)
  | hexadecimal (value : Nat)
  deriving DecidableEq, Repr, Inhabited

inductive Reference.Outcome where
  | more (r : Reference)
  /-- The reference stands for `text`. The last character belongs to it if `taken`. -/
  | done (text : String) (taken : Bool)
  deriving DecidableEq, Repr, Inhabited

/-- What the code points 80 to 9F stand for. -/
def controlReplacements : List (Nat × Nat) :=
  [(0x80, 0x20AC), (0x82, 0x201A), (0x83, 0x0192), (0x84, 0x201E), (0x85, 0x2026), (0x86, 0x2020),
    (0x87, 0x2021), (0x88, 0x02C6), (0x89, 0x2030), (0x8A, 0x0160), (0x8B, 0x2039), (0x8C, 0x0152),
    (0x8E, 0x017D), (0x91, 0x2018), (0x92, 0x2019), (0x93, 0x201C), (0x94, 0x201D), (0x95, 0x2022),
    (0x96, 0x2013), (0x97, 0x2014), (0x98, 0x02DC), (0x99, 0x2122), (0x9A, 0x0161), (0x9B, 0x203A),
    (0x9C, 0x0153), (0x9E, 0x017E), (0x9F, 0x0178)]

def replacementChar : Char := '\ufffd'

/-- The character of a numeric reference. Zero and what is no character give the replacement
character. -/
def numberedChar (n : Nat) : Char :=
  if n = 0 then replacementChar
  else match controlReplacements.lookup n with
    | some m => Char.ofNat m
    | none => if n.isValidChar then Char.ofNat n else replacementChar

/-- The longest name that the characters start with, and its text. -/
def longestName? (cs : List Char) : Option (String × String) :=
  (referenceNames (cs.headD ' ')).foldl (fun best entry =>
    if entry.1.toList.isPrefixOf cs && best.all (·.1.length < entry.1.length) then some entry
    else best) none

/-- In an attribute value these keep a name before them from being a reference. -/
def guardsName (c : Char) : Bool := c.isAlphanum || c == '='

/-- A word behind an ampersand, with the character that ended it. -/
def resolveName (inValue : Bool) (word : List Char) (next : Option Char) : Reference.Outcome :=
  let plain : Reference.Outcome := .done ("&" ++ String.ofList word) false
  match longestName? (if next = some ';' then word ++ [';'] else word) with
  | none => plain
  | some (name, text) =>
    let rest := word.drop name.length
    if word.length < name.length then .done text true
    else if inValue && (rest.head?.or next).any guardsName then plain
    else .done (text ++ String.ofList rest) false

def decimalDigit? (c : Char) : Option Nat :=
  if c.isDigit then some (c.toNat - '0'.toNat) else none

def hexDigit? (c : Char) : Option Nat :=
  if c.isDigit then some (c.toNat - '0'.toNat)
  else if 'a' ≤ c ∧ c ≤ 'f' then some (c.toNat - 'a'.toNat + 10)
  else if 'A' ≤ c ∧ c ≤ 'F' then some (c.toNat - 'A'.toNat + 10)
  else none

/-- The end of a number; a semicolon belongs to it. -/
def closeNumber (n : Nat) (c : Char) : Reference.Outcome :=
  .done (String.singleton (numberedChar n)) (c == ';')

def Reference.step (inValue : Bool) : Reference → Char → Outcome
  | .start, c =>
    if c.isAlphanum then .more (.named (String.singleton c))
    else if c = '#' then .more .number
    else .done "&" false
  | .named name, c =>
    if c.isAlphanum then .more (.named (name.push c)) else resolveName inValue name.toList (some c)
  | .number, c =>
    if c = 'x' ∨ c = 'X' then .more (.hexMark c)
    else match decimalDigit? c with
      | some d => .more (.decimal d)
      | none => .done "&#" false
  | .hexMark mark, c =>
    match hexDigit? c with
    | some d => .more (.hexadecimal d)
    | none => .done ("&#" ++ String.singleton mark) false
  | .decimal n, c =>
    match decimalDigit? c with
    | some d => .more (.decimal (n * 10 + d))
    | none => closeNumber n c
  | .hexadecimal n, c =>
    match hexDigit? c with
    | some d => .more (.hexadecimal (n * 16 + d))
    | none => closeNumber n c

/-- The text of a reference that the end of the input ends. -/
def Reference.finish (inValue : Bool) : Reference → String
  | .start => "&"
  | .named name =>
    match resolveName inValue name.toList none with
    | .done text _ => text
    | .more _ => ""
  | .number => "&#"
  | .hexMark mark => "&#" ++ String.singleton mark
  | .decimal n | .hexadecimal n => String.singleton (numberedChar n)

end MarkupChain.Markup
