import MarkupChain.Proofs.Markup.RoundTrip

/-!
# What the tokenizer can do

Of a state only its zone matters here: outside of all tags, in the name of a tag, behind it with the
attribute that is being read, or in raw text. A character has few effects: text or another token is
said, a tag is started, named, given an attribute or finished, and raw text is left for the end tag
of its element. Whatever every effect keeps holds of the tokens of every input.
-/

namespace MarkupChain.Markup

inductive Zone where
  | outside
  | naming (tag : Draft)
  /-- With the name of the attribute that is being read. -/
  | inTag (tag : Draft) (reading : Option String)
  | raw (element : String)

def Place.zone : Place → Zone
  | .data => .outside
  | .raw r => .raw r.element
  | .value v => .inTag v.tag (some v.name)

def State.zone : State → Zone
  | .data | .tagOpen | .endTagOpen | .declaration | .declarationDash | .doctypeWord _
  | .commentStart | .commentStartDash | .comment | .commentEndDash | .commentEnd | .commentEndBang
  | .bogusComment | .doctype => .outside
  | .tagName tag => .naming tag
  | .beforeAttribute tag | .selfClosing tag => .inTag tag none
  | .attributeName tag name | .afterAttributeName tag name | .beforeValue tag name =>
    .inTag tag (some name)
  | .value v => .inTag v.tag (some v.name)
  | .raw r | .rawLess r | .rawEndOpen r | .rawEndName r _ | .escapeStart r | .escapeStartDash r
  | .escapedDash r | .escapedDashDash r | .doubleEscapeStart r _ | .doubleEscapeEnd r _ =>
    .raw r.element
  | .reference place _ => place.zone

/-- One thing that can happen, with the tokens that are said. -/
inductive Effect : Zone → List Token → Zone → Prop where
  | text (zone : Zone) (content : String) : Effect zone [.text content] zone
  | comment : Effect .outside [.comment] .outside
  | doctype : Effect .outside [.doctype] .outside
  | null : Effect .outside [.null] .outside
  | start (closing : Bool) (name : String) : Effect .outside [] (.naming ⟨closing, name, []⟩)
  | rename (tag : Draft) (name : String) :
    Effect (.naming tag) [] (.naming { tag with name := name })
  | named (tag : Draft) : Effect (.naming tag) [] (.inTag tag none)
  | openName (tag : Draft) (c : Char) :
    Effect (.inTag tag none) [] (.inTag tag (some (String.singleton c.toLower)))
  | pushName (tag : Draft) (name : String) (c : Char) :
    Effect (.inTag tag (some name)) [] (.inTag tag (some (name.push c.toLower)))
  | add (tag : Draft) (name value : String) :
    Effect (.inTag tag (some name)) [] (.inTag (tag.add name value) none)
  | emit (tag : Draft) (selfClosing : Bool) :
    Effect (.inTag tag none) (tag.emit selfClosing).2 (tag.emit selfClosing).1.zone
  | leave (element : String) : Effect (.raw element) [] (.inTag ⟨true, element, []⟩ none)

/-- Effects one after the other. -/
inductive Effects : Zone → List Token → Zone → Prop where
  | refl (zone : Zone) : Effects zone [] zone
  | step {a b c : Zone} {ts us : List Token} :
    Effect a ts b → Effects b us c → Effects a (ts ++ us) c

theorem Effects.trans {a b c : Zone} {ts us : List Token} (h : Effects a ts b)
    (hus : Effects b us c) : Effects a (ts ++ us) c := by
  induction h with
  | refl => exact hus
  | step hfirst _ ih =>
    rw [List.append_assoc]
    exact .step hfirst (ih hus)

theorem Effect.single {a b : Zone} {ts : List Token} (h : Effect a ts b) : Effects a ts b := by
  have hone := Effects.step h (.refl b)
  rwa [List.append_nil] at hone

/-- A move is made of effects. -/
def Move.Explained (m : Move) (zone : Zone) : Prop := Effects zone m.2 m.1.zone

section Steps

variable {zone next : Zone} {s : State} {m : Move}

theorem Move.Explained.stay (h : zone = s.zone) : Move.Explained (s, []) zone := by
  rw [h]
  exact .refl s.zone

theorem Move.Explained.quiet (h : Effect zone [] s.zone) : Move.Explained (s, []) zone := h.single

theorem Move.Explained.say {t : Token} (h : Effect zone [t] s.zone) :
    Move.Explained (s, [t]) zone :=
  h.single

theorem Move.Explained.behind (h : Effect zone [] next) (hm : m.Explained next) :
    m.Explained zone :=
  .step h hm

theorem Move.Explained.behindText (content : String) (hm : m.Explained zone) :
    Move.Explained (m.1, .text content :: m.2) zone :=
  .step (.text zone content) hm

theorem Move.Explained.text (content : String) (h : zone = s.zone) :
    Move.Explained (s, [.text content]) zone :=
  .behindText content (.stay h)

theorem Move.Explained.textToken (c : Char) (h : zone = s.zone) :
    Move.Explained (s, [textToken c]) zone :=
  .text _ h

theorem explained_emit (tag : Draft) (selfClosing : Bool) :
    (tag.emit selfClosing).Explained (.inTag tag none) :=
  (Effect.emit tag selfClosing).single

theorem explained_stepData (c : Char) : (stepData c).Explained .outside := by
  unfold stepData
  split
  · exact .stay rfl
  split
  · exact .stay rfl
  split
  · exact .say .null
  · exact .textToken c rfl

/-! ### Tags -/

theorem explained_stepBeforeAttribute (tag : Draft) (c : Char) :
    (stepBeforeAttribute tag c).Explained (.inTag tag none) := by
  unfold stepBeforeAttribute
  split
  · exact .stay rfl
  split
  · exact .stay rfl
  split
  · exact explained_emit tag false
  · exact .quiet (.openName tag _)

theorem explained_stepTagName (tag : Draft) (c : Char) :
    (stepTagName tag c).Explained (.naming tag) := by
  unfold stepTagName
  split
  · exact .quiet (.named tag)
  split
  · exact .quiet (.named tag)
  split
  · exact .behind (.named tag) (explained_emit tag false)
  · exact .quiet (.rename tag _)

theorem explained_stepAttributeName (tag : Draft) (name : String) (c : Char) :
    (stepAttributeName tag name c).Explained (.inTag tag (some name)) := by
  unfold stepAttributeName
  split
  · exact .stay rfl
  split
  · exact .quiet (.add tag name "")
  split
  · exact .stay rfl
  split
  · exact .behind (.add tag name "") (explained_emit _ false)
  · exact .quiet (.pushName tag name _)

theorem explained_stepAfterAttributeName (tag : Draft) (name : String) (c : Char) :
    (stepAfterAttributeName tag name c).Explained (.inTag tag (some name)) := by
  unfold stepAfterAttributeName
  split
  · exact .stay rfl
  split
  · exact .stay rfl
  · exact .behind (.add tag name "") (explained_stepBeforeAttribute _ c)

theorem explained_stepValue (v : ValueDraft) (c : Char) :
    (stepValue v c).Explained (.inTag v.tag (some v.name)) := by
  have hclose : Effect (.inTag v.tag (some v.name)) [] (.inTag v.close none) :=
    .add v.tag v.name v.value
  unfold stepValue
  split
  · exact .stay rfl
  split
  · split
    · exact .quiet hclose
    · exact .stay rfl
  · split
    · exact .quiet hclose
    · exact .stay rfl
  · split
    · exact .quiet hclose
    split
    · exact .behind hclose (explained_emit v.close false)
    · exact .stay rfl

theorem explained_stepBeforeValue (tag : Draft) (name : String) (c : Char) :
    (stepBeforeValue tag name c).Explained (.inTag tag (some name)) := by
  unfold stepBeforeValue
  split
  · exact .stay rfl
  split
  · exact .stay rfl
  split
  · exact .stay rfl
  split
  · exact .behind (.add tag name "") (explained_emit _ false)
  · exact explained_stepValue ⟨tag, .none, name, ""⟩ c

theorem explained_stepSelfClosing (tag : Draft) (c : Char) :
    (stepSelfClosing tag c).Explained (.inTag tag none) := by
  unfold stepSelfClosing
  split
  · exact explained_emit tag true
  · exact explained_stepBeforeAttribute tag c

theorem explained_stepTagOpen (c : Char) : (stepTagOpen c).Explained .outside := by
  unfold stepTagOpen
  split
  · exact .stay rfl
  split
  · exact .stay rfl
  split
  · exact .stay rfl
  split
  · exact .quiet (.start false _)
  · exact .behindText "<" (explained_stepData c)

theorem explained_stepEndTagOpen (c : Char) : (stepEndTagOpen c).Explained .outside := by
  unfold stepEndTagOpen
  split
  · exact .stay rfl
  split
  · exact .quiet (.start true _)
  · exact .stay rfl

/-! ### Comments and document types -/

theorem explained_stepBogusComment (c : Char) : (stepBogusComment c).Explained .outside := by
  unfold stepBogusComment
  split
  · exact .say .comment
  · exact .stay rfl

theorem explained_stepDoctype (c : Char) : (stepDoctype c).Explained .outside := by
  unfold stepDoctype
  split
  · exact .say .doctype
  · exact .stay rfl

theorem explained_stepDoctypeWord (missing : List Char) (c : Char) :
    (stepDoctypeWord missing c).Explained .outside := by
  unfold stepDoctypeWord
  split
  · exact explained_stepDoctype c
  split
  · split
    · exact .stay rfl
    · exact .stay rfl
  · exact explained_stepBogusComment c

theorem explained_stepDeclaration (c : Char) : (stepDeclaration c).Explained .outside := by
  unfold stepDeclaration
  split
  · exact .stay rfl
  · exact explained_stepDoctypeWord _ c

theorem explained_stepDeclarationDash (c : Char) : (stepDeclarationDash c).Explained .outside := by
  unfold stepDeclarationDash
  split
  · exact .stay rfl
  · exact explained_stepBogusComment c

theorem explained_stepComment (c : Char) : (stepComment c).Explained .outside := by
  unfold stepComment
  split
  · exact .stay rfl
  · exact .stay rfl

/-- Where a `>` ends a comment early, also behind a dash. -/
theorem explained_earlyEnd (c : Char) (h : .outside = s.zone) :
    Move.Explained (if c = '-' then (s, []) else if c = '>' then (.data, [.comment])
      else stepComment c) .outside := by
  split
  · exact .stay h
  split
  · exact .say .comment
  · exact explained_stepComment c

theorem explained_stepCommentEndDash (c : Char) : (stepCommentEndDash c).Explained .outside := by
  unfold stepCommentEndDash
  split
  · exact .stay rfl
  · exact explained_stepComment c

theorem explained_stepCommentEnd (c : Char) : (stepCommentEnd c).Explained .outside := by
  unfold stepCommentEnd
  split
  · exact .say .comment
  split
  · exact .stay rfl
  split
  · exact .stay rfl
  · exact explained_stepComment c

/-! ### Raw text -/

theorem explained_stepRaw (r : RawText) (c : Char) : (stepRaw r c).Explained (.raw r.element) := by
  unfold stepRaw
  split
  · split
    · exact .stay rfl
    split
    · exact .stay rfl
    · exact .textToken _ rfl
  · split
    · exact .stay rfl
    · exact .textToken _ rfl
  · split
    · exact .stay rfl
    · exact .textToken _ rfl
  · split
    · exact .textToken _ rfl
    split
    · exact .stay rfl
    · exact .textToken _ rfl
  · split
    · exact .textToken _ rfl
    split
    · exact .textToken _ rfl
    · exact .textToken _ rfl

theorem explained_rereadRaw (r : RawText) (text : String) (c : Char) :
    (rereadRaw r text c).Explained (.raw r.element) :=
  .behindText text (explained_stepRaw r c)

theorem explained_stepRawLess (r : RawText) (c : Char) :
    (stepRawLess r c).Explained (.raw r.element) := by
  unfold stepRawLess
  split
  · split
    · exact .textToken _ rfl
    · exact explained_stepRaw r c
  · split
    · exact .stay rfl
    split
    · have hletter : Move.Explained
          (.doubleEscapeStart r (String.singleton c.toLower), [textToken c]) (.raw r.element) :=
        .textToken c rfl
      exact .behindText "<" hletter
    · exact explained_rereadRaw r "<" c
  · split
    · exact .stay rfl
    split
    · exact .text "<!" rfl
    · exact explained_rereadRaw r "<" c
  · split
    · exact .stay rfl
    · exact explained_rereadRaw r "<" c
  · split
    · exact .stay rfl
    · exact explained_rereadRaw r "<" c

theorem explained_stepRawEndOpen (r : RawText) (c : Char) :
    (stepRawEndOpen r c).Explained (.raw r.element) := by
  unfold stepRawEndOpen
  split
  · exact .stay rfl
  · exact explained_rereadRaw r "</" c

/-- Only the name of the element leads out of raw text. -/
theorem explained_stepRawEndName (r : RawText) (written : String) (c : Char) :
    (stepRawEndName r written c).Explained (.raw r.element) := by
  have hleave : lowercase written = r.element →
      Effect (.raw r.element) [] (.inTag ⟨true, lowercase written, []⟩ none) := by
    intro hname
    rw [hname]
    exact .leave r.element
  unfold stepRawEndName
  dsimp only
  split
  · next h => exact .quiet (hleave h.1)
  split
  · next h => exact .quiet (hleave h.1)
  split
  · next h => exact .behind (hleave h.1) (explained_emit _ false)
  split
  · exact .stay rfl
  · exact explained_rereadRaw r _ c

/-- A dash on the way into or out of a comment of a script. -/
theorem explained_dash (r : RawText) (c : Char) (h : .raw r.element = s.zone) :
    Move.Explained (if c = '-' then (s, [textToken c]) else stepRaw r c) (.raw r.element) := by
  split
  · exact .textToken c h
  · exact explained_stepRaw r c

theorem explained_stepEscapedDashDash (r : RawText) (c : Char) :
    (stepEscapedDashDash r c).Explained (.raw r.element) := by
  unfold stepEscapedDashDash
  split
  · exact .textToken c rfl
  split
  · exact .textToken c rfl
  · exact explained_stepRaw r c

/-- A word behind `<` in a comment of a script, which may change how the script is read on. -/
theorem explained_word (r : RawText) (mode : ScriptMode) (word : String) (c : Char)
    (h : .raw r.element = s.zone) :
    Move.Explained
      (if endsWord c then (.raw (if word = "script" then r.withScript mode else r), [textToken c])
        else if c.isAlpha then (s, [textToken c]) else stepRaw r c) (.raw r.element) := by
  split
  · refine .textToken c ?_
    split
    · rfl
    · rfl
  split
  · exact .textToken c h
  · exact explained_stepRaw r c

/-! ### References -/

theorem explained_put (place : Place) (text : String) :
    (place.put text).Explained place.zone := by
  cases place with
  | data => exact .text text rfl
  | raw r => exact .text text rfl
  | value v => exact .stay rfl

theorem explained_putThen (place : Place) (text : String) (c : Char) :
    (place.putThen text c).Explained place.zone := by
  cases place with
  | data => exact .behindText text (explained_stepData c)
  | raw r => exact explained_rereadRaw r text c
  | value v => exact explained_stepValue { v with value := v.value ++ text } c

theorem explained_stepReference (place : Place) (r : Reference) (c : Char) :
    (stepReference place r c).Explained place.zone := by
  unfold stepReference
  split
  · exact .stay rfl
  · exact explained_put place _
  · exact explained_putThen place _ c

end Steps

/-! ### Runs -/

/-- One character of the input. -/
theorem State.explained_step (s : State) (c : Char) : (s.step c).Explained s.zone := by
  cases s with
  | data => exact explained_stepData c
  | tagOpen => exact explained_stepTagOpen c
  | endTagOpen => exact explained_stepEndTagOpen c
  | tagName tag => exact explained_stepTagName tag c
  | beforeAttribute tag => exact explained_stepBeforeAttribute tag c
  | attributeName tag name => exact explained_stepAttributeName tag name c
  | afterAttributeName tag name => exact explained_stepAfterAttributeName tag name c
  | beforeValue tag name => exact explained_stepBeforeValue tag name c
  | value v => exact explained_stepValue v c
  | selfClosing tag => exact explained_stepSelfClosing tag c
  | declaration => exact explained_stepDeclaration c
  | declarationDash => exact explained_stepDeclarationDash c
  | doctypeWord missing => exact explained_stepDoctypeWord missing c
  | commentStart => exact explained_earlyEnd c rfl
  | commentStartDash => exact explained_earlyEnd c rfl
  | comment => exact explained_stepComment c
  | commentEndDash => exact explained_stepCommentEndDash c
  | commentEnd => exact explained_stepCommentEnd c
  | commentEndBang => exact explained_earlyEnd c rfl
  | bogusComment => exact explained_stepBogusComment c
  | doctype => exact explained_stepDoctype c
  | raw r => exact explained_stepRaw r c
  | rawLess r => exact explained_stepRawLess r c
  | rawEndOpen r => exact explained_stepRawEndOpen r c
  | rawEndName r written => exact explained_stepRawEndName r written c
  | escapeStart r => exact explained_dash r c rfl
  | escapeStartDash r => exact explained_dash r c rfl
  | escapedDash r => exact explained_dash r c rfl
  | escapedDashDash r => exact explained_stepEscapedDashDash r c
  | doubleEscapeStart r word => exact explained_word r .doubleEscaped word c rfl
  | doubleEscapeEnd r word => exact explained_word r .escaped word c rfl
  | reference place r => exact explained_stepReference place r c

theorem State.explained_read (s : State) (cs : List Char) : (s.read cs).Explained s.zone := by
  induction cs generalizing s with
  | nil => exact .stay rfl
  | cons c cs ih => exact (s.explained_step c).trans (ih (s.step c).1)

/-- What is said when the input ends. -/
theorem State.effects_finish (s : State) : Effects s.zone s.finish s.zone := by
  cases s with
  | tagOpen | endTagOpen | rawEndOpen r | rawEndName r written => exact (Effect.text _ _).single
  | rawLess r =>
    rw [State.finish]
    split
    · exact .refl _
    · exact (Effect.text _ "<").single
  | declaration | declarationDash | doctypeWord missing | commentStart | commentStartDash | comment
  | commentEndDash | commentEnd | commentEndBang | bogusComment => exact Effect.comment.single
  | doctype => exact Effect.doctype.single
  | reference place r =>
    cases place with
    | data | raw r => exact (Effect.text _ _).single
    | value v => exact .refl _
  | data | tagName tag | beforeAttribute tag | attributeName tag name | afterAttributeName tag name
  | beforeValue tag name | value v | selfClosing tag | raw r | escapeStart r | escapeStartDash r
  | escapedDash r | escapedDashDash r | doubleEscapeStart r word | doubleEscapeEnd r word =>
    exact .refl _

/-- The tokens of an input, up to the one that marks its end. -/
theorem effects_tokens (html : String) :
    ∃ ts zone, tokens html = ts ++ [.endOfInput] ∧ Effects .outside ts zone := by
  have hread := State.data.explained_read (unifyNewlines (dropMark html.toList))
  rw [tokens, State.toList_run_eq]
  exact ⟨_, _, rfl, hread.trans (State.effects_finish _)⟩

end MarkupChain.Markup
