import MarkupChain.Proofs.Markup.Effects

/-!
# Tokens around raw text

Behind the start tag of a raw element the tokenizer says nothing but text until it says the end tag
of that name, whatever end tags, comments and character references the text seems to hold and
wherever the input ends. Each effect keeps track of the raw element that is open: either its text is
being read, or the end tag that will end it.
-/

namespace MarkupChain.Markup

/-- The names of the elements whose content is read as raw text. -/
def rawTags : List String :=
  ["script", "style", "xmp", "iframe", "noembed", "noframes", "textarea", "title"]

theorem rawMode?_eq_none_iff (name : String) : rawMode? name = none ↔ name ∉ rawTags := by
  unfold rawMode? rawTags
  grind

theorem isVoid_of_mem_rawTags : ∀ name ∈ rawTags, isVoid name = false := by decide

/-! ### What tokens may follow each other -/

/-- How a token changes which raw element is open. Inside one there is only text and its end tag, or
the input ends. -/
inductive Token.Leads : Option String → Token → Option String → Prop where
  | text (inside : Option String) (content : String) : Leads inside (.text content) inside
  | endOfInput (inside : Option String) : Leads inside .endOfInput inside
  | rawStart {tag : Tag} : tag.name ∈ rawTags → Leads none (.startTag tag false) (some tag.name)
  | plainStart {tag : Tag} {selfClosing : Bool} :
    selfClosing = true ∨ tag.name ∉ rawTags → Leads none (.startTag tag selfClosing) none
  | rawEnd (name : String) : Leads (some name) (.endTag name) none
  | plainEnd (name : String) : Leads none (.endTag name) none
  | comment : Leads none .comment none
  | doctype : Leads none .doctype none
  | null : Leads none .null none

/-- How tokens one after the other change which raw element is open. -/
inductive Leads : Option String → List Token → Option String → Prop where
  | nil (inside : Option String) : Leads inside [] inside
  | cons {a b c : Option String} {t : Token} {ts : List Token} :
    t.Leads a b → Leads b ts c → Leads a (t :: ts) c

theorem Leads.append {a b c : Option String} {ts us : List Token} (h : Leads a ts b)
    (hus : Leads b us c) : Leads a (ts ++ us) c := by
  induction h with
  | nil => exact hus
  | cons ht _ ih => exact .cons ht (ih hus)

theorem Token.Leads.single {a b : Option String} {t : Token} (h : t.Leads a b) :
    Markup.Leads a [t] b :=
  .cons h (.nil b)

/-! ### Where the tokenizer is -/

/-- The tag ends the raw element that is open, if one is. -/
def Draft.Ends (tag : Draft) (inside : Option String) : Prop :=
  ∀ name ∈ inside, tag.closing = true ∧ tag.name = name

theorem Draft.ends_none (tag : Draft) : tag.Ends none := by simp [Ends]

theorem Draft.Ends.add {tag : Draft} {inside : Option String} (h : tag.Ends inside)
    (name value : String) : (tag.add name value).Ends inside := by
  unfold Draft.add
  split
  · exact h
  · exact h

/-- Where the tokenizer can be while a raw element is open, or none is. -/
def Zone.Inside : Zone → Option String → Prop
  | .outside, inside | .naming _, inside => inside = none
  | .inTag tag _, inside => tag.Ends inside
  | .raw element, inside => inside = some element

/-- A finished tag is the end tag that the raw element waits for, or any tag if none is open. -/
theorem Draft.Ends.emit {tag : Draft} {inside : Option String} (h : tag.Ends inside)
    (selfClosing : Bool) :
    ∃ after, Leads inside (tag.emit selfClosing).2 after ∧
      (tag.emit selfClosing).1.zone.Inside after := by
  unfold Draft.emit
  cases inside with
  | some name =>
    obtain ⟨hclosing, rfl⟩ := h name rfl
    rw [if_pos hclosing]
    exact ⟨none, (Token.Leads.rawEnd tag.name).single, rfl⟩
  | none =>
    split
    · exact ⟨none, (Token.Leads.plainEnd tag.name).single, rfl⟩
    have hmode := rawMode?_eq_none_iff tag.name
    unfold contentState
    split
    · next mode hsome =>
      obtain ⟨rfl, hraw⟩ : selfClosing = false ∧ tag.name ∈ rawTags := by grind
      have hleads : Token.Leads none (.startTag ⟨tag.name, tag.attributes⟩ false) (some tag.name) :=
        .rawStart hraw
      exact ⟨some tag.name, hleads.single, rfl⟩
    · next hnone =>
      have hplain : selfClosing = true ∨ tag.name ∉ rawTags := by grind
      exact ⟨none, (Token.Leads.plainStart hplain).single, rfl⟩

/-- One effect. -/
theorem Effect.leads {a b : Zone} {ts : List Token} (h : Effect a ts b) {inside : Option String}
    (ha : a.Inside inside) : ∃ after, Leads inside ts after ∧ b.Inside after := by
  cases h with
  | text zone content => exact ⟨inside, (Token.Leads.text inside content).single, ha⟩
  | comment => cases ha; exact ⟨none, Token.Leads.comment.single, rfl⟩
  | doctype => cases ha; exact ⟨none, Token.Leads.doctype.single, rfl⟩
  | null => cases ha; exact ⟨none, Token.Leads.null.single, rfl⟩
  | start closing name => exact ⟨inside, .nil inside, ha⟩
  | rename tag name => exact ⟨inside, .nil inside, ha⟩
  | named tag => cases ha; exact ⟨none, .nil none, tag.ends_none⟩
  | openName tag c => exact ⟨inside, .nil inside, ha⟩
  | pushName tag name c => exact ⟨inside, .nil inside, ha⟩
  | add tag name value => exact ⟨inside, .nil inside, ha.add name value⟩
  | emit tag selfClosing => exact ha.emit selfClosing
  | leave element =>
    cases ha
    refine ⟨some element, .nil _, ?_⟩
    intro name hname
    exact ⟨rfl, Option.some.inj hname⟩

theorem Effects.leads {a b : Zone} {ts : List Token} (h : Effects a ts b) {inside : Option String}
    (ha : a.Inside inside) : ∃ after, Leads inside ts after ∧ b.Inside after := by
  induction h generalizing inside with
  | refl zone => exact ⟨inside, .nil inside, ha⟩
  | step hfirst _ ih =>
    obtain ⟨middle, htokens, hb⟩ := hfirst.leads ha
    obtain ⟨after, hmore, hc⟩ := ih hb
    exact ⟨after, htokens.append hmore, hc⟩

/-- Behind the start tag of a raw element the tokens of an input are text up to its end tag. -/
theorem leads_tokens (html : String) : ∃ after, Leads none (tokens html) after := by
  obtain ⟨ts, zone, htokens, heffects⟩ := effects_tokens html
  have hstart : Zone.outside.Inside none := rfl
  obtain ⟨after, hleads, -⟩ := heffects.leads hstart
  rw [htokens]
  exact ⟨after, hleads.append (Token.Leads.endOfInput after).single⟩

end MarkupChain.Markup
