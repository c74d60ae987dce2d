import MarkupChain.Proofs.Component.Emission
import MarkupChain.Proofs.Component.Properties

/-!
# Event handlers leave no trace

Neither an event handler nor a request for focus has a part in the chain of an element: no lookup
asks for it, and it becomes no property. So elements that differ in such attributes only, at
whatever depth, have the same code, and whatever is done with the code comes out the same. The
properties that are written have no name of a handler either, since renaming gives no such name, and
what is read back from well spelled code is what was written.
-/

namespace MarkupChain.Component

open Markup Script

/-- The names of event handlers, and `autofocus`. -/
def isMuted (name : String) : Bool := name.startsWith "on" || name == "autofocus"

theorem isMuted_eq (name : String) : isMuted name = (isHandler name || name == "autofocus") := by
  rw [isMuted, isHandler_eq]

def muteTag (tag : Tag) : Tag :=
  { tag with attributes := tag.attributes.filter fun a => !isMuted a.name }

mutual

/-- The node without the muted attributes of its elements. -/
def muteNode : Node → Node
  | .text content => .text content
  | .element tag children => .element (muteTag tag) (muteNodes children)

def muteNodes : List Node → List Node
  | [] => []
  | node :: rest => muteNode node :: muteNodes rest

end

def mute (e : Element) : Element := ⟨muteTag e.tag, muteNodes e.children⟩

theorem toNode_mute (e : Element) : (mute e).toNode = muteNode e.toNode := by
  rw [Element.toNode, Element.toNode, muteNode, mute]

/-! ## What a chain asks of a tag -/

theorem value?_muteTag {name : String} (h : isMuted name = false) (tag : Tag) :
    (muteTag tag).value? name = tag.value? name := by
  rw [Tag.value?, Tag.value?, muteTag, List.find?_filter]
  congr 2
  funext a
  by_cases ha : a.name = name
  · simp [ha, h]
  · simp [ha]

theorem property?_of_isMuted (kind : Kind) {a : Attribute} (h : isMuted a.name = true) :
    property? kind a = none := by
  rw [property?, isHandler_eq]
  by_cases hon : a.name.startsWith "on" = true
  · rw [if_pos hon]
  · have hfocus : a.name = "autofocus" := by simpa [isMuted, hon] using h
    rw [if_neg hon, hfocus]
    rfl

theorem properties_muteTag (kind : Kind) (tag : Tag) :
    properties kind (muteTag tag).attributes = properties kind tag.attributes := by
  rw [properties, properties, muteTag, List.filterMap_filter]
  congr 2
  funext a
  by_cases ha : isMuted a.name = true
  · simp [ha, property?_of_isMuted kind ha]
  · simp [ha]

/-- The names that are looked up when a chain is written. -/
theorem isMuted_of_mem_lookups :
    ∀ name ∈ ["class", "style", "type", "value", "checked"], isMuted name = false := by
  simp only [isMuted_eq]
  decide

theorem opening_muteTag (tag : Tag) : opening (muteTag tag) = opening tag := by
  have hname : (muteTag tag).name = tag.name := rfl
  have hvalue : ∀ name ∈ ["class", "style", "type", "value", "checked"],
      (muteTag tag).value? name = tag.value? name :=
    fun name h => value?_muteTag (isMuted_of_mem_lookups name h) tag
  simp only [List.forall_mem_cons] at hvalue
  obtain ⟨hclass, hstyle, htype, hvalue, hchecked, -⟩ := hvalue
  simp only [opening, construct, constructorName, withStyle, withInputState, withProperties,
    nonEmpty?, hname, hclass, hstyle, htype, hvalue, hchecked, properties_muteTag]

theorem areaText?_muteNodes (nodes : List Node) :
    areaText? (muteNodes nodes) = areaText? nodes := by
  cases nodes with
  | nil => rfl
  | cons node rest => cases node <;> rfl

mutual

theorem nodeExpr_muteNode (o : Options) (node : Node) :
    nodeExpr o (muteNode node) = nodeExpr o node := by
  match node with
  | .text content => rfl
  | .element tag children =>
    rw [muteNode, nodeExpr, nodeExpr, opening_muteTag, childExprs_muteNodes o children,
      withAreaText, areaText?_muteNodes, withAreaText]
    rfl

theorem childExprs_muteNodes (o : Options) (nodes : List Node) :
    childExprs o (muteNodes nodes) = childExprs o nodes := by
  match nodes with
  | [] => rfl
  | .text content :: rest =>
    rw [muteNodes, muteNode, childExprs, childExprs, childExprs_muteNodes o rest]
  | .element tag children :: rest =>
    have hnode := nodeExpr_muteNode o (.element tag children)
    rw [muteNodes, childExprs, ← hnode, ← childExprs_muteNodes o rest, muteNode, childExprs]

end

theorem elementExpr_mute (o : Options) (e : Element) :
    elementExpr o (mute e) = elementExpr o e := by
  rw [elementExpr, toNode_mute, nodeExpr_muteNode, elementExpr]

/-! ## What is written -/

/-- A renamed attribute is no handler, and the other names are kept. -/
theorem Becomes.startsWith_eq_false {kind : Kind} {a : Attribute} {name : String}
    (h : Becomes kind a name) : name.startsWith "on" = false := by
  obtain ⟨hon, hname⟩ := h
  rw [← isHandler_eq] at hon ⊢
  rw [Kind.property?] at hname
  split at hname
  · cases hname
  split at hname
  · cases hname
  split at hname
  · cases hname
    decide
  split at hname
  · cases hname
    decide
  · cases hname
    exact hon

theorem startsWith_of_mem_properties {kind : Kind} {attributes : List Attribute}
    {pair : String × PropertyValue} (h : pair ∈ properties kind attributes) :
    pair.1.startsWith "on" = false := by
  obtain ⟨a, _, ha⟩ := List.mem_filterMap.mp (Keyed.mem_of_mem_ofPairs h)
  exact (property?_eq_some_iff.mp ha).1.startsWith_eq_false

/-- An object given to `props` has quoted keys, and none of them starts with `on`. -/
def Call.Unhandled (c : Call) : Prop :=
  c.name = "props" → ∀ entries, .object entries ∈ c.args → ∀ entry ∈ entries,
    ∃ name, entry.1 = Text.quote name ∧ name.startsWith "on" = false

theorem tagCalls_unhandled (tag : Tag) : ∀ c ∈ tagCalls tag, c.Unhandled := by
  intro c hc
  rcases mem_tagCalls hc with ⟨_, rfl⟩ | ⟨text, _, _, rfl⟩ | rfl | ⟨_, rfl⟩
  · exact fun hname => absurd hname (by simp)
  · exact fun hname => absurd hname (by simp)
  · exact fun hname => absurd hname (by simp)
  · intro _ entries hentries entry hentry
    cases List.mem_singleton.mp hentries
    obtain ⟨pair, hpair, rfl⟩ := List.mem_map.mp hentry
    exact ⟨pair.1, rfl, startsWith_of_mem_properties hpair⟩

theorem contentCalls_unhandled {tag : Tag} {children : List Node} {kept : List Expr} :
    ∀ c ∈ contentCalls tag children kept, c.Unhandled := by
  intro c hc
  rcases mem_contentCalls hc with ⟨content, _, _, rfl⟩ | ⟨_, _, rfl⟩
  · exact fun hname => absurd hname (by simp)
  · exact fun hname => absurd hname (by simp)

/-- An element may be called `props`, but its constructor takes no object. -/
theorem chainHead_unhandled {tag : Tag} {c : Call} (h : chainHead tag = c.on (.ident "h")) :
    c.Unhandled := by
  obtain ⟨name, args⟩ := c
  cases h
  intro _ entries hentries
  obtain ⟨text, _, htext⟩ := Option.map_eq_some_iff.mp (Option.mem_toList.mp hentries)
  cases htext

theorem eachCall_unhandled (o : Options) (node : Node) :
    EachCall (fun _ c => c.Unhandled) (nodeExpr o node) := by
  rw [nodeExpr_eq]
  apply eachCall_chainExpr
  · exact fun tag c hc => chainHead_unhandled hc
  · exact fun tag c hc _ => tagCalls_unhandled tag c hc
  · exact fun tag children c hc _ => contentCalls_unhandled c hc

/-- Elements that are equal without their muted attributes have the same code, and formatting it
gives the same text or the same error. No object given to `props` has the key of a handler, neither
in what is written nor, if the names of the elements are words and no backslash in a text stands
alone, in what is read back from the text. -/
theorem handlers_do_not_interfere (o : Options) (w : Widths) :
    (∀ e₁ e₂ : Element, mute e₁ = mute e₂ →
      (elementExpr o e₁).compact = (elementExpr o e₂).compact ∧
      (definition o e₁).compact = (definition o e₂).compact ∧
      format w (definition o e₁).compact = format w (definition o e₂).compact) ∧
    (∀ (e : Element) (target : Expr) (args : List Expr) (entries : List (String × Expr)),
      .call (.member target "props") args ∈ subexprs (elementExpr o e) → .object entries ∈ args →
      ∀ entry ∈ entries, ∃ name, entry.1 = Text.quote name ∧ name.startsWith "on" = false) ∧
    ∀ e : Element, isComponentName o.name = true →
      (∀ tag ∈ nodeTags e.toNode, tag.name ≠ "input" → IsWord tag.name.toList) →
      (∀ s ∈ nodeTexts o e.toNode, EvenRuns s.toList) →
      ∃ ts d, tokenize (definition o e).compact = .ok ts ∧ Definition.ofTokens ts = .ok d ∧
        ∀ (target : Expr) (args : List Expr) (entries : List (String × Expr)),
          .call (.member target "props") args ∈ subexprs d.body → .object entries ∈ args →
          ∀ entry ∈ entries, ∃ name, entry.1 = Text.quote name ∧ name.startsWith "on" = false := by
  have hkeys : ∀ (node : Node) (target : Expr) (args : List Expr)
      (entries : List (String × Expr)),
      .call (.member target "props") args ∈ subexprs (nodeExpr o node) → .object entries ∈ args →
      ∀ entry ∈ entries, ∃ name, entry.1 = Text.quote name ∧ name.startsWith "on" = false :=
    fun node target args entries hcall =>
      eachCall_unhandled o node target ⟨"props", args⟩ hcall rfl entries
  refine ⟨?_, fun e => hkeys e.toNode, ?_⟩
  · intro e₁ e₂ h
    have hexpr : elementExpr o e₁ = elementExpr o e₂ := by
      rw [← elementExpr_mute, h, elementExpr_mute]
    rw [definition, definition, hexpr]
    exact ⟨rfl, rfl, rfl⟩
  · intro e hname htags htexts
    obtain ⟨ts, hts, hd⟩ := reads_definition hname htags htexts
    rw [← definition_eq] at hts
    rw [← nodeExpr_eq] at hd
    exact ⟨ts, _, hts, hd, hkeys e.toNode⟩

/-- A handler whose text would break a literal, a request for focus and a handler further inside. -/
theorem handlers_do_not_interfere_nested :
    (mute ⟨⟨"div", [⟨"onclick", "\\\""⟩, ⟨"id", "x"⟩]⟩, [.element ⟨"p", [⟨"autofocus", ""⟩]⟩ []]⟩ =
        mute ⟨⟨"div", [⟨"id", "x"⟩]⟩, [.element ⟨"p", [⟨"onfocus", "f()"⟩]⟩ []]⟩ ∧
      format ⟨2, 80⟩ (definition {} ⟨⟨"div", [⟨"onclick", "\\\""⟩, ⟨"id", "x"⟩]⟩,
          [.element ⟨"p", [⟨"autofocus", ""⟩]⟩ []]⟩).compact =
        format ⟨2, 80⟩ (definition {} ⟨⟨"div", [⟨"id", "x"⟩]⟩,
          [.element ⟨"p", [⟨"onfocus", "f()"⟩]⟩ []]⟩).compact) ∧
    (.call (.member (.call (.member (.ident "h") "div") []) "props")
        [.object [("\"id\"", .literal "\"x\"")]] ∈
        subexprs (elementExpr {} ⟨⟨"div", [⟨"onclick", "\\\""⟩, ⟨"id", "x"⟩]⟩, []⟩) ∧
      ∃ name, "\"id\"" = Text.quote name ∧ name.startsWith "on" = false) ∧
    ∃ ts d, tokenize (definition {} ⟨⟨"div", [⟨"onclick", "\\\""⟩, ⟨"id", "x"⟩]⟩, []⟩).compact =
        .ok ts ∧ Definition.ofTokens ts = .ok d ∧
      ∀ (target : Expr) (args : List Expr) (entries : List (String × Expr)),
        .call (.member target "props") args ∈ subexprs d.body → .object entries ∈ args →
        ∀ entry ∈ entries, ∃ name, entry.1 = Text.quote name ∧ name.startsWith "on" = false := by
  have hmute : mute ⟨⟨"div", [⟨"onclick", "\\\""⟩, ⟨"id", "x"⟩]⟩,
        [.element ⟨"p", [⟨"autofocus", ""⟩]⟩ []]⟩ =
      mute ⟨⟨"div", [⟨"id", "x"⟩]⟩, [.element ⟨"p", [⟨"onfocus", "f()"⟩]⟩ []]⟩ := by
    simp only [mute, muteNodes, muteNode, muteTag, isMuted_eq]
    rfl
  have hcall : .call (.member (.call (.member (.ident "h") "div") []) "props")
      [.object [("\"id\"", .literal "\"x\"")]] ∈
      subexprs (elementExpr {} ⟨⟨"div", [⟨"onclick", "\\\""⟩, ⟨"id", "x"⟩]⟩, []⟩) := .head _
  have htexts : ∀ s ∈ nodeTexts {} (.element ⟨"div", [⟨"onclick", "\\\""⟩, ⟨"id", "x"⟩]⟩ []),
      '\\' ∉ s.toList := by decide
  obtain ⟨hsame, hkeys, hread⟩ := handlers_do_not_interfere {} ⟨2, 80⟩
  exact ⟨⟨hmute, (hsame _ _ hmute).2.2⟩, ⟨hcall, hkeys _ _ _ _ hcall (.head _) _ (.head _)⟩,
    hread _ (by decide) (by decide) fun s hs => evenRuns_of_not_mem (htexts s hs)⟩

end MarkupChain.Component
