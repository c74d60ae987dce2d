import MarkupChain.Proofs.Component.Emission
import MarkupChain.Proofs.Script.Brackets
import MarkupChain.Proofs.Text.Escaping

/-!
# Emitted code is uniquely readable

The view of an element is what its component shows: the constructor, the class, the style, the state
of an input, the properties and the content. A view can be read back from the chain of an element,
call by call, and the chain can be read back from its compact text. So elements with the same code
have the same view.
-/

namespace MarkupChain.Component

open Markup Script

/-! ## Views -/

/-- What the chain of an element says before its content. -/
structure Shape where
  builder : String
  className : Option String := none
  style : List (String × String) := []
  /-- Only inputs have a value here and can be checked. -/
  value : Option String := none
  checked : Bool := false
  properties : List (String × PropertyValue) := []

mutual

inductive View where
  | text (content : String)
  | element (shape : Shape) (content : Content)

/-- A text area shows its text, every other element its children. -/
inductive Content where
  | area (text : Option String)
  | children (views : List View)

end

def Shape.ofTag (tag : Tag) : Shape where
  builder := constructorName tag
  className := nonEmpty? tag "class"
  style := styles ((tag.value? "style").getD "")
  value := if tag.name = "input" then nonEmpty? tag "value" else none
  checked := tag.name = "input" && (tag.value? "checked").isSome
  properties := Component.properties (Kind.ofTag tag.name) tag.attributes

mutual

def view (o : Options) : Node → View
  | .text content => .text content
  | .element tag children =>
    .element (.ofTag tag) (if tag.name = "textarea" then .area ((areaText? children).map Text.trim)
      else .children (views o children))

/-- The views of the children that are kept. -/
def views (o : Options) : List Node → List View
  | [] => []
  | node :: rest => if isKept o node then view o node :: views o rest else views o rest

end

/-! ## Views are read back from chains -/

def readText : Expr → String
  | .literal text => Text.readQuoted text
  | _ => ""

def readProperty : Expr → PropertyValue
  | .literal text => .text (Text.readQuoted text)
  | _ => .flag

/-- The entries of an object that is the only argument. -/
def readEntries {α : Type} (value : Expr → α) : List Expr → List (String × α)
  | [.object entries] => entries.map fun (key, e) => (Text.readQuoted key, value e)
  | _ => []

/-- What a further call adds to a view; `views` are those of its arguments. -/
def View.call (name : String) (args : List Expr) (views : List View) : View → View
  | .text content => .text content
  | .element shape content =>
    if name = "style" then .element { shape with style := readEntries readText args } content
    else if name = "checked" then .element { shape with checked := true } content
    else if name = "props" then
      .element { shape with properties := readEntries readProperty args } content
    else if name = "children" then .element shape (.children views)
    else match content with
      | .area _ => .element shape (.area (args.head?.map readText))
      | .children _ => .element { shape with value := args.head?.map readText } content

section Calls

variable (shape : Shape) (content : Content) (args : List Expr) (views : List View)

@[simp] theorem View.call_style : (View.element shape content).call "style" args views =
    .element { shape with style := readEntries readText args } content := rfl

@[simp] theorem View.call_checked : (View.element shape content).call "checked" args views =
    .element { shape with checked := true } content := rfl

@[simp] theorem View.call_props : (View.element shape content).call "props" args views =
    .element { shape with properties := readEntries readProperty args } content := rfl

@[simp] theorem View.call_children : (View.element shape content).call "children" args views =
    .element shape (.children views) := rfl

@[simp] theorem View.call_value_area (text : Option String) :
    (View.element shape (.area text)).call "value" args views =
      .element shape (.area (args.head?.map readText)) := rfl

@[simp] theorem View.call_value_children (before : List View) :
    (View.element shape (.children before)).call "value" args views =
      .element { shape with value := args.head?.map readText } (.children before) := rfl

end Calls

/-- What a constructor shows by itself. -/
def View.construct (builder : String) (args : List Expr) : View :=
  .element { builder := builder, className := args.head?.map readText }
    (if builder = "textarea" then .area none else .children [])

mutual

def readView : Expr → View
  | .literal text => .text (Text.readQuoted text)
  | .call (.member (.ident _) name) args => .construct name args
  | .call (.member target name) args => (readView target).call name args (readViews args)
  | _ => .text ""

def readViews : List Expr → List View
  | [] => []
  | e :: rest => readView e :: readViews rest

end

/-- The calls of a chain are read one after the other. -/
def View.calls (v : View) (calls : List Call) : View :=
  calls.foldl (fun v c => v.call c.name c.args (readViews c.args)) v

@[simp] theorem View.calls_nil (v : View) : v.calls [] = v := rfl

@[simp] theorem View.calls_cons (v : View) (c : Call) (calls : List Call) :
    v.calls (c :: calls) = (v.call c.name c.args (readViews c.args)).calls calls := rfl

theorem View.calls_append (v : View) (calls more : List Call) :
    v.calls (calls ++ more) = (v.calls calls).calls more := by simp [View.calls]

theorem readView_chainOn (callee : Expr) (args : List Expr) (calls : List Call) :
    readView (chainOn (.call callee args) calls) = (readView (.call callee args)).calls calls := by
  induction calls generalizing callee args with
  | nil => rfl
  | cons c calls ih =>
    rw [chainOn_cons, Call.on, ih, View.calls_cons, readView]
    intro name hname
    cases hname

/-- The text of the only argument, if there is one. -/
theorem head?_map_readText {text? : Option String} (h : ∀ s ∈ text?, '\\' ∉ s.toList) :
    ((text?.map quoted).toList).head?.map readText = text? := by
  cases text? with
  | none => rfl
  | some text => exact congrArg some (Text.readQuoted_quote (h text rfl))

theorem readEntries_object {α : Type} {value : Expr → α} {expr : α → Expr}
    {pairs : List (String × α)}
    (h : ∀ pair ∈ pairs, '\\' ∉ pair.1.toList ∧ value (expr pair.2) = pair.2) :
    readEntries value [.object (pairs.map fun pair => (Text.quote pair.1, expr pair.2))] = pairs := by
  have hpair : ∀ pair ∈ pairs,
      (Text.readQuoted (Text.quote pair.1), value (expr pair.2)) = pair := by
    intro pair hp
    obtain ⟨hkey, hvalue⟩ := h pair hp
    rw [Text.readQuoted_quote hkey, hvalue]
  rw [readEntries, List.map_map]
  exact (List.map_congr_left hpair).trans (List.map_id _)

theorem readProperty_expr {value : PropertyValue} (h : ∀ s ∈ value.texts, '\\' ∉ s.toList) :
    readProperty value.expr = value := by
  cases value with
  | flag => rfl
  | text content =>
    have hcontent := h content (by simp [PropertyValue.texts])
    exact congrArg PropertyValue.text (Text.readQuoted_quote hcontent)

theorem constructorName_eq (tag : Tag) : constructorName tag =
    if tag.name = "input" then "input" ++ inputSubtype (tag.value? "type") else tag.name := by
  simp [constructorName, Kind.ofTag_eq_input]

/-- No input is built by the constructor of text areas. -/
theorem constructorName_eq_textarea (tag : Tag) :
    constructorName tag = "textarea" ↔ tag.name = "textarea" := by
  rw [constructorName_eq]
  split
  · next hi =>
    rw [hi]
    constructor
    · intro h
      have hhead := congrArg (·.toList.head?) h
      simp at hhead
    · intro h
      simp at h
  · rfl

/-- The content of an element before the call for it. -/
def Content.empty (tag : Tag) : Content :=
  if tag.name = "textarea" then .area none else .children []

variable {tag : Tag}

theorem readView_chainHead (h : ∀ s ∈ tagTexts tag, '\\' ∉ s.toList) :
    readView (chainHead tag) =
      .element ⟨constructorName tag, nonEmpty? tag "class", [], none, false, []⟩ (.empty tag) := by
  have hclass : ∀ s ∈ nonEmpty? tag "class", '\\' ∉ s.toList := by
    intro s hs
    exact h s (by simp [tagTexts, Option.mem_def.mp hs])
  have hcontent : (if constructorName tag = "textarea" then Content.area none else .children []) =
      .empty tag := by
    simp [Content.empty, constructorName_eq_textarea]
  rw [chainHead, Call.on, ← constructorName_eq, readView, View.construct, hcontent,
    head?_map_readText hclass]

theorem View.calls_styleCalls (h : ∀ s ∈ tagTexts tag, '\\' ∉ s.toList) (builder : String)
    (className : Option String) (content : Content) :
    (View.element ⟨builder, className, [], none, false, []⟩ content).calls (styleCalls tag) =
      .element ⟨builder, className, styles ((tag.value? "style").getD ""), none, false, []⟩
        content := by
  unfold styleCalls
  split
  · next hs => rw [hs, calls_nil]
  · next pair pairs hs =>
    have hpairs : ∀ p ∈ pair :: pairs, '\\' ∉ p.1.toList ∧ readText (quoted p.2) = p.2 := by
      intro p hp
      rw [← hs] at hp
      have hkey := h p.1 (mem_tagTexts_style hp (by simp))
      exact ⟨hkey, Text.readQuoted_quote (h p.2 (mem_tagTexts_style hp (by simp)))⟩
    rw [hs, calls_cons, calls_nil, call_style, readEntries_object hpairs]

theorem View.calls_inputCalls (h : ∀ s ∈ tagTexts tag, '\\' ∉ s.toList) (builder : String)
    (className : Option String) (style : List (String × String)) :
    (View.element ⟨builder, className, style, none, false, []⟩ (.empty tag)).calls
        (inputCalls tag) =
      .element ⟨builder, className, style, if tag.name = "input" then nonEmpty? tag "value" else none,
        tag.name = "input" && (tag.value? "checked").isSome, []⟩ (.empty tag) := by
  unfold inputCalls
  by_cases hi : tag.name = "input"
  · have hvalue : ∀ s ∈ nonEmpty? tag "value", '\\' ∉ s.toList := by
      intro s hs
      exact h s (by simp [tagTexts, hi, Option.mem_def.mp hs])
    have hempty : Content.empty tag = .children [] := by simp [Content.empty, hi]
    rw [if_pos hi, if_pos hi, calls_append, hempty]
    cases hv : nonEmpty? tag "value" with
    | none => cases hc : tag.value? "checked" <;> simp [hi]
    | some text =>
      have htext : readText (quoted text) = text := Text.readQuoted_quote (hvalue text hv)
      cases hc : tag.value? "checked" <;> simp [hi, htext]
  · rw [if_neg hi, if_neg hi, calls_nil]
    simp [hi]

theorem View.calls_propertyCalls (h : ∀ s ∈ tagTexts tag, '\\' ∉ s.toList) (shape : Shape)
    (hshape : shape.properties = []) (content : Content) :
    (View.element shape content).calls (propertyCalls tag) =
      .element { shape with properties := properties (Kind.ofTag tag.name) tag.attributes }
        content := by
  unfold propertyCalls
  split
  · next hs => rw [hs, calls_nil, ← hshape]
  · next pair pairs hs =>
    have hpairs : ∀ p ∈ pair :: pairs, '\\' ∉ p.1.toList ∧ readProperty p.2.expr = p.2 := by
      intro p hp
      rw [← hs] at hp
      have hname := h p.1 (mem_tagTexts_property hp (by simp))
      exact ⟨hname, readProperty_expr fun s hm => h s (mem_tagTexts_property hp (by simp [hm]))⟩
    rw [hs, calls_cons, calls_nil, call_props, readEntries_object hpairs]

theorem readView_opening (h : ∀ s ∈ tagTexts tag, '\\' ∉ s.toList) :
    (readView (chainHead tag)).calls (tagCalls tag) = .element (.ofTag tag) (.empty tag) := by
  rw [readView_chainHead h, tagCalls, View.calls_append, View.calls_append,
    View.calls_styleCalls h, View.calls_inputCalls h, View.calls_propertyCalls h _ rfl]
  rfl

theorem View.calls_contentCalls (shape : Shape) {children : List Node} {kept : List Expr}
    (h : tag.name = "textarea" → ∀ s ∈ areaText? children, '\\' ∉ (Text.trim s).toList) :
    (View.element shape (.empty tag)).calls (contentCalls tag children kept) =
      .element shape (if tag.name = "textarea" then .area ((areaText? children).map Text.trim)
        else .children (readViews kept)) := by
  unfold contentCalls
  by_cases ht : tag.name = "textarea"
  · rw [if_pos ht, if_pos ht, Content.empty, if_pos ht]
    cases ha : areaText? children with
    | none => rfl
    | some content =>
      have htext : readText (quoted (Text.trim content)) = Text.trim content :=
        Text.readQuoted_quote (h ht content ha)
      simp [htext]
  · rw [if_neg ht, if_neg ht, Content.empty, if_neg ht]
    cases kept with
    | nil => rfl
    | cons e rest => simp

mutual

theorem readView_chainExpr (o : Options) (node : Node)
    (h : ∀ s ∈ nodeTexts o node, '\\' ∉ s.toList) : readView (chainExpr o node) = view o node := by
  match node with
  | .text content =>
    exact congrArg View.text (Text.readQuoted_quote (h content (by simp [nodeTexts])))
  | .element tag children =>
    have htag : ∀ s ∈ tagTexts tag, '\\' ∉ s.toList := fun s hs => h s (by simp [nodeTexts, hs])
    have harea : tag.name = "textarea" →
        ∀ s ∈ areaText? children, '\\' ∉ (Text.trim s).toList := by
      intro ht s hs
      exact h _ (by simp [nodeTexts, ht, Option.mem_def.mp hs])
    rw [chainExpr, view, chainHead, Call.on, readView_chainOn, View.calls_append]
    change View.calls ((readView (chainHead tag)).calls (tagCalls tag)) _ = _
    rw [readView_opening htag, View.calls_contentCalls _ harea]
    by_cases ht : tag.name = "textarea"
    · rw [if_pos ht, if_pos ht]
    · rw [if_neg ht, if_neg ht, readViews_keptExprs o children]
      exact fun s hs => h s (by simp [nodeTexts, ht, hs])

theorem readViews_keptExprs (o : Options) (nodes : List Node)
    (h : ∀ s ∈ childTexts o nodes, '\\' ∉ s.toList) :
    readViews (keptExprs o nodes) = views o nodes := by
  match nodes with
  | [] => rfl
  | node :: rest =>
    rw [childTexts] at h
    rw [keptExprs, views]
    split
    · next hk =>
      rw [if_pos hk] at h
      rw [readViews, readView_chainExpr o node (fun s hs => h s (by simp [hs])),
        readViews_keptExprs o rest (fun s hs => h s (by simp [hs]))]
    · next hk =>
      rw [if_neg hk] at h
      exact readViews_keptExprs o rest h

end

/-! ## Chains are read back from their text -/

end MarkupChain.Component
