import MarkupChain.Component.Emit
import MarkupChain.Proofs.Markup.RawTokens

/-!
# Raw elements hold text only

The forest keeps a raw element innermost from its start tag to its end tag, since only text comes
between them. So in parsed markup a raw element has no child or one text, and nothing of a text area
is lost when its chain is written, blanks at both ends apart.
-/

namespace MarkupChain.Markup

mutual

/-- The element itself and all elements inside it. -/
def Node.elements : Node → List Element
  | .text _ => []
  | .element tag children => ⟨tag, children⟩ :: nodesElements children

def nodesElements : List Node → List Element
  | [] => []
  | n :: rest => n.elements ++ nodesElements rest

end

theorem mem_nodesElements {e : Element} {nodes : List Node} :
    e ∈ nodesElements nodes ↔ ∃ n ∈ nodes, e ∈ n.elements := by
  induction nodes with
  | nil => simp [nodesElements]
  | cons n rest ih => simp [nodesElements, ih]

/-- There is no child, or one text. -/
def OnlyText (children : List Node) : Prop :=
  children = [] ∨ ∃ content, children = [.text content]

theorem OnlyText.reverse {children : List Node} (h : OnlyText children) :
    children.reverse = children := by
  rcases h with rfl | ⟨content, rfl⟩
  · rfl
  · rfl

theorem OnlyText.addText {children : List Node} (h : OnlyText children) (content : String) :
    OnlyText (addText content children) := by
  rcases h with rfl | ⟨before, rfl⟩
  · exact .inr ⟨content, rfl⟩
  · exact .inr ⟨before ++ content, rfl⟩

/-- Each raw element in the node holds text only. -/
def Node.Sealed (n : Node) : Prop := ∀ e ∈ n.elements, e.tag.name ∈ rawTags → OnlyText e.children

theorem Node.sealed_text (content : String) : (Node.text content).Sealed := by
  simp [Sealed, elements]

theorem Node.sealed_element (tag : Tag) (children : List Node) :
    (Node.element tag children).Sealed ↔
      (tag.name ∈ rawTags → OnlyText children) ∧ ∀ n ∈ children, n.Sealed := by
  simp only [Sealed, elements, List.mem_cons, mem_nodesElements]
  constructor
  · intro h
    exact ⟨h ⟨tag, children⟩ (.inl rfl), fun n hn e he => h e (.inr ⟨n, hn, he⟩)⟩
  · rintro ⟨hself, hchildren⟩ e (rfl | ⟨n, hn, he⟩)
    · exact hself
    · exact hchildren n hn e he

theorem OnlyText.sealed {children : List Node} (h : OnlyText children) (tag : Tag) :
    (Node.element tag children).Sealed := by
  refine (Node.sealed_element tag children).mpr ⟨fun _ => h, ?_⟩
  rcases h with rfl | ⟨content, rfl⟩
  · simp
  · simpa using Node.sealed_text content

theorem OnlyText.toNode_sealed {o : Opened} (h : OnlyText o.children) : o.toNode.Sealed := by
  rw [Opened.toNode, h.reverse]
  exact h.sealed o.tag

/-! ### What a forest keeps -/

/-- No raw element is open, and those that are finished hold text only. -/
structure Forest.Plain (f : Forest) : Prop where
  roots : ∀ n ∈ f.roots, n.Sealed
  names : ∀ o ∈ f.opened, o.tag.name ∉ rawTags
  children : ∀ o ∈ f.opened, ∀ n ∈ o.children, n.Sealed

theorem Forest.Plain.modify {f : Forest} (h : f.Plain) {g : List Node → List Node}
    (hg : ∀ nodes : List Node, (∀ n ∈ nodes, n.Sealed) → ∀ n ∈ g nodes, n.Sealed) :
    (f.modify g).Plain := by
  obtain ⟨roots, opened⟩ := f
  cases opened with
  | nil => exact ⟨hg _ h.roots, h.names, h.children⟩
  | cons o rest =>
    obtain ⟨hname, hnames⟩ := List.forall_mem_cons.mp h.names
    obtain ⟨hnodes, hchildren⟩ := List.forall_mem_cons.mp h.children
    refine ⟨h.roots, ?_, ?_⟩
    · exact List.forall_mem_cons.mpr ⟨hname, hnames⟩
    · exact List.forall_mem_cons.mpr ⟨hg _ hnodes, hchildren⟩

theorem Forest.Plain.addNode {f : Forest} (h : f.Plain) {n : Node} (hn : n.Sealed) :
    (f.addNode n).Plain :=
  h.modify fun _ hnodes => List.forall_mem_cons.mpr ⟨hn, hnodes⟩

theorem Forest.Plain.addText {f : Forest} (h : f.Plain) (content : String) :
    (f.addText content).Plain := by
  apply h.modify
  intro nodes hnodes
  rw [Markup.addText.eq_def]
  split
  · exact List.forall_mem_cons.mpr ⟨Node.sealed_text _, (List.forall_mem_cons.mp hnodes).2⟩
  · exact List.forall_mem_cons.mpr ⟨Node.sealed_text _, hnodes⟩

/-- An open element with content of any kind. -/
theorem Forest.Plain.openTag {f : Forest} (h : f.Plain) {tag : Tag} (hname : tag.name ∉ rawTags) :
    Forest.Plain { f with opened := { tag := tag } :: f.opened } := by
  refine ⟨h.roots, ?_, ?_⟩
  · exact List.forall_mem_cons.mpr ⟨hname, h.names⟩
  · exact List.forall_mem_cons.mpr ⟨by simp, h.children⟩

theorem Forest.Plain.close {f : Forest} (h : f.Plain) : f.close.Plain := by
  obtain ⟨roots, opened⟩ := f
  cases opened with
  | nil => exact h
  | cons o rest =>
    obtain ⟨hname, hnames⟩ := List.forall_mem_cons.mp h.names
    obtain ⟨hnodes, hchildren⟩ := List.forall_mem_cons.mp h.children
    have hrest : Forest.Plain ⟨roots, rest⟩ := ⟨h.roots, hnames, hchildren⟩
    refine hrest.addNode ((Node.sealed_element _ _).mpr ⟨fun hraw => absurd hraw hname, ?_⟩)
    simpa using hnodes

theorem Forest.Plain.closeMany {f : Forest} (h : f.Plain) (n : Nat) : (f.closeMany n).Plain := by
  induction n generalizing f with
  | zero => exact h
  | succ n ih => exact ih h.close

/-- The raw element that is open, if any, is the innermost one and holds text only so far. -/
inductive Forest.Holds : Forest → Option String → Prop where
  | outside {f : Forest} : f.Plain → Forest.Holds f none
  | inside {f : Forest} {o : Opened} : f.Plain → OnlyText o.children →
    Forest.Holds ⟨f.roots, o :: f.opened⟩ (some o.tag.name)

theorem Forest.Plain.rawStart {f : Forest} (h : f.Plain) {tag : Tag} (hraw : tag.name ∈ rawTags) :
    (f.startTag tag false).Holds (some tag.name) := by
  have hopen : f.startTag tag false =
      ⟨(f.closeImplied tag.name).roots, { tag := tag } :: (f.closeImplied tag.name).opened⟩ := by
    simp [startTag, isVoid_of_mem_rawTags tag.name hraw]
  rw [hopen]
  exact .inside (h.closeMany _) (.inl rfl)

theorem Forest.Plain.plainStart {f : Forest} (h : f.Plain) {tag : Tag} {selfClosing : Bool}
    (hplain : selfClosing = true ∨ tag.name ∉ rawTags) : (f.startTag tag selfClosing).Plain := by
  have hclosed : (f.closeImplied tag.name).Plain := h.closeMany _
  rw [startTag]
  split
  · exact hclosed.addNode (OnlyText.sealed (.inl rfl) tag)
  · next hadd =>
    have hname : tag.name ∉ rawTags := hplain.resolve_left (by simp_all)
    exact hclosed.openTag hname

theorem Forest.Holds.take {f : Forest} {t : Token} {before after : Option String}
    (h : f.Holds before) (ht : t.Leads before after) : (f.take t).Holds after := by
  cases ht with
  | text _ content =>
    cases h with
    | outside hf => exact .outside (hf.addText content)
    | @inside f o hf ho => exact .inside (o := ⟨o.tag, _⟩) hf (ho.addText content)
  | endOfInput => exact h
  | rawStart hraw =>
    cases h with
    | outside hf => exact hf.rawStart hraw
  | plainStart hplain =>
    cases h with
    | outside hf => exact .outside (hf.plainStart hplain)
  | rawEnd name =>
    cases h with
    | @inside f o hf ho =>
      rw [Forest.take, Forest.endTag_innermost]
      exact .outside (hf.addNode ho.toNode_sealed)
  | plainEnd name =>
    cases h with
    | outside hf =>
      obtain ⟨n, hclose⟩ := f.endTag_cases name
      rw [Forest.take, hclose]
      exact .outside (hf.closeMany n)
  | comment | doctype | null => exact h

theorem Forest.Holds.run {f : Forest} {tokens : List Token} {before after : Option String}
    (h : f.Holds before) (htokens : Leads before tokens after) :
    (tokens.foldl Forest.take f).Holds after := by
  induction htokens generalizing f with
  | nil => exact h
  | cons ht _ ih => exact ih (h.take ht)

theorem Forest.Holds.finish {f : Forest} {inside : Option String} (h : f.Holds inside) :
    ∀ n ∈ f.finish, n.Sealed := by
  have hclosed : (f.closeMany f.opened.length).Plain := by
    cases h with
    | outside hf => exact hf.closeMany _
    | inside hf ho => exact (hf.addNode ho.toNode_sealed).closeMany _
  intro n hn
  exact hclosed.roots n (List.mem_reverse.mp hn)

theorem parse_sealed (html : String) : ∀ n ∈ parse html, n.Sealed := by
  obtain ⟨after, htokens⟩ := leads_tokens html
  have hstart : Forest.Holds {} none := .outside ⟨by simp, by simp, by simp⟩
  exact (hstart.run htokens).finish

end MarkupChain.Markup

namespace MarkupChain.Component

open Markup Script

/-! ### Text areas -/

theorem elementExpr_area {tag : Tag} (htag : tag.name = "textarea") (o : Options)
    (children : List Node) :
    elementExpr o ⟨tag, children⟩ = withAreaText children (opening tag) := by
  have hkind : Kind.ofTag tag.name = .textArea := by
    rw [htag]
    rfl
  rw [elementExpr, Element.toNode, nodeExpr, if_pos hkind]

theorem compact_withAreaText (content : String) (target : Expr) :
    (withAreaText [.text content] target).compact = target.compact ++
      if content = "" then "" else ".value(" ++ Text.quote (Text.trim content) ++ ")" := by
  by_cases hcontent : content = ""
  · simp [withAreaText, areaText?, hcontent]
  · simp [withAreaText, areaText?, hcontent, method, quoted, Expr.compact, compactArgs,
      String.append_assoc]

/-- In parsed markup a raw element has no child or one text, and all of the text of a text area but
the blanks at its ends is written as its value. -/
theorem parsed_raw_elements_hold_text (html : String) (e : Element)
    (he : e ∈ nodesElements (parse html)) :
    (e.tag.name ∈ rawTags → e.children = [] ∨ ∃ content, e.children = [.text content]) ∧
      (e.tag.name = "textarea" → ∃ content before after : String,
        (e.children = [] ∧ content = "" ∨ e.children = [.text content]) ∧
        content = before ++ Text.trim content ++ after ∧
        Text.isBlankText before = true ∧ Text.isBlankText after = true ∧
        ∀ o : Options, (elementExpr o e).compact = (opening e.tag).compact ++
          if content = "" then "" else ".value(" ++ Text.quote (Text.trim content) ++ ")") := by
  obtain ⟨n, hn, hmem⟩ := mem_nodesElements.mp he
  have hraw : e.tag.name ∈ rawTags → OnlyText e.children := parse_sealed html n hn e hmem
  refine ⟨hraw, fun htag => ?_⟩
  obtain ⟨tag, children⟩ := e
  have hmember : tag.name ∈ rawTags := by
    rw [htag]
    decide
  rcases hraw hmember with hnone | ⟨content, hone⟩
  · obtain rfl : children = [] := hnone
    refine ⟨"", "", "", .inl ⟨rfl, rfl⟩, rfl, rfl, rfl, fun o => ?_⟩
    rw [elementExpr_area htag]
    simp [withAreaText, areaText?]
  · obtain rfl : children = [.text content] := hone
    obtain ⟨before, after, hsplit, hbefore, hafter⟩ := Text.exists_trim content
    refine ⟨content, before, after, .inr rfl, hsplit, hbefore, hafter, fun o => ?_⟩
    rw [elementExpr_area htag]
    exact compact_withAreaText content (opening tag)

/-- An end tag of a longer name is text, and the end tag that counts is written in capitals. -/
theorem parsed_raw_elements_hold_text_area :
    ∃ e ∈ nodesElements (parse "<p><textarea>\n<b>x</textareas> </TEXTAREA >y"),
      e.tag.name = "textarea" ∧ e.children = [.text "\n<b>x</textareas> "] ∧
      (e.children = [] ∨ ∃ content, e.children = [.text content]) ∧
      ∃ content before after : String,
        (e.children = [] ∧ content = "" ∨ e.children = [.text content]) ∧
        content = before ++ Text.trim content ++ after ∧
        Text.isBlankText before = true ∧ Text.isBlankText after = true ∧
        ∀ o : Options, (elementExpr o e).compact = (opening e.tag).compact ++
          if content = "" then "" else ".value(" ++ Text.quote (Text.trim content) ++ ")" := by
  have hparse : parse "<p><textarea>\n<b>x</textareas> </TEXTAREA >y" =
      [.element ⟨"p", []⟩ [.element ⟨"textarea", []⟩ [.text "\n<b>x</textareas> "], .text "y"]] :=
    rfl
  have hmem : ⟨⟨"textarea", []⟩, [.text "\n<b>x</textareas> "]⟩ ∈
      nodesElements (parse "<p><textarea>\n<b>x</textareas> </TEXTAREA >y") := by
    simp [hparse, nodesElements, Node.elements]
  obtain ⟨hraw, harea⟩ := parsed_raw_elements_hold_text _ _ hmem
  exact ⟨_, hmem, rfl, rfl, hraw (by decide), harea rfl⟩

end MarkupChain.Component
