import MarkupChain.Proofs.Component.Emission

/-!
# Trimming as an operation on nodes

Trimming does not change how a chain is written, only what there is to write. A node can be stripped
of its padding beforehand, and then its chain without trimming is the one that trimming gives. A
text area shows its first text whatever it is, so nothing is stripped inside of one.
-/

namespace MarkupChain.Component

open Markup Script

/-- Only spaces, tabs, line feeds and carriage returns. -/
def isPadding (content : String) : Bool := content.toList.all [' ', '\t', '\n', '\r'].contains

theorem isFillerText_eq (content : String) : Text.isFillerText content = isPadding content := by
  rw [Text.isFillerText, isPadding]
  congr 1
  funext c
  rw [Bool.eq_iff_iff]
  simp [Text.isFiller, or_assoc]

mutual

/-- The node without the padding among the children of its elements, except in text areas. -/
def stripNode : Node → Node
  | .text content => .text content
  | .element tag children =>
    .element tag (if tag.name = "textarea" then children else stripNodes children)

def stripNodes : List Node → List Node
  | [] => []
  | .text content :: rest =>
    if isPadding content then stripNodes rest else .text content :: stripNodes rest
  | .element tag children :: rest => stripNode (.element tag children) :: stripNodes rest

end

def strip (e : Element) : Element :=
  ⟨e.tag, if e.tag.name = "textarea" then e.children else stripNodes e.children⟩

theorem toNode_strip (e : Element) : (strip e).toNode = stripNode e.toNode := by
  rw [Element.toNode, Element.toNode, stripNode, strip]

/-- The option makes no difference to a text that is no padding: it is not empty and stays. -/
theorem isDropped_of_not_isPadding (o : Options) {content : String}
    (h : isPadding content = false) : isDropped o content = false := by
  have hne : content.isEmpty = false := by
    rw [← Bool.not_eq_true, String.isEmpty_iff]
    rintro rfl
    exact absurd h (by decide)
  simp [isDropped, hne, isFillerText_eq, h]

theorem isDropped_of_isPadding {o : Options} (ho : o.trim = true) {content : String}
    (h : isPadding content = true) : isDropped o content = true := by
  simp [isDropped, ho, isFillerText_eq, h]

mutual

/-- The chain of a stripped node is the trimmed chain of the node, for both values of the option. -/
theorem nodeExpr_stripNode (o : Options) (trim : Bool) (node : Node) :
    nodeExpr { o with trim := trim } (stripNode node) = nodeExpr { o with trim := true } node := by
  match node with
  | .text content => rfl
  | .element tag children =>
    have hkind := Kind.ofTag_eq_textArea tag.name
    rw [stripNode, nodeExpr, nodeExpr]
    by_cases ht : tag.name = "textarea"
    · rw [if_pos (hkind.mpr ht), if_pos (hkind.mpr ht), if_pos ht]
    · rw [if_neg (mt hkind.mp ht), if_neg (mt hkind.mp ht), if_neg ht,
        childExprs_stripNodes o trim children]

theorem childExprs_stripNodes (o : Options) (trim : Bool) (nodes : List Node) :
    childExprs { o with trim := trim } (stripNodes nodes) =
      childExprs { o with trim := true } nodes := by
  match nodes with
  | [] => rfl
  | .text content :: rest =>
    have hrest := childExprs_stripNodes o trim rest
    rw [stripNodes, childExprs]
    cases hpad : isPadding content with
    | true => rw [if_pos rfl, isDropped_of_isPadding rfl hpad, if_pos rfl, hrest]
    | false =>
      rw [if_neg (by decide), childExprs, isDropped_of_not_isPadding _ hpad,
        isDropped_of_not_isPadding _ hpad, hrest]
  | .element tag children :: rest =>
    have hnode := nodeExpr_stripNode o trim (.element tag children)
    rw [stripNodes, childExprs, ← hnode, ← childExprs_stripNodes o trim rest]
    rw [stripNode, childExprs]

end

/-- Trimming is the removal of padding: an element is written with trimming as the stripped element
is written without it, and for the stripped element the option makes no difference. -/
theorem trimming_strips_padding (o : Options) (e : Element) :
    (elementExpr { o with trim := true } e).compact =
      (elementExpr { o with trim := false } (strip e)).compact ∧
    (elementExpr { o with trim := true } (strip e)).compact =
      (elementExpr { o with trim := false } (strip e)).compact := by
  have hexpr : ∀ trim, elementExpr { o with trim := trim } (strip e) =
      elementExpr { o with trim := true } e := by
    intro trim
    rw [elementExpr, toNode_strip, nodeExpr_stripNode, elementExpr]
  rw [hexpr true, hexpr false]
  exact ⟨rfl, rfl⟩

-- Padding goes at every depth; a no-break space and the content of a text area stay.
example : strip ⟨⟨"ul", []⟩, [.text "\n  ", .element ⟨"li", []⟩ [.text " \t"], .text "\u00a0",
      .element ⟨"textarea", []⟩ [.text " ", .text "\r"]]⟩ =
    ⟨⟨"ul", []⟩, [.element ⟨"li", []⟩ [], .text "\u00a0",
      .element ⟨"textarea", []⟩ [.text " ", .text "\r"]]⟩ := rfl

end MarkupChain.Component
