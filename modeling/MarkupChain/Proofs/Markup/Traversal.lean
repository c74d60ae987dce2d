import MarkupChain.Markup.Forest

/-!
# The document order of a forest

Building nodes from tokens loses nothing and moves nothing: reading the finished nodes in document
order gives back the start tags and the texts of the input. Elements reach their parent only when
they end, so during a run the order is read off the finished nodes followed by the open elements
from the outside in, and no way of ending elements changes it.
-/

namespace MarkupChain.Markup

/-- What a reader meets in document order. -/
inductive Item where
  | element (tag : Tag)
  | text (content : String)
  deriving DecidableEq, Repr, Inhabited

mutual

/-- A node before its children. -/
def Node.items : Node → List Item
  | .text content => [.text content]
  | .element tag children => .element tag :: nodesItems children

def nodesItems : List Node → List Item
  | [] => []
  | n :: rest => n.items ++ nodesItems rest

end

@[simp] theorem Node.items_text (content : String) :
    (Node.text content).items = [.text content] := rfl

@[simp] theorem Node.items_element (tag : Tag) (children : List Node) :
    (Node.element tag children).items = .element tag :: nodesItems children := rfl

@[simp] theorem nodesItems_append (ns ms : List Node) :
    nodesItems (ns ++ ms) = nodesItems ns ++ nodesItems ms := by
  induction ns with
  | nil => rfl
  | cons n ns ih => simp [nodesItems, ih]

@[simp] theorem nodesItems_singleton (n : Node) : nodesItems [n] = n.items := by simp [nodesItems]

/-- What a token adds to the document order. -/
def Token.items : Token → List Item
  | .startTag tag _ => [.element tag]
  | .text content => [.text content]
  | .endTag _ | .comment | .doctype | .null | .endOfInput => []

/-- Puts an item in front; a text in front of a text becomes one with it. -/
def Item.join : Item → List Item → List Item
  | .text before, .text content :: rest => .text (before ++ content) :: rest
  | item, rest => item :: rest

/-- Makes consecutive texts one. -/
def joinTexts (items : List Item) : List Item := items.foldr Item.join []

example : joinTexts [.text "a", .text "b", .element ⟨"p", []⟩, .text "c"] =
    [.text "ab", .element ⟨"p", []⟩, .text "c"] := by decide

@[simp] theorem joinTexts_cons (item : Item) (items : List Item) :
    joinTexts (item :: items) = item.join (joinTexts items) := rfl

theorem joinTexts_append (as bs : List Item) :
    joinTexts (as ++ bs) = as.foldr Item.join (joinTexts bs) := by
  simp [joinTexts]

/-- Joining two texts first makes no difference. -/
theorem Item.join_text_append (before content : String) (items : List Item) :
    Item.join (.text (before ++ content)) items =
      Item.join (.text before) (Item.join (.text content) items) := by
  cases items with
  | nil => rfl
  | cons item rest => cases item <;> simp [Item.join, String.append_assoc]

/-! ### What a token does to a forest -/

/-- The tags of the open elements, the innermost first. -/
def Forest.tags (f : Forest) : List Tag := f.opened.map (·.tag)

@[simp] theorem Forest.tags_modify (f : Forest) (g : List Node → List Node) :
    (f.modify g).tags = f.tags := by
  obtain ⟨roots, opened⟩ := f
  cases opened <;> rfl

@[simp] theorem Forest.tags_close (f : Forest) : f.close.tags = f.tags.tail := by
  obtain ⟨roots, opened⟩ := f
  cases opened with
  | nil => rfl
  | cons o rest => exact Forest.tags_modify _ _

@[simp] theorem Forest.tags_closeMany (f : Forest) (n : Nat) :
    (f.closeMany n).tags = f.tags.drop n := by
  induction n generalizing f with
  | zero => rfl
  | succ n ih => rw [closeMany_succ, ih, tags_close, List.drop_tail]

theorem Forest.opened_closeMany_length (f : Forest) :
    (f.closeMany f.opened.length).opened = [] := by
  have htags := f.tags_closeMany f.opened.length
  rw [tags, tags, List.drop_eq_nil_of_le (by simp)] at htags
  exact List.map_eq_nil_iff.mp htags

theorem head?_drop_takeWhile {α : Type} {p : α → Bool} {l : List α} {a : α}
    (h : a ∈ (l.drop (l.takeWhile p).length).head?) : p a = false := by
  induction l with
  | nil => simp at h
  | cons b l ih =>
    by_cases hb : p b = true
    · rw [List.takeWhile_cons_of_pos hb] at h
      exact ih h
    · rw [List.takeWhile_cons_of_neg hb] at h
      obtain rfl : b = a := by simpa using h
      simpa using hb

/-- No innermost element is left that the start tag implies to end. -/
theorem Forest.not_mem_endedBy_of_closeImplied {f : Forest} {name : String} {outer : Tag}
    (houter : outer ∈ (f.closeImplied name).tags.head?) : outer.name ∉ endedBy name := by
  intro hended
  rw [closeImplied, tags_closeMany, tags, ← List.map_drop, List.head?_map] at houter
  obtain ⟨o, ho, rfl⟩ := Option.map_eq_some_iff.mp houter
  have hnot := head?_drop_takeWhile ho
  simp [hended] at hnot

/-- A start tag ends elements until the new one may stand in the innermost one, and then adds it: as
a finished node, or as an open element if it can have content. -/
theorem Forest.startTag_cases (f : Forest) (tag : Tag) (selfClosing : Bool) :
    ∃ n, (∀ outer ∈ (f.closeMany n).tags.head?, outer.name ∉ endedBy tag.name) ∧
      (f.startTag tag selfClosing = (f.closeMany n).addNode (.element tag []) ∨
        isVoid tag.name = false ∧ f.startTag tag selfClosing =
          { f.closeMany n with opened := { tag := tag } :: (f.closeMany n).opened }) := by
  refine ⟨_, fun outer => not_mem_endedBy_of_closeImplied, ?_⟩
  by_cases hadd : (selfClosing || isVoid tag.name) = true
  · exact .inl (if_pos hadd)
  · have hvoid : isVoid tag.name = false := by simp_all
    exact .inr ⟨hvoid, if_neg hadd⟩

theorem Forest.endTag_cases (f : Forest) (name : String) : ∃ n, f.endTag name = f.closeMany n := by
  rw [endTag]
  split
  · exact ⟨_, rfl⟩
  · exact ⟨0, rfl⟩

/-! ### The order during a run -/

/-- The items of the finished nodes and then of the open elements from the outside in. -/
def Forest.items (f : Forest) : List Item :=
  nodesItems (f.roots.reverse ++ f.opened.reverse.map Opened.toNode)

/-- The list that a new node goes into is the end of the order. -/
theorem Forest.items_modify (f : Forest) :
    ∃ before latest, f.items = before ++ nodesItems latest.reverse ∧
      ∀ g, (f.modify g).items = before ++ nodesItems (g latest).reverse := by
  obtain ⟨roots, opened⟩ := f
  cases opened with
  | nil =>
    refine ⟨[], roots, ?_, fun g => ?_⟩
    · simp [items]
    · simp [modify, items]
  | cons o rest =>
    refine ⟨nodesItems (roots.reverse ++ rest.reverse.map Opened.toNode) ++ [.element o.tag],
      o.children, ?_, fun g => ?_⟩
    · simp [items, Opened.toNode]
    · simp [modify, items, Opened.toNode]

@[simp] theorem Forest.items_addNode (f : Forest) (n : Node) :
    (f.addNode n).items = f.items ++ n.items := by
  obtain ⟨before, latest, hf, hitems⟩ := f.items_modify
  rw [addNode, hitems, hf]
  simp

@[simp] theorem Forest.items_close (f : Forest) : f.close.items = f.items := by
  obtain ⟨roots, opened⟩ := f
  cases opened with
  | nil => rfl
  | cons o rest =>
    rw [close, items_addNode]
    simp [items]

@[simp] theorem Forest.items_closeMany (f : Forest) (n : Nat) :
    (f.closeMany n).items = f.items := by
  induction n generalizing f with
  | zero => rfl
  | succ n ih => rw [closeMany_succ, ih, items_close]

/-- A text that joins the one before it is still the next text in the order. -/
theorem Forest.joinTexts_items_addText (f : Forest) (content : String) (rest : List Item) :
    joinTexts ((f.addText content).items ++ rest) =
      joinTexts (f.items ++ .text content :: rest) := by
  obtain ⟨before, latest, hf, hitems⟩ := f.items_modify
  rw [addText, hitems, hf]
  cases latest with
  | nil => simp [Markup.addText, nodesItems]
  | cons n nodes =>
    cases n with
    | element tag children => simp [Markup.addText, nodesItems]
    | text previous => simp [Markup.addText, joinTexts_append, Item.join_text_append]

/-- A token adds its own items at the end of the order. -/
theorem Forest.joinTexts_items_take (f : Forest) (t : Token) (rest : List Item) :
    joinTexts ((f.take t).items ++ rest) = joinTexts (f.items ++ (t.items ++ rest)) := by
  cases t with
  | startTag tag selfClosing =>
    have hitems : (f.startTag tag selfClosing).items = f.items ++ [.element tag] := by
      obtain ⟨n, -, hadd | ⟨-, hopen⟩⟩ := f.startTag_cases tag selfClosing
      · simp [hadd, nodesItems]
      · rw [hopen, ← f.items_closeMany n]
        simp [items, Opened.toNode, nodesItems]
    simp [take, hitems, Token.items]
  | endTag name =>
    obtain ⟨n, hclose⟩ := f.endTag_cases name
    simp [take, hclose, Token.items]
  | text content => exact f.joinTexts_items_addText content rest
  | comment | doctype | null | endOfInput => rfl

theorem Forest.joinTexts_items_run (tokens : List Token) (f : Forest) :
    joinTexts (tokens.foldl Forest.take f).items =
      joinTexts (f.items ++ tokens.flatMap Token.items) := by
  induction tokens generalizing f with
  | nil => simp
  | cons t tokens ih => rw [List.foldl_cons, ih, joinTexts_items_take, List.flatMap_cons]

theorem Forest.nodesItems_finish (f : Forest) : nodesItems f.finish = f.items := by
  have hopened := f.opened_closeMany_length
  rw [← f.items_closeMany f.opened.length, items, hopened, finish]
  simp

/-- The nodes built from tokens have the start tags and texts of the input in document order, with
nothing lost, repeated or moved. -/
theorem ofTokens_keeps_document_order (tokens : List Token) :
    joinTexts (nodesItems (Forest.ofTokens tokens)) = joinTexts (tokens.flatMap Token.items) := by
  rw [Forest.ofTokens, Forest.nodesItems_finish, Forest.joinTexts_items_run]
  rfl

end MarkupChain.Markup
