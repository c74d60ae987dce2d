import MarkupChain.Proofs.Markup.Traversal

/-!
# Well nested nodes

The nodes that can be built from tokens are the well nested ones: no text follows a text, void
elements have no content, and no element stands directly inside one that its start tag ends. Each of
them is built again from its own tags.
-/

namespace MarkupChain.Markup

def Node.isText : Node → Bool
  | .text _ => true
  | .element _ _ => false

/-- Not both are texts. -/
def Node.Apart (a b : Node) : Prop := a.isText = true → b.isText = false

instance (a b : Node) : Decidable (a.Apart b) :=
  inferInstanceAs (Decidable (a.isText = true → b.isText = false))

theorem Node.apart_element (a : Node) (tag : Tag) (children : List Node) :
    a.Apart (.element tag children) := fun _ => rfl

/-- The node does not end an element of the given name that it stands in. -/
def Node.FitsIn : Node → String → Prop
  | .text _, _ => True
  | .element tag _, name => name ∉ endedBy tag.name

instance : (n : Node) → (name : String) → Decidable (n.FitsIn name)
  | .text _, _ => .isTrue trivial
  | .element tag _, name => inferInstanceAs (Decidable (name ∉ endedBy tag.name))

mutual

/-- The children fit in the element, and there are none if it is void. -/
def Node.WellNested : Node → Prop
  | .text _ => True
  | .element tag children =>
    (isVoid tag.name = true → children = []) ∧ (∀ child ∈ children, child.FitsIn tag.name) ∧
      WellNested children

/-- The nodes are well nested, and no two texts meet. -/
def WellNested : List Node → Prop
  | [] => True
  | n :: rest => n.WellNested ∧ (∀ next ∈ rest.head?, n.Apart next) ∧ WellNested rest

end

mutual

def Node.decideWellNested : (n : Node) → Decidable n.WellNested
  | .text _ => .isTrue trivial
  | .element tag children =>
    have := decideWellNested children
    inferInstanceAs (Decidable ((isVoid tag.name = true → children = []) ∧
      (∀ child ∈ children, child.FitsIn tag.name) ∧ WellNested children))

def decideWellNested : (nodes : List Node) → Decidable (WellNested nodes)
  | [] => .isTrue trivial
  | n :: rest =>
    have := n.decideWellNested
    have := decideWellNested rest
    inferInstanceAs (Decidable (n.WellNested ∧ (∀ next ∈ rest.head?, n.Apart next) ∧
      WellNested rest))

end

instance : DecidablePred WellNested := decideWellNested

example : WellNested [.element ⟨"p", []⟩ [.text "a", .element ⟨"br", []⟩ []], .text "b"] := by
  decide

example : ¬WellNested [.element ⟨"p", []⟩ [.element ⟨"p", []⟩ []]] := by decide

theorem wellNested_cons (n : Node) (rest : List Node) :
    WellNested (n :: rest) ↔
      n.WellNested ∧ (∀ next ∈ rest.head?, n.Apart next) ∧ WellNested rest := Iff.rfl

theorem wellNested_concat (nodes : List Node) (n : Node) :
    WellNested (nodes ++ [n]) ↔
      WellNested nodes ∧ n.WellNested ∧ ∀ last ∈ nodes.getLast?, last.Apart n := by
  induction nodes with
  | nil => simp [WellNested]
  | cons m nodes ih =>
    rw [List.cons_append, wellNested_cons, ih, wellNested_cons]
    -- The node after `m` is the new one only if `m` was the last.
    cases nodes with
    | nil => simp [WellNested, and_comm]
    | cons k nodes =>
      simp only [List.cons_append, List.head?_cons, List.getLast?_cons_cons, and_assoc]

/-- A node after nodes that are kept with the latest first. -/
theorem wellNested_reverse_cons (n : Node) (latest : List Node) :
    WellNested (n :: latest).reverse ↔
      WellNested latest.reverse ∧ n.WellNested ∧ ∀ last ∈ latest.head?, last.Apart n := by
  rw [List.reverse_cons, wellNested_concat, List.getLast?_reverse]

theorem wellNested_addText {latest : List Node} (content : String) (h : WellNested latest.reverse) :
    WellNested (addText content latest).reverse := by
  cases latest with
  | nil => simp [addText, WellNested, Node.WellNested]
  | cons n latest =>
    cases n with
    | element tag children =>
      refine (wellNested_reverse_cons _ _).mpr ⟨h, trivial, ?_⟩
      intro last hlast
      obtain rfl : Node.element tag children = last := by simpa using hlast
      intro htext
      cases htext
    | text previous =>
      obtain ⟨hlatest, -, hapart⟩ := (wellNested_reverse_cons _ _).mp h
      exact (wellNested_reverse_cons _ _).mpr ⟨hlatest, trivial, hapart⟩

/-! ### Every run builds well nested nodes -/

/-- An open element with the children it has so far. -/
structure Opened.WellNested (o : Opened) : Prop where
  notVoid : isVoid o.tag.name = false
  fits : ∀ child ∈ o.children, child.FitsIn o.tag.name
  children : Markup.WellNested o.children.reverse

theorem Opened.WellNested.toNode {o : Opened} (h : o.WellNested) : o.toNode.WellNested := by
  refine ⟨fun hvoid => ?_, fun child hchild => ?_, h.children⟩
  · rw [h.notVoid] at hvoid
    cases hvoid
  · exact h.fits child (List.mem_reverse.mp hchild)

/-- The node does not end the innermost element. -/
def Forest.Admits (f : Forest) (n : Node) : Prop := ∀ outer ∈ f.tags.head?, n.FitsIn outer.name

/-- The finished nodes are well nested, and each open element is and fits in the one around it. -/
inductive Forest.WellNested : Forest → Prop
  | outside {roots : List Node} (hroots : Markup.WellNested roots.reverse) :
      Forest.WellNested ⟨roots, []⟩
  | inside {roots : List Node} {o : Opened} {rest : List Opened}
      (hrest : Forest.WellNested ⟨roots, rest⟩) (hadmits : Forest.Admits ⟨roots, rest⟩ o.toNode)
      (ho : o.WellNested) : Forest.WellNested ⟨roots, o :: rest⟩

theorem Forest.WellNested.modify {f : Forest} {g : List Node → List Node} (h : f.WellNested)
    (hnested : ∀ latest, Markup.WellNested latest.reverse → Markup.WellNested (g latest).reverse)
    (hfits : ∀ outer ∈ f.tags.head?, ∀ latest : List Node,
      (∀ child ∈ latest, child.FitsIn outer.name) → ∀ child ∈ g latest, child.FitsIn outer.name) :
    (f.modify g).WellNested := by
  cases h with
  | outside hroots => exact .outside (hnested _ hroots)
  | inside hrest hadmits ho =>
    refine .inside hrest hadmits ⟨ho.notVoid, ?_, hnested _ ho.children⟩
    exact hfits _ rfl _ ho.fits

theorem Forest.WellNested.addElement {f : Forest} {tag : Tag} {children : List Node}
    (h : f.WellNested) (hn : (Node.element tag children).WellNested)
    (hadmits : f.Admits (.element tag children)) :
    (f.addNode (.element tag children)).WellNested := by
  apply h.modify
  · intro latest hlatest
    have hapart : ∀ last ∈ latest.head?, last.Apart (.element tag children) :=
      fun last _ => last.apart_element tag children
    exact (wellNested_reverse_cons _ _).mpr ⟨hlatest, hn, hapart⟩
  · intro outer houter latest hfits child hchild
    rcases List.mem_cons.mp hchild with rfl | hchild
    · exact hadmits outer houter
    · exact hfits child hchild

theorem Forest.WellNested.addText {f : Forest} (h : f.WellNested) (content : String) :
    (f.addText content).WellNested := by
  apply h.modify
  · exact fun latest => wellNested_addText content
  · intro outer _ latest hfits child hchild
    rw [Markup.addText.eq_def] at hchild
    split at hchild
    all_goals
      rcases List.mem_cons.mp hchild with rfl | hchild
      · trivial
      · exact hfits child (by simp [hchild])

theorem Forest.WellNested.close {f : Forest} (h : f.WellNested) : f.close.WellNested := by
  cases h with
  | outside hroots => exact .outside hroots
  | inside hrest hadmits ho => exact hrest.addElement ho.toNode hadmits

theorem Forest.WellNested.closeMany {f : Forest} (h : f.WellNested) (n : Nat) :
    (f.closeMany n).WellNested := by
  induction n generalizing f with
  | zero => exact h
  | succ n ih => exact ih h.close

/-- A new open element fits in the innermost one, so that it can later be added to it. -/
theorem Forest.WellNested.startTag {f : Forest} (h : f.WellNested) (tag : Tag)
    (selfClosing : Bool) : (f.startTag tag selfClosing).WellNested := by
  obtain ⟨n, hadmits, hadd | ⟨hvoid, hopen⟩⟩ := f.startTag_cases tag selfClosing
  · have hempty : (Node.element tag []).WellNested := ⟨fun _ => rfl, by simp, trivial⟩
    rw [hadd]
    exact (h.closeMany n).addElement hempty hadmits
  · have hnew : Opened.WellNested { tag := tag } := ⟨hvoid, by simp, trivial⟩
    rw [hopen]
    exact .inside (h.closeMany n) hadmits hnew

theorem Forest.WellNested.take {f : Forest} (h : f.WellNested) (t : Token) :
    (f.take t).WellNested := by
  cases t with
  | startTag tag selfClosing => exact h.startTag tag selfClosing
  | endTag name =>
    obtain ⟨n, hclose⟩ := f.endTag_cases name
    rw [Forest.take, hclose]
    exact h.closeMany n
  | text content => exact h.addText content
  | comment | doctype | null | endOfInput => exact h

theorem Forest.WellNested.run {f : Forest} (h : f.WellNested) (tokens : List Token) :
    (tokens.foldl Forest.take f).WellNested := by
  induction tokens generalizing f with
  | nil => exact h
  | cons t tokens ih => exact ih (h.take t)

theorem Forest.WellNested.roots {f : Forest} (h : f.WellNested) :
    Markup.WellNested f.roots.reverse := by
  induction h with
  | outside hroots => exact hroots
  | inside _ _ _ ih => exact ih

theorem Forest.wellNested_ofTokens (tokens : List Token) :
    Markup.WellNested (Forest.ofTokens tokens) := by
  have hstart : Forest.WellNested {} := .outside trivial
  exact ((hstart.run tokens).closeMany _).roots

/-! ### Building nodes from their own tags -/

mutual

/-- The tokens that a node is written with. -/
def Node.tokens : Node → List Token
  | .text content => [.text content]
  | .element tag children =>
    .startTag tag false ::
      if isVoid tag.name then [] else nodesTokens children ++ [.endTag tag.name]

def nodesTokens : List Node → List Token
  | [] => []
  | n :: rest => n.tokens ++ nodesTokens rest

end

/-- The list that a new node goes into, the latest first. -/
def Forest.latest (f : Forest) : List Node :=
  match f.opened with
  | [] => f.roots
  | o :: _ => o.children

@[simp] theorem Forest.latest_modify (f : Forest) (g : List Node → List Node) :
    (f.modify g).latest = g f.latest := by
  obtain ⟨roots, opened⟩ := f
  cases opened <;> rfl

@[simp] theorem Forest.modify_modify (f : Forest) (g h : List Node → List Node) :
    (f.modify g).modify h = f.modify fun nodes => h (g nodes) := by
  obtain ⟨roots, opened⟩ := f
  cases opened <;> rfl

theorem Forest.modify_congr {f : Forest} {g h : List Node → List Node}
    (hlatest : g f.latest = h f.latest) : f.modify g = f.modify h := by
  obtain ⟨roots, opened⟩ := f
  cases opened with
  | nil => exact congrArg (Forest.mk · []) hlatest
  | cons o rest =>
    exact congrArg (fun children => Forest.mk roots (⟨o.tag, children⟩ :: rest)) hlatest

/-- A text stays on its own unless one stands before it. -/
theorem Forest.addText_eq_addNode {f : Forest} {content : String}
    (hapart : ∀ last ∈ f.latest.head?, last.Apart (.text content)) :
    f.addText content = f.addNode (.text content) := by
  apply Forest.modify_congr
  cases hlatest : f.latest with
  | nil => rfl
  | cons n nodes =>
    cases n with
    | element tag children => rfl
    | text previous =>
      have htext := hapart (.text previous) (by rw [hlatest]; rfl) rfl
      cases htext

/-- An element that fits ends none. -/
theorem Forest.closeImplied_of_admits {f : Forest} {tag : Tag} {children : List Node}
    (hadmits : f.Admits (.element tag children)) : f.closeImplied tag.name = f := by
  obtain ⟨roots, opened⟩ := f
  cases opened with
  | nil => rfl
  | cons o rest =>
    have hfits : o.tag.name ∉ endedBy tag.name := hadmits o.tag rfl
    rw [closeImplied, List.takeWhile_cons_of_neg (by simpa using hfits)]
    rfl

/-- An end tag of the innermost element's name ends just that one, whatever is open around it. -/
theorem Forest.endTag_innermost (roots : List Node) (o : Opened) (rest : List Opened) :
    Forest.endTag ⟨roots, o :: rest⟩ o.tag.name = Forest.addNode ⟨roots, rest⟩ o.toNode := by
  simp [endTag, close, List.findIdx?_cons]

mutual

theorem Node.run_tokens (n : Node) {f : Forest} (hn : n.WellNested) (hadmits : f.Admits n)
    (hapart : ∀ last ∈ f.latest.head?, last.Apart n) :
    n.tokens.foldl Forest.take f = f.addNode n := by
  match n with
  | .text content => exact Forest.addText_eq_addNode hapart
  | .element tag children =>
    obtain ⟨hempty, hfits, hchildren⟩ := hn
    have hclose := Forest.closeImplied_of_admits hadmits
    by_cases hvoid : isVoid tag.name = true
    · simp [Node.tokens, Forest.take, Forest.startTag, hclose, hvoid, hempty hvoid]
    · have hopen : f.startTag tag false = ⟨f.roots, { tag := tag } :: f.opened⟩ := by
        simp [Forest.startTag, hclose, hvoid]
      -- Inside the new element nothing stands before the children, and they fit in it.
      have hadmits' : ∀ child ∈ children,
          Forest.Admits ⟨f.roots, { tag := tag } :: f.opened⟩ child := by
        intro child hchild outer houter
        obtain rfl : tag = outer := by simpa [Forest.tags] using houter
        exact hfits child hchild
      have hinside := run_nodesTokens children hchildren hadmits' (by simp [Forest.latest])
      have hend := Forest.endTag_innermost f.roots ⟨tag, children.reverse⟩ f.opened
      simp [Node.tokens, hvoid, Forest.take, hopen, hinside, Forest.modify, hend, Opened.toNode]

theorem run_nodesTokens (nodes : List Node) {f : Forest} (hnodes : WellNested nodes)
    (hadmits : ∀ n ∈ nodes, f.Admits n)
    (hapart : ∀ last ∈ f.latest.head?, ∀ n ∈ nodes.head?, last.Apart n) :
    (nodesTokens nodes).foldl Forest.take f = f.modify (nodes.reverse ++ ·) := by
  match nodes with
  | [] =>
    obtain ⟨roots, opened⟩ := f
    cases opened <;> rfl
  | n :: rest =>
    obtain ⟨hn, hnext, hrest⟩ := hnodes
    have hfirst := n.run_tokens hn (hadmits n (by simp)) (fun last hlast => hapart last hlast n rfl)
    have hadmits' : ∀ m ∈ rest, (f.addNode n).Admits m := by
      intro m hm outer houter
      rw [Forest.addNode, Forest.tags_modify] at houter
      exact hadmits m (by simp [hm]) outer houter
    have hapart' : ∀ last ∈ (f.addNode n).latest.head?, ∀ m ∈ rest.head?, last.Apart m := by
      intro last hlast m hm
      obtain rfl : n = last := by simpa [Forest.addNode] using hlast
      exact hnext m hm
    rw [nodesTokens, List.foldl_append, hfirst, run_nodesTokens rest hrest hadmits' hapart',
      Forest.addNode, Forest.modify_modify]
    simp

end

/-- The nodes built from tokens are well nested, and well nested nodes are built from their own tags
as they are. -/
theorem ofTokens_wellNested_and_rebuilds :
    (∀ tokens, WellNested (Forest.ofTokens tokens)) ∧
      ∀ nodes, WellNested nodes → Forest.ofTokens (nodesTokens nodes) = nodes := by
  refine ⟨Forest.wellNested_ofTokens, fun nodes hnodes => ?_⟩
  have hrun := run_nodesTokens nodes (f := {}) hnodes (by simp [Forest.Admits, Forest.tags])
    (by simp [Forest.latest])
  rw [Forest.ofTokens, hrun]
  simp [Forest.modify, Forest.finish]

/-- A list inside an item of a list of the same name, where each end tag meets its own element. -/
theorem ofTokens_wellNested_and_rebuilds_nested_list :
    WellNested [.text "a", .element ⟨"ul", []⟩ [.element ⟨"li", []⟩ [.element ⟨"br", []⟩ [],
        .element ⟨"ul", []⟩ [.element ⟨"li", []⟩ [.text "b"], .element ⟨"li", []⟩ []]]]] ∧
      Forest.ofTokens (nodesTokens [.text "a", .element ⟨"ul", []⟩ [.element ⟨"li", []⟩
          [.element ⟨"br", []⟩ [], .element ⟨"ul", []⟩ [.element ⟨"li", []⟩ [.text "b"],
            .element ⟨"li", []⟩ []]]]]) =
        [.text "a", .element ⟨"ul", []⟩ [.element ⟨"li", []⟩ [.element ⟨"br", []⟩ [],
          .element ⟨"ul", []⟩ [.element ⟨"li", []⟩ [.text "b"], .element ⟨"li", []⟩ []]]]] :=
  ⟨by decide, ofTokens_wellNested_and_rebuilds.2 _ (by decide)⟩

end MarkupChain.Markup
