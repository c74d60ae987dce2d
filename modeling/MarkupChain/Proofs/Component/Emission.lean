import MarkupChain.Component.Convert
import MarkupChain.Proofs.Script.Printing
import MarkupChain.Proofs.Script.Quotation

/-!
# Emitted components are read back

The chain of an element is described as a list of calls behind a constructor, each present exactly
when it has something to say. The compact text of a component is read as the function that returns
this chain, provided that the names of its elements are words and that every text it quotes makes a
literal. No call of the chain is empty.
-/

namespace MarkupChain.Component

open Markup Script

/-! ## Chains as lists of calls -/

structure Call where
  name : String
  args : List Expr

def Call.on (target : Expr) (c : Call) : Expr := .call (.member target c.name) c.args

/-- The calls one after the other, the first on `head`. -/
def chainOn (head : Expr) (calls : List Call) : Expr := calls.foldl Call.on head

@[simp] theorem chainOn_nil (head : Expr) : chainOn head [] = head := rfl
@[simp] theorem chainOn_cons (head : Expr) (c : Call) (calls : List Call) :
    chainOn head (c :: calls) = chainOn (c.on head) calls := rfl
theorem chainOn_append (head : Expr) (calls more : List Call) :
    chainOn head (calls ++ more) = chainOn (chainOn head calls) more := by simp [chainOn]

/-- The constructor with the class, if that is not empty. -/
def chainHead (tag : Tag) : Expr :=
  Call.on (.ident "h")
    { name := if tag.name = "input" then "input" ++ inputSubtype (tag.value? "type") else tag.name
      args := ((nonEmpty? tag "class").map quoted).toList }

def styleCalls (tag : Tag) : List Call :=
  match styles ((tag.value? "style").getD "") with
  | [] => []
  | pair :: pairs =>
    [⟨"style", [.object ((pair :: pairs).map fun (key, value) => (Text.quote key, quoted value))]⟩]

/-- Only inputs have these. -/
def inputCalls (tag : Tag) : List Call :=
  if tag.name = "input" then
    ((nonEmpty? tag "value").map fun text => ⟨"value", [quoted text]⟩).toList ++
    (if (tag.value? "checked").isSome then [⟨"checked", [.ident "true"]⟩] else [])
  else []

def propertyCalls (tag : Tag) : List Call :=
  match properties (Kind.ofTag tag.name) tag.attributes with
  | [] => []
  | pair :: pairs =>
    [⟨"props", [.object ((pair :: pairs).map fun (name, value) => (Text.quote name, value.expr))]⟩]

/-- The calls of an element up to its content. -/
def tagCalls (tag : Tag) : List Call := styleCalls tag ++ inputCalls tag ++ propertyCalls tag

/-- The call for the content, which for a text area is the text it starts with and for every other
element what is kept of its children. -/
def contentCalls (tag : Tag) (children : List Node) (kept : List Expr) : List Call :=
  if tag.name = "textarea" then
    ((areaText? children).map fun content => ⟨"value", [quoted (Text.trim content)]⟩).toList
  else match kept with
    | [] => []
    | e :: rest => [⟨"children", e :: rest⟩]

/-- Every element is kept, and every text but the empty one and, when trimming, those of filler. -/
def isKept (o : Options) : Node → Bool
  | .text content => content != "" && !(o.trim && Text.isFillerText content)
  | .element _ _ => true

mutual

def chainExpr (o : Options) : Node → Expr
  | .text content => quoted content
  | .element tag children =>
    chainOn (chainHead tag) (tagCalls tag ++ contentCalls tag children (keptExprs o children))

def keptExprs (o : Options) : List Node → List Expr
  | [] => []
  | node :: rest => if isKept o node then chainExpr o node :: keptExprs o rest else keptExprs o rest

end

/-! ## The emitted expression is the chain -/

theorem Kind.ofTag_eq_input (name : String) : Kind.ofTag name = .input ↔ name = "input" := by
  unfold Kind.ofTag
  split
  · simp_all
  · split <;> simp_all

theorem Kind.ofTag_eq_textArea (name : String) :
    Kind.ofTag name = .textArea ↔ name = "textarea" := by
  unfold Kind.ofTag
  split
  · next h => simp [h]
  · split <;> simp_all

theorem construct_eq (tag : Tag) : construct tag = chainHead tag := by
  simp [construct, chainHead, method, Call.on, constructorName, Kind.ofTag_eq_input]

theorem withStyle_eq (tag : Tag) (target : Expr) :
    withStyle tag target = chainOn target (styleCalls tag) := by
  unfold withStyle styleCalls
  cases styles ((tag.value? "style").getD "") with
  | nil => rfl
  | cons pair pairs => rfl

theorem withInputState_eq (tag : Tag) (target : Expr) :
    withInputState tag target = chainOn target (inputCalls tag) := by
  unfold withInputState inputCalls
  by_cases hi : tag.name = "input"
  · rw [if_pos ((Kind.ofTag_eq_input tag.name).mpr hi), if_pos hi, chainOn_append]
    cases nonEmpty? tag "value" <;> cases tag.value? "checked" <;> rfl
  · rw [if_neg (mt (Kind.ofTag_eq_input tag.name).mp hi), if_neg hi, chainOn_nil]

theorem withProperties_eq (tag : Tag) (target : Expr) :
    withProperties tag target = chainOn target (propertyCalls tag) := by
  unfold withProperties propertyCalls
  cases properties (Kind.ofTag tag.name) tag.attributes with
  | nil => rfl
  | cons pair pairs => rfl

theorem opening_eq (tag : Tag) : opening tag = chainOn (chainHead tag) (tagCalls tag) := by
  rw [opening, construct_eq, withStyle_eq, withInputState_eq, withProperties_eq, tagCalls,
    chainOn_append, chainOn_append]

theorem isDropped_eq (o : Options) (content : String) :
    isDropped o content = !isKept o (.text content) := by
  have he : content.isEmpty = (content == "") := by
    rw [Bool.eq_iff_iff, String.isEmpty_iff, beq_iff_eq]
  simp [isDropped, isKept, he, bne]

mutual

theorem nodeExpr_eq (o : Options) (node : Node) : nodeExpr o node = chainExpr o node := by
  match node with
  | .text content => rfl
  | .element tag children =>
    rw [nodeExpr, chainExpr, chainOn_append, ← opening_eq, childExprs_eq o children]
    unfold contentCalls
    by_cases ht : tag.name = "textarea"
    · rw [if_pos ((Kind.ofTag_eq_textArea tag.name).mpr ht), if_pos ht, withAreaText]
      cases areaText? children <;> rfl
    · rw [if_neg (mt (Kind.ofTag_eq_textArea tag.name).mp ht), if_neg ht]
      cases keptExprs o children <;> rfl

theorem childExprs_eq (o : Options) (nodes : List Node) :
    childExprs o nodes = keptExprs o nodes := by
  match nodes with
  | [] => rfl
  | .text content :: rest =>
    rw [childExprs, keptExprs, isDropped_eq, childExprs_eq o rest]
    cases isKept o (.text content) <;> rfl
  | .element tag children :: rest =>
    rw [childExprs, keptExprs, childExprs_eq o rest, nodeExpr_eq o (.element tag children)]
    rfl

end

/-! ## What is emitted -/

mutual

/-- The tags of the elements of which chains are written. -/
def nodeTags : Node → List Tag
  | .text _ => []
  | .element tag children => tag :: if tag.name = "textarea" then [] else childTags children

def childTags : List Node → List Tag
  | [] => []
  | node :: rest => nodeTags node ++ childTags rest

end

/-- A property that is a flag quotes nothing but its name. -/
def PropertyValue.texts : PropertyValue → List String
  | .flag => []
  | .text content => [content]

/-- The texts that the chain of an element quotes before its content. -/
def tagTexts (tag : Tag) : List String :=
  (nonEmpty? tag "class").toList ++
    (styles ((tag.value? "style").getD "")).flatMap (fun (key, value) => [key, value]) ++
    (if tag.name = "input" then (nonEmpty? tag "value").toList else []) ++
    (properties (Kind.ofTag tag.name) tag.attributes).flatMap
      (fun (name, value) => name :: value.texts)

mutual

/-- The texts that the chain of a node quotes. -/
def nodeTexts (o : Options) : Node → List String
  | .text content => [content]
  | .element tag children => tagTexts tag ++
    if tag.name = "textarea" then ((areaText? children).map Text.trim).toList
    else childTexts o children

def childTexts (o : Options) : List Node → List String
  | [] => []
  | node :: rest =>
    if isKept o node then nodeTexts o node ++ childTexts o rest else childTexts o rest

end

theorem mem_tagTexts_style {tag : Tag} {pair : String × String} {s : String}
    (hp : pair ∈ styles ((tag.value? "style").getD "")) (hs : s ∈ [pair.1, pair.2]) :
    s ∈ tagTexts tag := by
  simp only [tagTexts, List.mem_append, List.mem_flatMap]
  exact .inl (.inl (.inr ⟨pair, hp, hs⟩))

theorem mem_tagTexts_property {tag : Tag} {pair : String × PropertyValue} {s : String}
    (hp : pair ∈ properties (Kind.ofTag tag.name) tag.attributes)
    (hs : s ∈ pair.1 :: pair.2.texts) : s ∈ tagTexts tag := by
  simp only [tagTexts, List.mem_append, List.mem_flatMap]
  exact .inr ⟨pair, hp, hs⟩

/-- The calls that an element can make before its content. -/
theorem mem_tagCalls {tag : Tag} {c : Call} (h : c ∈ tagCalls tag) :
    (styles ((tag.value? "style").getD "") ≠ [] ∧
      c = ⟨"style", [.object ((styles ((tag.value? "style").getD "")).map fun pair =>
        (Text.quote pair.1, quoted pair.2))]⟩) ∨
    (∃ text, tag.name = "input" ∧ nonEmpty? tag "value" = some text ∧
      c = ⟨"value", [quoted text]⟩) ∨
    c = ⟨"checked", [.ident "true"]⟩ ∨
    (properties (Kind.ofTag tag.name) tag.attributes ≠ [] ∧
      c = ⟨"props", [.object ((properties (Kind.ofTag tag.name) tag.attributes).map fun pair =>
        (Text.quote pair.1, pair.2.expr))]⟩) := by
  simp only [tagCalls, List.mem_append] at h
  rcases h with (h | h) | h
  · unfold styleCalls at h
    split at h
    · cases h
    · next hs => exact .inl ⟨by simp [hs], by rw [List.mem_singleton.mp h, hs]⟩
  · unfold inputCalls at h
    split at h
    · next hi =>
      rcases List.mem_append.mp h with h | h
      · obtain ⟨text, htext, rfl⟩ := Option.map_eq_some_iff.mp (Option.mem_toList.mp h)
        exact .inr (.inl ⟨text, hi, htext, rfl⟩)
      · split at h
        · exact .inr (.inr (.inl (List.mem_singleton.mp h)))
        · cases h
    · cases h
  · unfold propertyCalls at h
    split at h
    · cases h
    · next hs => exact .inr (.inr (.inr ⟨by simp [hs], by rw [List.mem_singleton.mp h, hs]⟩))

/-- The call that an element can make for its content. -/
theorem mem_contentCalls {tag : Tag} {children : List Node} {kept : List Expr} {c : Call}
    (h : c ∈ contentCalls tag children kept) :
    (∃ content, tag.name = "textarea" ∧ areaText? children = some content ∧
      c = ⟨"value", [quoted (Text.trim content)]⟩) ∨
    (tag.name ≠ "textarea" ∧ kept ≠ [] ∧ c = ⟨"children", kept⟩) := by
  unfold contentCalls at h
  split at h
  · next ht =>
    obtain ⟨content, hcontent, rfl⟩ := Option.map_eq_some_iff.mp (Option.mem_toList.mp h)
    exact .inl ⟨content, ht, hcontent, rfl⟩
  · next ht =>
    cases kept with
    | nil => cases h
    | cons e rest => exact .inr ⟨ht, by simp, List.mem_singleton.mp h⟩

/-! ## Emitted expressions are well spelled -/

theorem chainOn_wellSpelled {head : Expr} {calls : List Call} (h : head.WellSpelled)
    (hc : ∀ c ∈ calls, IsWord c.name.toList ∧ ArgsWellSpelled c.args) :
    (chainOn head calls).WellSpelled := by
  induction calls generalizing head with
  | nil => exact h
  | cons c calls ih =>
    obtain ⟨hname, hargs⟩ := hc c (by simp)
    exact ih ⟨⟨h, hname⟩, hargs⟩ (fun d hd => hc d (by simp [hd]))

theorem inputSubtypes_wordParts :
    ∀ pair ∈ inputSubtypes, pair.2.toList.all isWordPart = true := by decide

/-- Every ending of an input's constructor continues a word. -/
theorem inputSubtype_wordParts (type : Option String) :
    (inputSubtype type).toList.all isWordPart = true := by
  cases h : type.bind (List.lookup · inputSubtypes) with
  | none =>
    rw [inputSubtype, h]
    decide
  | some ending =>
    obtain ⟨name, rfl, hname⟩ := Option.bind_eq_some_iff.mp h
    obtain ⟨before, after, htable, _⟩ := List.lookup_eq_some_iff.mp hname
    rw [inputSubtype, h]
    exact inputSubtypes_wordParts (name, ending) (by simp [htable])

theorem isWord_input (type : Option String) :
    IsWord ("input" ++ inputSubtype type).toList := by
  have hi : "input".toList = 'i' :: "nput".toList := rfl
  rw [String.toList_append, hi, List.cons_append]
  refine ⟨by decide, ?_⟩
  rw [← List.all_eq_true, List.all_append, inputSubtype_wordParts]
  decide

theorem classArgs_wellSpelled {tag : Tag} (htexts : ∀ s ∈ tagTexts tag, EvenRuns s.toList) :
    ArgsWellSpelled ((nonEmpty? tag "class").map quoted).toList := by
  cases hv : nonEmpty? tag "class" with
  | none => trivial
  | some text =>
    have ht : EvenRuns text.toList := htexts text (by simp [tagTexts, hv])
    exact ⟨ht.isLiteral_quote, trivial⟩

theorem chainHead_wellSpelled {tag : Tag}
    (hname : tag.name ≠ "input" → IsWord tag.name.toList)
    (htexts : ∀ s ∈ tagTexts tag, EvenRuns s.toList) : (chainHead tag).WellSpelled := by
  refine ⟨⟨show IsWord "h".toList by decide, ?_⟩, classArgs_wellSpelled htexts⟩
  by_cases hi : tag.name = "input"
  · simpa [hi] using isWord_input (tag.value? "type")
  · simpa [hi] using hname hi

theorem entriesWellSpelled_map {α : Type} {key : α → String} {value : α → Expr} (items : List α)
    (h : ∀ a ∈ items, EvenRuns (key a).toList ∧ (value a).WellSpelled) :
    EntriesWellSpelled (items.map fun a => (Text.quote (key a), value a)) := by
  induction items with
  | nil => trivial
  | cons a items ih =>
    obtain ⟨hkey, hvalue⟩ := h a (by simp)
    exact ⟨.inr hkey.isLiteral_quote, hvalue, ih (fun b hb => h b (by simp [hb]))⟩

theorem PropertyValue.expr_wellSpelled {value : PropertyValue}
    (h : ∀ s ∈ value.texts, EvenRuns s.toList) : value.expr.WellSpelled := by
  cases value with
  | flag => exact show IsWord "true".toList by decide
  | text content => exact (h content (by simp [texts])).isLiteral_quote

theorem tagCalls_wellSpelled {tag : Tag} (htexts : ∀ s ∈ tagTexts tag, EvenRuns s.toList) :
    ∀ c ∈ tagCalls tag, IsWord c.name.toList ∧ ArgsWellSpelled c.args := by
  intro c hc
  rcases mem_tagCalls hc with ⟨_, rfl⟩ | ⟨text, hi, hv, rfl⟩ | rfl | ⟨_, rfl⟩
  · refine ⟨show IsWord "style".toList by decide, entriesWellSpelled_map _ ?_, trivial⟩
    intro pair hp
    have hvalue := htexts pair.2 (mem_tagTexts_style hp (by simp))
    exact ⟨htexts pair.1 (mem_tagTexts_style hp (by simp)), hvalue.isLiteral_quote⟩
  · have hmem : text ∈ tagTexts tag := by simp [tagTexts, hi, hv]
    exact ⟨show IsWord "value".toList by decide, (htexts text hmem).isLiteral_quote, trivial⟩
  · exact ⟨show IsWord "checked".toList by decide, show IsWord "true".toList by decide, trivial⟩
  · refine ⟨show IsWord "props".toList by decide, entriesWellSpelled_map _ ?_, trivial⟩
    intro pair hp
    refine ⟨htexts pair.1 (mem_tagTexts_property hp (by simp)),
      PropertyValue.expr_wellSpelled fun s hs => ?_⟩
    exact htexts s (mem_tagTexts_property hp (by simp [hs]))

mutual

theorem chainExpr_wellSpelled (o : Options) (node : Node)
    (htags : ∀ tag ∈ nodeTags node, tag.name ≠ "input" → IsWord tag.name.toList)
    (htexts : ∀ s ∈ nodeTexts o node, EvenRuns s.toList) : (chainExpr o node).WellSpelled := by
  match node with
  | .text content => exact (htexts content (by simp [nodeTexts])).isLiteral_quote
  | .element tag children =>
    have htag : ∀ s ∈ tagTexts tag, EvenRuns s.toList :=
      fun s hs => htexts s (by simp [nodeTexts, hs])
    rw [chainExpr]
    have hhead := chainHead_wellSpelled (htags tag (by simp [nodeTags])) htag
    apply chainOn_wellSpelled hhead
    intro c hc
    rcases List.mem_append.mp hc with hc | hc
    · exact tagCalls_wellSpelled htag c hc
    · rcases mem_contentCalls hc with ⟨content, ht, harea, rfl⟩ | ⟨ht, _, rfl⟩
      · have hmem : Text.trim content ∈ nodeTexts o (.element tag children) := by
          simp [nodeTexts, ht, harea]
        exact ⟨show IsWord "value".toList by decide, (htexts _ hmem).isLiteral_quote, trivial⟩
      · refine ⟨show IsWord "children".toList by decide, keptExprs_wellSpelled o children ?_ ?_⟩
        · exact fun t hm => htags t (by simp [nodeTags, ht, hm])
        · exact fun s hm => htexts s (by simp [nodeTexts, ht, hm])

theorem keptExprs_wellSpelled (o : Options) (nodes : List Node)
    (htags : ∀ tag ∈ childTags nodes, tag.name ≠ "input" → IsWord tag.name.toList)
    (htexts : ∀ s ∈ childTexts o nodes, EvenRuns s.toList) :
    ArgsWellSpelled (keptExprs o nodes) := by
  match nodes with
  | [] => trivial
  | node :: rest =>
    have hrest := keptExprs_wellSpelled o rest (fun t ht => htags t (by simp [childTags, ht]))
    rw [keptExprs]
    rw [childTexts] at htexts
    split
    · next hk =>
      rw [if_pos hk] at htexts
      refine ⟨chainExpr_wellSpelled o node ?_ ?_, hrest ?_⟩
      · exact fun t ht => htags t (by simp [childTags, ht])
      · exact fun s hs => htexts s (by simp [hs])
      · exact fun s hs => htexts s (by simp [hs])
    · next hk =>
      rw [if_neg hk] at htexts
      exact hrest htexts

end

/-! ## The calls of a chain -/

mutual

/-- An expression and all that stand inside it. -/
def subexprs : Expr → List Expr
  | .ident name => [.ident name]
  | .literal text => [.literal text]
  | .object entries => .object entries :: entriesSubexprs entries
  | .member target name => .member target name :: subexprs target
  | .call callee args => .call callee args :: (subexprs callee ++ argsSubexprs args)

def argsSubexprs : List Expr → List Expr
  | [] => []
  | e :: rest => subexprs e ++ argsSubexprs rest

def entriesSubexprs : List (String × Expr) → List Expr
  | [] => []
  | (_, e) :: rest => subexprs e ++ entriesSubexprs rest

end

/-- Wherever a call stands in an expression, `P` holds of it and of what it is made on. -/
def EachCall (P : Expr → Call → Prop) (e : Expr) : Prop :=
  ∀ target c, c.on target ∈ subexprs e → P target c

section EachCall

variable {P : Expr → Call → Prop}

theorem eachCall_quoted (s : String) : EachCall P (quoted s) := by
  intro target c h
  simp [quoted, subexprs, Call.on] at h

theorem eachCall_ident (s : String) : EachCall P (.ident s) := by
  intro target c h
  simp [subexprs, Call.on] at h

theorem PropertyValue.eachCall_expr (value : PropertyValue) : EachCall P value.expr := by
  cases value with
  | flag => exact eachCall_ident "true"
  | text content => exact eachCall_quoted content

theorem eachCall_map {α : Type} {key : α → String} {value : α → Expr} (items : List α)
    (h : ∀ a ∈ items, EachCall P (value a)) :
    EachCall P (.object (items.map fun a => (key a, value a))) := by
  intro target c hm
  simp only [subexprs, List.mem_cons, Call.on, reduceCtorEq, false_or] at hm
  induction items with
  | nil => cases hm
  | cons a items ih =>
    rcases List.mem_append.mp hm with hm | hm
    · exact h a (by simp) target c hm
    · exact ih (fun b hb => h b (by simp [hb])) hm

theorem eachCall_args {args : List Expr} (h : ∀ e ∈ args, EachCall P e) (target : Expr) (c : Call)
    (hm : c.on target ∈ argsSubexprs args) : P target c := by
  induction args with
  | nil => cases hm
  | cons e rest ih =>
    rcases List.mem_append.mp hm with hm | hm
    · exact h e (by simp) target c hm
    · exact ih (fun d hd => h d (by simp [hd])) hm

/-- A further call on an expression. -/
theorem eachCall_on {target : Expr} {c : Call} (h : EachCall P target) (hc : P target c)
    (hargs : ∀ e ∈ c.args, EachCall P e) : EachCall P (c.on target) := by
  intro target' d hm
  simp only [Call.on, subexprs, List.mem_cons, List.mem_append] at hm
  rcases hm with hm | (hm | hm) | hm
  · obtain ⟨name, args⟩ := d
    cases hm
    exact hc
  · cases hm
  · exact h target' d hm
  · exact eachCall_args hargs target' d hm

theorem eachCall_chainOn {head : Expr} {calls : List Call} (h : EachCall P head)
    (hc : ∀ c ∈ calls, (∀ target, P target c) ∧ ∀ e ∈ c.args, EachCall P e) :
    EachCall P (chainOn head calls) := by
  induction calls generalizing head with
  | nil => exact h
  | cons c calls ih =>
    obtain ⟨hcall, hargs⟩ := hc c (by simp)
    exact ih (eachCall_on h (hcall head) hargs) (fun d hd => hc d (by simp [hd]))

theorem eachCall_single {e : Expr} (he : EachCall P e) : ∀ d ∈ [e], EachCall P d := by
  intro d hd
  obtain rfl := List.mem_singleton.mp hd
  exact he

/-- There is no call inside the arguments of the calls before the content. -/
theorem tagCalls_args (tag : Tag) : ∀ c ∈ tagCalls tag, ∀ e ∈ c.args, EachCall P e := by
  intro c hc
  rcases mem_tagCalls hc with ⟨_, rfl⟩ | ⟨text, _, _, rfl⟩ | rfl | ⟨_, rfl⟩
  · exact eachCall_single (eachCall_map _ fun pair _ => eachCall_quoted pair.2)
  · exact eachCall_single (eachCall_quoted text)
  · exact eachCall_single (eachCall_ident "true")
  · exact eachCall_single (eachCall_map _ fun pair _ => pair.2.eachCall_expr)

theorem eachCall_chainHead {tag : Tag}
    (h : ∀ c : Call, chainHead tag = c.on (.ident "h") → P (.ident "h") c) :
    EachCall P (chainHead tag) := by
  apply eachCall_on (eachCall_ident "h") (h _ rfl)
  intro e he
  obtain ⟨text, _, rfl⟩ := Option.map_eq_some_iff.mp (Option.mem_toList.mp he)
  exact eachCall_quoted text

variable {o : Options}

mutual

/-- Every call of a chain is the constructor of an element, one of the calls before its content or
the call for the content. -/
theorem eachCall_chainExpr
    (hhead : ∀ tag, ∀ c : Call, chainHead tag = c.on (.ident "h") → P (.ident "h") c)
    (htag : ∀ tag, ∀ c ∈ tagCalls tag, ∀ target, P target c)
    (hcontent : ∀ tag children, ∀ c ∈ contentCalls tag children (keptExprs o children),
      ∀ target, P target c) (node : Node) : EachCall P (chainExpr o node) := by
  match node with
  | .text content => exact eachCall_quoted content
  | .element tag children =>
    rw [chainExpr]
    apply eachCall_chainOn (eachCall_chainHead (hhead tag))
    intro c hc
    rcases List.mem_append.mp hc with hc | hc
    · exact ⟨htag tag c hc, tagCalls_args tag c hc⟩
    · have hargs := hcontent tag children c hc
      rcases mem_contentCalls hc with ⟨content, _, _, rfl⟩ | ⟨_, _, rfl⟩
      · exact ⟨hargs, eachCall_single (eachCall_quoted _)⟩
      · exact ⟨hargs, eachCall_keptExprs hhead htag hcontent children⟩

theorem eachCall_keptExprs
    (hhead : ∀ tag, ∀ c : Call, chainHead tag = c.on (.ident "h") → P (.ident "h") c)
    (htag : ∀ tag, ∀ c ∈ tagCalls tag, ∀ target, P target c)
    (hcontent : ∀ tag children, ∀ c ∈ contentCalls tag children (keptExprs o children),
      ∀ target, P target c) (nodes : List Node) : ∀ e ∈ keptExprs o nodes, EachCall P e := by
  match nodes with
  | [] => simp [keptExprs]
  | node :: rest =>
    intro e he
    have hrest := eachCall_keptExprs hhead htag hcontent rest
    rw [keptExprs] at he
    split at he
    · rcases List.mem_cons.mp he with rfl | he
      · exact eachCall_chainExpr hhead htag hcontent node
      · exact hrest e he
    · exact hrest e he

end

end EachCall

/-! ## No call is empty -/

theorem isWord_of_isComponentName {name : String} (h : isComponentName name = true) :
    IsWord name.toList := by
  unfold isComponentName at h
  split at h
  · cases h
  · next c cs hname =>
    rw [hname]
    obtain ⟨hc, hcs⟩ := Bool.and_eq_true_iff.mp h
    refine ⟨hc, fun d hd => ?_⟩
    have hd := List.all_eq_true.mp hcs d hd
    simp only [Bool.or_eq_true] at hd
    simp only [isWordPart, Bool.or_eq_true]
    exact .inl hd

theorem definition_eq (o : Options) (root : Element) :
    definition o root = ⟨o.name, chainExpr o root.toNode⟩ := by
  rw [definition, elementExpr, nodeExpr_eq]

theorem definition_wellSpelled {o : Options} {node : Node} (hname : isComponentName o.name = true)
    (htags : ∀ tag ∈ nodeTags node, tag.name ≠ "input" → IsWord tag.name.toList)
    (htexts : ∀ s ∈ nodeTexts o node, EvenRuns s.toList) :
    Definition.WellSpelled ⟨o.name, chainExpr o node⟩ :=
  ⟨isWord_of_isComponentName hname, chainExpr_wellSpelled o node htags htexts⟩

theorem reads_definition {o : Options} {node : Node} (hname : isComponentName o.name = true)
    (htags : ∀ tag ∈ nodeTags node, tag.name ≠ "input" → IsWord tag.name.toList)
    (htexts : ∀ s ∈ nodeTexts o node, EvenRuns s.toList) :
    ∃ ts, tokenize (Definition.mk o.name (chainExpr o node)).compact = .ok ts ∧
      Definition.ofTokens ts = .ok ⟨o.name, chainExpr o node⟩ := by
  obtain ⟨ls, hreads, hls⟩ := (definition_wellSpelled hname htags htexts).reads_compact
  obtain ⟨ts, hts, rfl⟩ := hreads.tokenize
  exact ⟨ts, hts, hls.ofTokens⟩

end MarkupChain.Component
