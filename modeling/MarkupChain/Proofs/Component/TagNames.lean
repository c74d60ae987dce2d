import MarkupChain.Proofs.Component.Emission
import MarkupChain.Proofs.Script.Formatting
import MarkupChain.Proofs.Script.PastedNames

/-!
# Names of elements in a formatted component

The name of an element stands in the chain as it is, and formatting is the only guard. Where it
succeeds, the name of an element starts with a word, provided that no name before it opens a literal
and leaves it open. A name without blanks, dots, commas and parentheses is then one word. If no name
has any of these, a component is formatted exactly when all names are words.
-/

namespace MarkupChain.Component

open Markup Script

/-! ## The strings of a tree -/

mutual

/-- All names, attributes and texts of a tree, emitted or not. -/
def nodeStrings : Node → List String
  | .text content => [content]
  | .element tag children =>
    tag.name :: (tag.attributes.flatMap (fun a => [a.name, a.value]) ++ childStrings children)

def childStrings : List Node → List String
  | [] => []
  | node :: rest => nodeStrings node ++ childStrings rest

end

mutual

theorem mem_nodeStrings {tag : Tag} (node : Node) (h : tag ∈ nodeTags node) :
    tag.name ∈ nodeStrings node := by
  match node with
  | .text content => cases h
  | .element tag' children =>
    rw [nodeTags] at h
    rcases List.mem_cons.mp h with rfl | h
    · simp [nodeStrings]
    · split at h
      · cases h
      · simp [nodeStrings, mem_childStrings children h]

theorem mem_childStrings {tag : Tag} (nodes : List Node) (h : tag ∈ childTags nodes) :
    tag.name ∈ childStrings nodes := by
  match nodes with
  | [] => cases h
  | node :: rest =>
    rw [childStrings, List.mem_append]
    rcases List.mem_append.mp h with h | h
    · exact .inl (mem_nodeStrings node h)
    · exact .inr (mem_childStrings rest h)

end

theorem mem_of_mem_splitOn {c d : Char} {cs piece : List Char} (h : piece ∈ cs.splitOn d)
    (hc : c ∈ piece) : c ∈ cs := by
  induction cs generalizing piece with
  | nil =>
    rw [List.splitOn_nil, List.mem_singleton] at h
    rwa [h] at hc
  | cons x cs ih =>
    rw [List.splitOn_cons_eq_if_modifyHead] at h
    split at h
    · rcases List.mem_cons.mp h with rfl | h
      · cases hc
      · exact List.mem_cons_of_mem x (ih h hc)
    · cases hp : cs.splitOn d with
      | nil => exact absurd hp (List.splitOn_ne_nil d cs)
      | cons first pieces =>
        rw [hp, List.modifyHead_cons] at h
        rcases List.mem_cons.mp h with rfl | h
        · rcases List.mem_cons.mp hc with rfl | hc
          · exact List.mem_cons_self
          · exact List.mem_cons_of_mem x (ih (by simp [hp]) hc)
        · exact List.mem_cons_of_mem x (ih (by simp [hp, h]) hc)

/-- Both sides of a declaration are cut out of the style. -/
theorem mem_of_mem_styles {style : String} {pair : String × String} (h : pair ∈ styles style)
    {c : Char} (hc : c ∈ pair.1.toList ∨ c ∈ pair.2.toList) : c ∈ style.toList := by
  obtain ⟨piece, hpiece, hpair⟩ := List.mem_filterMap.mp (Keyed.mem_of_mem_ofPairs h)
  refine mem_of_mem_splitOn hpiece ?_
  unfold declaration? at hpair
  split at hpair
  · cases hpair
  · next colon value hvalue =>
    cases hpair
    simp only [String.toList_ofList] at hc
    rcases hc with hc | hc
    · exact (List.takeWhile_sublist _).subset (Text.mem_of_mem_trimList hc)
    · have hmem : c ∈ colon :: value := List.mem_cons_of_mem _ (Text.mem_of_mem_trimList hc)
      rw [← hvalue] at hmem
      exact (List.dropWhile_sublist _).subset hmem

theorem Kind.property?_cases {kind : Kind} {name property : String}
    (h : kind.property? name = some property) :
    property = name ∨ property = "acceptCharset" ∨ property = "htmlFor" := by
  unfold Kind.property? at h
  grind

theorem mem_of_value? {tag : Tag} {name value : String} (h : tag.value? name = some value) :
    ∃ a ∈ tag.attributes, a.value = value := by
  obtain ⟨a, ha, rfl⟩ := Option.map_eq_some_iff.mp h
  exact ⟨a, List.mem_of_find?_eq_some ha, rfl⟩

section

variable {tag : Tag}
  (h : ∀ a ∈ tag.attributes, '\\' ∉ a.name.toList ∧ '\\' ∉ a.value.toList)
include h

theorem value?_plain {name value : String} (hv : tag.value? name = some value) :
    '\\' ∉ value.toList := by
  obtain ⟨a, ha, rfl⟩ := mem_of_value? hv
  exact (h a ha).2

theorem nonEmpty?_plain {name value : String} (hv : nonEmpty? tag name = some value) :
    '\\' ∉ value.toList :=
  value?_plain h (Option.filter_eq_some_iff.mp hv).1

theorem properties_plain {kind : Kind} {pair : String × PropertyValue}
    (hp : pair ∈ properties kind tag.attributes) :
    ∀ s ∈ pair.1 :: pair.2.texts, '\\' ∉ s.toList := by
  obtain ⟨a, ha, hpair⟩ := List.mem_filterMap.mp (Keyed.mem_of_mem_ofPairs hp)
  unfold property? at hpair
  split at hpair
  · cases hpair
  · obtain ⟨name, hname, rfl⟩ := Option.map_eq_some_iff.mp hpair
    intro s hs
    rcases List.mem_cons.mp hs with rfl | hs
    · rcases Kind.property?_cases hname with rfl | rfl | rfl
      · exact (h a ha).1
      · decide
      · decide
    · unfold PropertyValue.ofAttribute at hs
      split at hs
      · cases hs
      · rw [List.mem_singleton.mp hs]
        exact (h a ha).2

/-- No quoted text has a backslash when the attributes have none. -/
theorem tagTexts_plain : ∀ s ∈ tagTexts tag, '\\' ∉ s.toList := by
  intro s hs
  simp only [tagTexts, List.mem_append, List.mem_flatMap] at hs
  rcases hs with ((hs | ⟨pair, hp, hs⟩) | hs) | ⟨pair, hp, hs⟩
  · exact nonEmpty?_plain h (Option.mem_toList.mp hs)
  · intro hc
    have hstyle : '\\' ∈ ((tag.value? "style").getD "").toList := by
      refine mem_of_mem_styles hp ?_
      rcases (by simpa using hs : s = pair.1 ∨ s = pair.2) with rfl | rfl
      · exact .inl hc
      · exact .inr hc
    cases hv : tag.value? "style" with
    | none => simp [hv] at hstyle
    | some value =>
      rw [hv] at hstyle
      exact value?_plain h hv hstyle
  · split at hs
    · exact nonEmpty?_plain h (Option.mem_toList.mp hs)
    · cases hs
  · exact properties_plain h hp s hs

end

theorem areaText?_plain {nodes : List Node} (h : ∀ s ∈ childStrings nodes, '\\' ∉ s.toList)
    {content : String} (ha : areaText? nodes = some content) : '\\' ∉ content.toList := by
  unfold areaText? at ha
  split at ha
  · split at ha
    · cases ha
    · cases ha
      exact h content (by simp [childStrings, nodeStrings])
  · cases ha

mutual

theorem nodeTexts_plain (o : Options) (node : Node)
    (h : ∀ s ∈ nodeStrings node, '\\' ∉ s.toList) : ∀ s ∈ nodeTexts o node, '\\' ∉ s.toList := by
  match node with
  | .text content => exact h
  | .element tag children =>
    intro s hs
    rw [nodeTexts] at hs
    have hchildren : ∀ s ∈ childStrings children, '\\' ∉ s.toList :=
      fun s hs => h s (by simp [nodeStrings, hs])
    rcases List.mem_append.mp hs with hs | hs
    · refine tagTexts_plain (fun a ha => ⟨h a.name ?_, h a.value ?_⟩) s hs <;>
        simp only [nodeStrings, List.mem_cons, List.mem_append, List.mem_flatMap]
      · exact .inr (.inl ⟨a, ha, .inl rfl⟩)
      · exact .inr (.inl ⟨a, ha, .inr (.inl rfl)⟩)
    · split at hs
      · obtain ⟨content, harea, rfl⟩ := Option.map_eq_some_iff.mp (Option.mem_toList.mp hs)
        rw [Text.toList_trim]
        exact fun hc => areaText?_plain hchildren harea (Text.mem_of_mem_trimList hc)
      · exact childTexts_plain o children hchildren s hs

theorem childTexts_plain (o : Options) (nodes : List Node)
    (h : ∀ s ∈ childStrings nodes, '\\' ∉ s.toList) :
    ∀ s ∈ childTexts o nodes, '\\' ∉ s.toList := by
  match nodes with
  | [] => simp [childTexts]
  | node :: rest =>
    have hnode := nodeTexts_plain o node (fun s hs => h s (by simp [childStrings, hs]))
    have hrest := childTexts_plain o rest (fun s hs => h s (by simp [childStrings, hs]))
    intro s hs
    rw [childTexts] at hs
    split at hs
    · exact (List.mem_append.mp hs).elim (hnode s) (hrest s)
    · exact hrest s hs

end

theorem nodeTexts_evenRuns {node : Node} (o : Options)
    (h : ∀ s ∈ nodeStrings node, '\\' ∉ s.toList) : ∀ s ∈ nodeTexts o node, EvenRuns s.toList :=
  fun s hs => evenRuns_of_not_mem (nodeTexts_plain o node h s hs)

/-! ## Where a name stands in the text -/

/-- A call as it is written behind its target. -/
def Call.text (c : Call) : String :=
  "." ++ c.name ++ "(" ++ ",".intercalate (compactArgs c.args) ++ ")"

theorem Call.compact_on (target : Expr) (c : Call) :
    (c.on target).compact = target.compact ++ c.text := by
  simp [Call.on, Expr.compact, Call.text, ← String.toList_inj]

theorem compact_chainOn (head : Expr) (calls : List Call) :
    (chainOn head calls).compact = head.compact ++ String.join (calls.map Call.text) := by
  induction calls generalizing head with
  | nil => simp
  | cons c calls ih =>
    rw [chainOn_cons, ih, Call.compact_on, List.map_cons, String.join_cons, String.append_assoc]

theorem Call.closed_text {c : Call} (hname : Closed c.name.toList)
    (hargs : Closed (",".intercalate (compactArgs c.args)).toList) : Closed c.text.toList := by
  simp only [Call.text, String.toList_append]
  have hdot := (closed_symbol .dot).append hname
  have hopen := (hdot.append (closed_symbol .openParen)).append hargs
  exact hopen.append (closed_symbol .closeParen)

theorem closed_chainOn {head : Expr} {calls : List Call} (h : Closed head.compact.toList)
    (hc : ∀ c ∈ calls, Closed c.text.toList) : Closed (chainOn head calls).compact.toList := by
  induction calls generalizing head with
  | nil => exact h
  | cons c calls ih =>
    refine ih ?_ (fun d hd => hc d (by simp [hd]))
    rw [Call.compact_on, String.toList_append]
    exact h.append (hc c (by simp))

theorem closed_args {args : List Expr} (h : ArgsWellSpelled args) :
    Closed (",".intercalate (compactArgs args)).toList :=
  (prints_compactArgs args h).closed

theorem closed_chainHead {tag : Tag} (hname : tag.name ≠ "input" → Closed tag.name.toList)
    (htexts : ∀ s ∈ tagTexts tag, EvenRuns s.toList) : Closed (chainHead tag).compact.toList := by
  rw [chainHead, Call.compact_on, String.toList_append]
  have hh : Closed (Expr.ident "h").compact.toList := IsWord.closed (by decide)
  refine hh.append (Call.closed_text ?_ (closed_args ?_))
  · by_cases hi : tag.name = "input"
    · simpa [hi] using (isWord_input (tag.value? "type")).closed
    · simpa [hi] using hname hi
  · exact classArgs_wellSpelled htexts

theorem closed_tagCalls {tag : Tag} (htexts : ∀ s ∈ tagTexts tag, EvenRuns s.toList) :
    ∀ c ∈ tagCalls tag, Closed c.text.toList := by
  intro c hc
  obtain ⟨hname, hargs⟩ := tagCalls_wellSpelled htexts c hc
  exact Call.closed_text hname.closed (closed_args hargs)

mutual

theorem closed_chainExpr (o : Options) (node : Node)
    (htags : ∀ tag ∈ nodeTags node, tag.name ≠ "input" → Closed tag.name.toList)
    (htexts : ∀ s ∈ nodeTexts o node, EvenRuns s.toList) :
    Closed (chainExpr o node).compact.toList := by
  match node with
  | .text content => exact (htexts content (by simp [nodeTexts])).isLiteral_quote.closed
  | .element tag children =>
    have htag : ∀ s ∈ tagTexts tag, EvenRuns s.toList :=
      fun s hs => htexts s (by simp [nodeTexts, hs])
    rw [chainExpr]
    apply closed_chainOn (closed_chainHead (htags tag (by simp [nodeTags])) htag)
    intro c hc
    rcases List.mem_append.mp hc with hc | hc
    · exact closed_tagCalls htag c hc
    · rcases mem_contentCalls hc with ⟨content, ht, harea, rfl⟩ | ⟨ht, _, rfl⟩
      · have hmem : Text.trim content ∈ nodeTexts o (.element tag children) := by
          simp [nodeTexts, ht, harea]
        exact Call.closed_text (IsWord.closed (show IsWord "value".toList by decide))
          (closed_args ⟨(htexts _ hmem).isLiteral_quote, trivial⟩)
      · refine Call.closed_text (IsWord.closed (show IsWord "children".toList by decide))
          (closed_keptExprs o children ?_ ?_)
        · exact fun t hm => htags t (by simp [nodeTags, ht, hm])
        · exact fun s hm => htexts s (by simp [nodeTexts, ht, hm])

theorem closed_keptExprs (o : Options) (nodes : List Node)
    (htags : ∀ tag ∈ childTags nodes, tag.name ≠ "input" → Closed tag.name.toList)
    (htexts : ∀ s ∈ childTexts o nodes, EvenRuns s.toList) :
    Closed (",".intercalate (compactArgs (keptExprs o nodes))).toList := by
  match nodes with
  | [] => exact .nil
  | node :: rest =>
    have hrest := closed_keptExprs o rest (fun t ht => htags t (by simp [childTags, ht]))
    rw [keptExprs]
    rw [childTexts] at htexts
    split
    · next hk =>
      rw [if_pos hk] at htexts
      have hnode := closed_chainExpr o node (fun t ht => htags t (by simp [childTags, ht]))
        (fun s hs => htexts s (by simp [hs]))
      exact hnode.intercalate (hrest fun s hs => htexts s (by simp [hs]))
    · next hk =>
      rw [if_neg hk] at htexts
      exact hrest htexts

end

theorem pastedIn_chainHead {tag : Tag} (htag : tag.name ≠ "input") :
    PastedIn tag.name (chainHead tag).compact := by
  rw [chainHead, Call.compact_on, Call.text, if_neg htag]
  generalize ((nonEmpty? tag "class").map quoted).toList = args
  refine ⟨[], (",".intercalate (compactArgs args)).toList ++ [')'], ?_, .inl rfl⟩
  simp [Expr.compact]

mutual

/-- Each name is pasted into the text, as far as the names before it leave no literal open. -/
theorem pastedIn_chainExpr (o : Options) (node : Node)
    (htexts : ∀ s ∈ nodeTexts o node, EvenRuns s.toList) {before after : List Tag} {tag : Tag}
    (htags : nodeTags node = before ++ tag :: after)
    (hbefore : ∀ t ∈ before, t.name ≠ "input" → Closed t.name.toList) (htag : tag.name ≠ "input") :
    PastedIn tag.name (chainExpr o node).compact := by
  match node with
  | .text content => simp [nodeTags] at htags
  | .element tag' children =>
    rw [nodeTags] at htags
    rw [chainExpr]
    cases before with
    | nil =>
      obtain ⟨rfl, _⟩ := List.cons.inj htags
      rw [compact_chainOn]
      exact (pastedIn_chainHead htag).append _
    | cons first before =>
      obtain ⟨rfl, hrest⟩ := List.cons.inj htags
      have htextarea : tag'.name ≠ "textarea" := by
        intro ht
        simp [ht] at hrest
      rw [if_neg htextarea] at hrest
      have hkept := pastedIn_keptExprs o children
        (fun s hs => htexts s (by simp [nodeTexts, htextarea, hs])) hrest
        (fun t ht => hbefore t (by simp [ht])) htag
      cases hk : keptExprs o children with
      | nil =>
        rw [hk] at hkept
        exact absurd hkept (not_pastedIn_empty tag.name)
      | cons e es =>
        have htag' : ∀ s ∈ tagTexts tag', EvenRuns s.toList :=
          fun s hs => htexts s (by simp [nodeTexts, hs])
        have hfront := closed_chainOn (closed_chainHead (hbefore tag' (by simp)) htag')
          (closed_tagCalls htag')
        have hcall : Closed
            ((chainOn (chainHead tag') (tagCalls tag')).compact ++ ".children").toList := by
          rw [String.toList_append]
          exact hfront.append (closed_of_not_mem (by decide) (by decide))
        rw [contentCalls, if_neg htextarea, chainOn_append, chainOn_cons, chainOn_nil,
          Call.compact_on, Call.text]
        rw [hk] at hkept
        have hpasted := (hkept.behind hcall .openParen (.inl rfl)).append ")"
        simpa [String.append_assoc, Symbol.char] using hpasted

theorem pastedIn_keptExprs (o : Options) (nodes : List Node)
    (htexts : ∀ s ∈ childTexts o nodes, EvenRuns s.toList) {before after : List Tag} {tag : Tag}
    (htags : childTags nodes = before ++ tag :: after)
    (hbefore : ∀ t ∈ before, t.name ≠ "input" → Closed t.name.toList) (htag : tag.name ≠ "input") :
    PastedIn tag.name (",".intercalate (compactArgs (keptExprs o nodes))) := by
  match nodes with
  | [] => simp [childTags] at htags
  | node :: rest =>
    rw [keptExprs]
    rw [childTexts] at htexts
    rcases split_append htags with ⟨post, hnode⟩ | ⟨front, rfl, hrest⟩
    · have hk : isKept o node = true := by
        cases node with
        | text content => simp [nodeTags] at hnode
        | element tag children => rfl
      rw [if_pos hk] at htexts ⊢
      have hpasted := pastedIn_chainExpr o node (fun s hs => htexts s (by simp [hs])) hnode hbefore
        htag
      exact hpasted.first _
    · have hfront : ∀ t ∈ front, t.name ≠ "input" → Closed t.name.toList :=
        fun t ht => hbefore t (by simp [ht])
      split
      · next hk =>
        rw [if_pos hk] at htexts
        have hclosed := closed_chainExpr o node (fun t ht => hbefore t (by simp [ht]))
          (fun s hs => htexts s (by simp [hs]))
        have hpasted := pastedIn_keptExprs o rest (fun s hs => htexts s (by simp [hs])) hrest hfront
          htag
        exact hpasted.later hclosed
      · next hk =>
        rw [if_neg hk] at htexts
        exact pastedIn_keptExprs o rest htexts hrest hfront htag

end

/-! ## The names of a formatted component -/

section

variable {o : Options} {node : Node} (hname : isComponentName o.name = true)
  (hplain : ∀ s ∈ nodeStrings node, '\\' ∉ s.toList)
include hname hplain

theorem leadsWithWord_of_format {w : Widths} {out : String}
    (hformat : format w (Definition.mk o.name (chainExpr o node)).compact = .ok out)
    {before after : List Tag} {tag : Tag}
    (htags : nodeTags node = before ++ tag :: after) (htag : tag.name ≠ "input")
    (hbefore : ∀ t ∈ before, t.name ≠ "input" → t.name.toList.count '"' % 2 = 0) :
    LeadsWithWord tag.name.toList := by
  rcases format_cases hformat with ⟨hblank, _⟩ | ⟨ts, d, hts, hd, _⟩
  · simp [Text.isBlankText, Definition.compact, Text.isBlank] at hblank
  · have hclosed : ∀ t ∈ before, t.name ≠ "input" → Closed t.name.toList := by
      intro t ht hi
      have hmem : t ∈ nodeTags node := by simp [htags, ht]
      exact closed_of_even (hplain _ (mem_nodeStrings node hmem)) (hbefore t ht hi)
    exact leadsWithWord_of_pastedIn (isWord_of_isComponentName hname) hts hd
      (pastedIn_chainExpr o node (nodeTexts_evenRuns o hplain) htags hclosed htag)

/-- One name after the other is a word, since those before it are words and have no quotes. -/
theorem isWord_of_format {w : Widths} {out : String}
    (hformat : format w (Definition.mk o.name (chainExpr o node)).compact = .ok out)
    (hchars : ∀ tag ∈ nodeTags node, tag.name ≠ "input" →
      ∀ c ∈ tag.name.toList, Text.isBlank c = false ∧ c ∉ ['.', ',', '(', ')'])
    {before after : List Tag} (htags : nodeTags node = before ++ after)
    (hbefore : ∀ tag ∈ before, tag.name ≠ "input" → IsWord tag.name.toList) :
    ∀ tag ∈ nodeTags node, tag.name ≠ "input" → IsWord tag.name.toList := by
  induction after generalizing before with
  | nil => simpa [htags] using hbefore
  | cons tag after ih =>
    have hquotes : ∀ t ∈ before, t.name ≠ "input" → t.name.toList.count '"' % 2 = 0 := by
      intro t ht hi
      have hquote : '"' ∉ t.name.toList :=
        fun hm => absurd ((hbefore t ht hi).all_wordPart _ hm) (by decide)
      rw [List.count_eq_zero.mpr hquote]
    have htag : tag.name ≠ "input" → IsWord tag.name.toList := by
      intro hi
      have hlead := leadsWithWord_of_format hname hplain hformat htags hi hquotes
      exact hlead.isWord (hchars tag (by simp [htags]) hi)
    have hnext : nodeTags node = (before ++ [tag]) ++ after := by simpa using htags
    apply ih hnext
    intro t ht
    rcases List.mem_append.mp ht with ht | ht
    · exact hbefore t ht
    · rwa [List.mem_singleton.mp ht]

theorem format_of_words (w : Widths)
    (htags : ∀ tag ∈ nodeTags node, tag.name ≠ "input" → IsWord tag.name.toList) :
    ∃ out, format w (Definition.mk o.name (chainExpr o node)).compact = .ok out := by
  obtain ⟨ts, hts, hd⟩ := reads_definition hname htags (nodeTexts_evenRuns o hplain)
  exact ⟨_, format_eq_layout hts hd⟩

end

/-- A component may be formatted although the name of an element is no word: `a.b` is read as a
member of a member. -/
theorem formatted_name_need_not_be_word :
    ¬ ∀ (o : Options) (w : Widths) (root : Element), isComponentName o.name = true →
      (∀ s ∈ nodeStrings root.toNode, '\\' ∉ s.toList) →
      (∃ out, format w (definition o root).compact = .ok out) →
      ∀ tag ∈ nodeTags root.toNode, tag.name ≠ "input" → IsWord tag.name.toList := by
  intro h
  have ht : tokenize (definition {} ⟨⟨"a.b", []⟩, []⟩).compact =
      .ok [⟨.word "function", 0⟩, ⟨.word "Component", 9⟩, ⟨.symbol .openParen, 18⟩,
        ⟨.symbol .closeParen, 19⟩, ⟨.symbol .openBrace, 21⟩, ⟨.word "return", 23⟩, ⟨.word "h", 30⟩,
        ⟨.symbol .dot, 31⟩, ⟨.word "a", 32⟩, ⟨.symbol .dot, 33⟩, ⟨.word "b", 34⟩,
        ⟨.symbol .openParen, 35⟩, ⟨.symbol .closeParen, 36⟩, ⟨.symbol .semicolon, 37⟩,
        ⟨.symbol .closeBrace, 39⟩] := rfl
  have hword := h {} {} ⟨⟨"a.b", []⟩, []⟩ (by decide) (by decide) ⟨_, format_eq_layout ht rfl⟩
    ⟨"a.b", []⟩ (by decide) (by decide)
  exact absurd hword (by decide)

/-- Without backslashes, the names of a component that is formatted start with a word, as far as
the quotes in the names before them come in pairs. If no name has a blank, a dot, a comma or a
parenthesis, a component is formatted exactly when its names are words, and otherwise an error is
reported. -/
theorem formatted_names_lead_with_words (o : Options) (w : Widths) (root : Element)
    (hname : isComponentName o.name = true)
    (hplain : ∀ s ∈ nodeStrings root.toNode, '\\' ∉ s.toList) :
    (∀ out, format w (definition o root).compact = .ok out →
      ∀ before tag after, nodeTags root.toNode = before ++ tag :: after → tag.name ≠ "input" →
        (∀ t ∈ before, t.name ≠ "input" → t.name.toList.count '"' % 2 = 0) →
        LeadsWithWord tag.name.toList) ∧
    ((∀ tag ∈ nodeTags root.toNode, tag.name ≠ "input" →
        ∀ c ∈ tag.name.toList, Text.isBlank c = false ∧ c ∉ ['.', ',', '(', ')']) →
      ((∃ out, format w (definition o root).compact = .ok out) ↔
        ∀ tag ∈ nodeTags root.toNode, tag.name ≠ "input" → IsWord tag.name.toList) ∧
      ((∃ e, format w (definition o root).compact = .error e) ↔
        ∃ tag ∈ nodeTags root.toNode, tag.name ≠ "input" ∧ ¬ IsWord tag.name.toList)) := by
  rw [definition_eq]
  generalize root.toNode = node at hplain ⊢
  refine ⟨fun out hout before tag after htags hi hbefore =>
    leadsWithWord_of_format hname hplain hout htags hi hbefore, fun hchars => ?_⟩
  have hok : (∃ out, format w (Definition.mk o.name (chainExpr o node)).compact = .ok out) ↔
      ∀ tag ∈ nodeTags node, tag.name ≠ "input" → IsWord tag.name.toList := by
    constructor
    · rintro ⟨out, hout⟩
      exact isWord_of_format hname hplain hout hchars (List.nil_append _).symm (by simp)
    · exact format_of_words hname hplain w
  refine ⟨hok, ?_⟩
  have herror : (∃ e, format w (Definition.mk o.name (chainExpr o node)).compact = .error e) ↔
      ¬ ∃ out, format w (Definition.mk o.name (chainExpr o node)).compact = .ok out := by
    cases format w (Definition.mk o.name (chainExpr o node)).compact <;> simp
  rw [herror, hok]
  simp only [Classical.not_forall, exists_prop]

/-- A child behind a dotted name, and a name that is refused inside a list. -/
theorem formatted_names_lead_with_words_nested :
    (∃ out, format {} (definition {} ⟨⟨"a.b", []⟩, [.element ⟨"my-el", []⟩ []]⟩).compact = .ok out ∧
      LeadsWithWord "my-el".toList) ∧
    ∃ e, format {} (definition {} ⟨⟨"ul", []⟩, [.element ⟨"a:b", []⟩ []]⟩).compact = .error e := by
  have ht : tokenize (definition {} ⟨⟨"a.b", []⟩, [.element ⟨"my-el", []⟩ []]⟩).compact =
      .ok [⟨.word "function", 0⟩, ⟨.word "Component", 9⟩, ⟨.symbol .openParen, 18⟩,
        ⟨.symbol .closeParen, 19⟩, ⟨.symbol .openBrace, 21⟩, ⟨.word "return", 23⟩, ⟨.word "h", 30⟩,
        ⟨.symbol .dot, 31⟩, ⟨.word "a", 32⟩, ⟨.symbol .dot, 33⟩, ⟨.word "b", 34⟩,
        ⟨.symbol .openParen, 35⟩, ⟨.symbol .closeParen, 36⟩, ⟨.symbol .dot, 37⟩,
        ⟨.word "children", 38⟩, ⟨.symbol .openParen, 46⟩, ⟨.word "h", 47⟩, ⟨.symbol .dot, 48⟩,
        ⟨.word "my-el", 49⟩, ⟨.symbol .openParen, 54⟩, ⟨.symbol .closeParen, 55⟩,
        ⟨.symbol .closeParen, 56⟩, ⟨.symbol .semicolon, 57⟩, ⟨.symbol .closeBrace, 59⟩] := rfl
  have hformat := format_eq_layout (w := {}) ht rfl
  have hlead := (formatted_names_lead_with_words {} {} ⟨⟨"a.b", []⟩, [.element ⟨"my-el", []⟩ []]⟩
    (by decide) (by decide)).1 _ hformat [⟨"a.b", []⟩] ⟨"my-el", []⟩ [] rfl (by decide) (by decide)
  have herror := ((formatted_names_lead_with_words {} {} ⟨⟨"ul", []⟩, [.element ⟨"a:b", []⟩ []]⟩
    (by decide) (by decide)).2
    (by simp [Element.toNode, nodeTags, childTags, Text.isBlank])).2.mpr ⟨⟨"a:b", []⟩, by decide⟩
  exact ⟨⟨_, hformat, hlead⟩, herror⟩

end MarkupChain.Component
