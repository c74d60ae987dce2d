import Mathlib
import MarkupChain.Proofs.Markup.RawText

/-!
# Names of attributes in parsed markup

A tag is drafted attribute by attribute: the letters of a name are put in lower case as they are
read, and an attribute is left out if the draft has one of its name already. So each start tag that
the tokenizer says has attributes of distinct names in lower case, whatever quotes and references
its values hold. The elements of parsed markup have the tags of these tokens.
-/

namespace MarkupChain.Markup

/-- No capital letter of ASCII. -/
def IsLowerCase (name : String) : Prop := ∀ c ∈ name.toList, c.isUpper = false

theorem isLowerCase_singleton (c : Char) : IsLowerCase (String.singleton c.toLower) := by
  simp [IsLowerCase]

theorem IsLowerCase.push {name : String} (h : IsLowerCase name) (c : Char) :
    IsLowerCase (name.push c.toLower) := by
  intro d hd
  rw [String.toList_push, List.mem_append, List.mem_singleton] at hd
  rcases hd with hd | rfl
  · exact h d hd
  · exact Char.isUpper_toLower_eq_false c

/-- Names in lower case, none of them twice. -/
structure TidyNames (attributes : List Attribute) : Prop where
  distinct : (attributes.map (·.name)).Nodup
  lower : ∀ a ∈ attributes, IsLowerCase a.name

theorem TidyNames.nil : TidyNames [] := ⟨List.nodup_nil, by simp⟩

theorem TidyNames.concat {attributes : List Attribute} (h : TidyNames attributes) {a : Attribute}
    (hlower : IsLowerCase a.name) (hnew : a.name ∉ attributes.map (·.name)) :
    TidyNames (attributes ++ [a]) := by
  constructor
  · rw [List.map_append, List.map_singleton, ← List.concat_eq_append]
    exact h.distinct.concat hnew
  · intro b hb
    rcases List.mem_append.mp hb with hb | hb
    · exact h.lower b hb
    · rw [List.mem_singleton.mp hb]
      exact hlower

/-! ### Drafts -/

def Draft.Tidy (tag : Draft) : Prop := TidyNames tag.attributes

theorem Draft.Tidy.add {tag : Draft} (h : tag.Tidy) {name : String} (hname : IsLowerCase name)
    (value : String) : (tag.add name value).Tidy := by
  unfold Draft.add
  split
  · exact h
  · next hnew => exact TidyNames.concat h hname (by simpa using hnew)

/-- What is drafted is tidy, and so is the name that is being read. -/
def Zone.Tidy : Zone → Prop
  | .outside | .raw _ => True
  | .naming tag => tag.Tidy
  | .inTag tag reading => tag.Tidy ∧ ∀ name ∈ reading, IsLowerCase name

def Token.Tidy : Token → Prop
  | .startTag tag _ => TidyNames tag.attributes
  | _ => True

theorem Draft.Tidy.emit {tag : Draft} (h : tag.Tidy) (selfClosing : Bool) :
    (tag.emit selfClosing).1.zone.Tidy ∧ ∀ t ∈ (tag.emit selfClosing).2, t.Tidy := by
  unfold Draft.emit
  split
  · exact ⟨trivial, List.forall_mem_singleton.mpr trivial⟩
  · refine ⟨?_, List.forall_mem_singleton.mpr h⟩
    unfold contentState
    split
    · trivial
    · trivial

/-! ### Effects -/

/-- One effect. -/
theorem Effect.tidy {a b : Zone} {ts : List Token} (h : Effect a ts b) (ha : a.Tidy) :
    b.Tidy ∧ ∀ t ∈ ts, t.Tidy := by
  cases h with
  | text zone content => exact ⟨ha, List.forall_mem_singleton.mpr trivial⟩
  | comment | doctype | null => exact ⟨trivial, List.forall_mem_singleton.mpr trivial⟩
  | start closing name => exact ⟨TidyNames.nil, by simp⟩
  | rename tag name => exact ⟨ha, by simp⟩
  | named tag => exact ⟨⟨ha, by simp⟩, by simp⟩
  | openName tag c =>
    refine ⟨⟨ha.1, ?_⟩, by simp⟩
    intro name hname
    cases hname
    exact isLowerCase_singleton c
  | pushName tag name c =>
    refine ⟨⟨ha.1, ?_⟩, by simp⟩
    intro longer hlonger
    cases hlonger
    exact (ha.2 name rfl).push c
  | add tag name value => exact ⟨⟨ha.1.add (ha.2 name rfl) value, by simp⟩, by simp⟩
  | emit tag selfClosing => exact ha.1.emit selfClosing
  | leave element => exact ⟨⟨TidyNames.nil, by simp⟩, by simp⟩

theorem Effects.tidy {a b : Zone} {ts : List Token} (h : Effects a ts b) (ha : a.Tidy) :
    b.Tidy ∧ ∀ t ∈ ts, t.Tidy := by
  induction h with
  | refl zone => exact ⟨ha, by simp⟩
  | step hfirst _ ih =>
    obtain ⟨hb, htokens⟩ := hfirst.tidy ha
    obtain ⟨hc, hmore⟩ := ih hb
    exact ⟨hc, List.forall_mem_append.mpr ⟨htokens, hmore⟩⟩

theorem tidy_tokens (html : String) : ∀ t ∈ tokens html, t.Tidy := by
  obtain ⟨ts, zone, htokens, heffects⟩ := effects_tokens html
  rw [htokens]
  exact List.forall_mem_append.mpr
    ⟨(heffects.tidy trivial).2, List.forall_mem_singleton.mpr trivial⟩

/-! ### Elements -/

theorem element_mem_joinTexts {tag : Tag} {items : List Item} :
    .element tag ∈ joinTexts items ↔ .element tag ∈ items := by
  induction items with
  | nil => rfl
  | cons item items ih =>
    have hjoin : .element tag ∈ item.join (joinTexts items) ↔
        .element tag = item ∨ .element tag ∈ joinTexts items := by
      unfold Item.join
      split
      · next before content rest hrest => simp [hrest]
      · exact List.mem_cons
    rw [joinTexts_cons, hjoin, ih, List.mem_cons]

mutual

theorem Node.element_mem_items {e : Element} (n : Node) (h : e ∈ n.elements) :
    .element e.tag ∈ n.items := by
  match n with
  | .text content => cases h
  | .element tag children =>
    rcases List.mem_cons.mp h with rfl | h
    · exact List.mem_cons_self
    · exact List.mem_cons_of_mem _ (element_mem_nodesItems children h)

theorem element_mem_nodesItems {e : Element} (nodes : List Node) (h : e ∈ nodesElements nodes) :
    .element e.tag ∈ nodesItems nodes := by
  match nodes with
  | [] => cases h
  | n :: rest =>
    rw [nodesItems, List.mem_append]
    exact (List.mem_append.mp h).imp n.element_mem_items (element_mem_nodesItems rest)

end

/-- The tag of an element was a start tag of the input. -/
theorem exists_startTag {tokens : List Token} {e : Element}
    (h : e ∈ nodesElements (Forest.ofTokens tokens)) :
    ∃ selfClosing, .startTag e.tag selfClosing ∈ tokens := by
  have hitem := element_mem_nodesItems _ h
  rw [Forest.ofTokens, Forest.nodesItems_finish, ← element_mem_joinTexts,
    Forest.joinTexts_items_run, element_mem_joinTexts] at hitem
  have hmem : .element e.tag ∈ tokens.flatMap Token.items := hitem
  obtain ⟨t, ht, hitems⟩ := List.mem_flatMap.mp hmem
  cases t with
  | startTag tag selfClosing =>
    obtain rfl : e.tag = tag := by simpa [Token.items] using hitems
    exact ⟨selfClosing, ht⟩
  | text content => simp [Token.items] at hitems
  | endTag name | comment | doctype | null | endOfInput => cases hitems

theorem tidyNames_of_mem_parse {html : String} {e : Element} (h : e ∈ nodesElements (parse html)) :
    TidyNames e.tag.attributes := by
  obtain ⟨selfClosing, ht⟩ := exists_startTag h
  exact tidy_tokens html _ ht

end MarkupChain.Markup
