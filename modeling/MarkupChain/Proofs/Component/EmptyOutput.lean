import MarkupChain.Component.Convert
import MarkupChain.Proofs.Markup.RoundTrip
import MarkupChain.Proofs.Script.Formatting

/-!
# Empty output

A conversion has an empty result exactly if the markup has no element at the top level. Blank markup
is not even parsed, which makes no difference: without a `<` the tokenizer stays in text, so there
is no element to be found. What is written for an element is not empty, and formatting never makes
it so.
-/

namespace MarkupChain.Markup

/-! ## Markup without tags -/

def Token.isTag : Token → Bool
  | .startTag _ _ | .endTag _ => true
  | .text _ | .comment | .doctype | .null | .endOfInput => false

/-- Text outside of all tags, or a character reference in it. -/
def State.InText : State → Prop
  | .data | .reference .data _ => True
  | _ => False

/-- The tokens of a move are no tags, and it leads to text again. -/
def StaysInText (m : Move) : Prop := m.1.InText ∧ ∀ t ∈ m.2, t.isTag = false

theorem staysInText_stepData {c : Char} (hc : c ≠ '<') : StaysInText (stepData c) := by
  rw [stepData]
  by_cases hreference : c = '&'
  · rw [if_pos hreference]
    exact ⟨trivial, by simp⟩
  rw [if_neg hreference, if_neg hc]
  by_cases hnull : c = '\x00'
  · rw [if_pos hnull]
    exact ⟨trivial, by simp [Token.isTag]⟩
  · rw [if_neg hnull]
    exact ⟨trivial, by simp [textToken, Token.isTag]⟩

theorem State.InText.step {s : State} (h : s.InText) {c : Char} (hc : c ≠ '<') :
    StaysInText (s.step c) := by
  cases s with
  | data => exact staysInText_stepData hc
  | reference place r =>
    cases place with
    | data =>
      rw [State.step, stepReference]
      cases r.step Place.data.inValue c with
      | more next => exact ⟨trivial, by simp⟩
      | done text taken =>
        cases taken with
        | true => exact ⟨trivial, by simp [Place.put, Token.isTag]⟩
        | false =>
          obtain ⟨hnext, htokens⟩ := staysInText_stepData hc
          exact ⟨hnext, List.forall_mem_cons.mpr ⟨rfl, htokens⟩⟩
    | raw r => cases h
    | value v => cases h
  | _ => cases h

theorem State.InText.read {s : State} (h : s.InText) {cs : List Char} (hcs : '<' ∉ cs) :
    StaysInText (s.read cs) := by
  induction cs generalizing s with
  | nil => exact ⟨h, by simp⟩
  | cons c cs ih =>
    have hc : c ≠ '<' := fun hc => hcs (by simp [hc])
    obtain ⟨hnext, htokens⟩ := h.step hc
    obtain ⟨hlast, hmore⟩ := ih hnext (fun hmem => hcs (by simp [hmem]))
    exact ⟨hlast, List.forall_mem_append.mpr ⟨htokens, hmore⟩⟩

theorem State.InText.finish {s : State} (h : s.InText) : ∀ t ∈ s.finish, t.isTag = false := by
  cases s with
  | data => simp [State.finish]
  | reference place r =>
    cases place with
    | data => simp [State.finish, Place.put, Token.isTag]
    | raw r => cases h
    | value v => cases h
  | _ => cases h

theorem mem_of_mem_unifyNewlines {c : Char} (hc : c ≠ '\n') {cs : List Char}
    (h : c ∈ unifyNewlines cs) : c ∈ cs := by
  fun_induction unifyNewlines cs with
  | case1 => exact h
  | case2 cs ih =>
    have hcs := (List.mem_cons.mp h).resolve_left hc
    simp [ih hcs]
  | case3 cs _ ih =>
    have hcs := (List.mem_cons.mp h).resolve_left hc
    simp [ih hcs]
  | case4 d cs _ _ ih => exact List.mem_cons.mpr ((List.mem_cons.mp h).imp_right ih)

theorem mem_of_mem_dropMark {c : Char} {cs : List Char} (h : c ∈ dropMark cs) : c ∈ cs := by
  cases cs with
  | nil => exact h
  | cons d cs =>
    rw [dropMark] at h
    split at h
    · exact List.mem_cons_of_mem d h
    · exact h

/-- No tag is read from a text without `<`. -/
theorem isTag_of_mem_tokens {html : String} (h : '<' ∉ html.toList) :
    ∀ t ∈ tokens html, t.isTag = false := by
  have hcs : '<' ∉ unifyNewlines (dropMark html.toList) := fun hmem =>
    h (mem_of_mem_dropMark (mem_of_mem_unifyNewlines (by decide) hmem))
  have hstart : State.data.InText := trivial
  obtain ⟨hlast, htokens⟩ := hstart.read hcs
  rw [tokens, State.toList_run_eq]
  intro t ht
  simp only [List.mem_append, List.mem_singleton] at ht
  rcases ht with (ht | ht) | rfl
  · exact htokens t ht
  · exact hlast.finish t ht
  · rfl

def Node.IsText (n : Node) : Prop := ∃ content, n = .text content

/-- No element is open or finished. -/
structure Forest.Bare (f : Forest) : Prop where
  opened : f.opened = []
  roots : ∀ n ∈ f.roots, n.IsText

theorem isText_addText {nodes : List Node} (h : ∀ n ∈ nodes, n.IsText) (content : String) :
    ∀ n ∈ addText content nodes, n.IsText := by
  cases nodes with
  | nil => exact List.forall_mem_cons.mpr ⟨⟨content, rfl⟩, h⟩
  | cons n rest =>
    cases n with
    | text before =>
      exact List.forall_mem_cons.mpr ⟨⟨before ++ content, rfl⟩, (List.forall_mem_cons.mp h).2⟩
    | element tag children => exact List.forall_mem_cons.mpr ⟨⟨content, rfl⟩, h⟩

theorem Forest.Bare.take {f : Forest} (h : f.Bare) {t : Token} (ht : t.isTag = false) :
    (f.take t).Bare := by
  obtain ⟨roots, opened⟩ := f
  obtain rfl : opened = [] := h.opened
  cases t with
  | startTag tag selfClosing => cases ht
  | endTag name => cases ht
  | text content => exact ⟨rfl, isText_addText h.roots content⟩
  | comment | doctype | null | endOfInput => exact h

theorem Forest.Bare.run {f : Forest} (h : f.Bare) {ts : List Token}
    (hts : ∀ t ∈ ts, t.isTag = false) : (ts.foldl Forest.take f).Bare := by
  induction ts generalizing f with
  | nil => exact h
  | cons t ts ih =>
    obtain ⟨ht, hrest⟩ := List.forall_mem_cons.mp hts
    exact ih (h.take ht) hrest

theorem parse_of_not_mem {html : String} (h : '<' ∉ html.toList) :
    ∀ n ∈ parse html, n.IsText := by
  have hstart : Forest.Bare {} := ⟨rfl, by simp⟩
  have hbare := hstart.run (isTag_of_mem_tokens h)
  rw [parse, Forest.ofTokens, Forest.finish, hbare.opened]
  intro n hn
  exact hbare.roots n (List.mem_reverse.mp hn)

theorem parse_of_isBlankText {html : String} (h : Text.isBlankText html = true) :
    ∀ n ∈ parse html, n.IsText := by
  apply parse_of_not_mem
  intro hmem
  exact absurd (List.all_eq_true.mp h '<' hmem) (by decide)

end MarkupChain.Markup

namespace MarkupChain.Script

/-! ## Code is not empty -/

theorem Definition.isBlankText_compact (d : Definition) : Text.isBlankText d.compact = false := by
  delta compact
  simp [Text.isBlankText, Text.isBlank]

/-- Formatting gives an empty text for blank code only. -/
theorem format_ne_empty (w : Widths) {code : String} (h : Text.isBlankText code = false) :
    format w code ≠ .ok "" := by
  intro hf
  rcases format_cases hf with ⟨hblank, -⟩ | ⟨ts, d, -, -, hlayout⟩
  · rw [h] at hblank
    cases hblank
  · delta Definition.layout at hlayout
    have hlist := congrArg String.toList hlayout
    simp at hlist

end MarkupChain.Script

namespace MarkupChain.Component

open Markup Script

/-! ## Conversions -/

/-- The compact form of the first element, or nothing. -/
def rootCode (o : Options) (elements : List Element) : String :=
  match elements with
  | [] => ""
  | root :: _ => (definition o root).compact

theorem topElements_eq_nil_iff (html : String) :
    topElements html = [] ↔ ∀ n ∈ parse html, n.element? = none := by
  rw [topElements, List.filterMap_eq_nil_iff]

theorem topElements_of_isBlankText {html : String} (h : Text.isBlankText html = true) :
    topElements html = [] := by
  rw [topElements_eq_nil_iff]
  intro n hn
  obtain ⟨content, rfl⟩ := parse_of_isBlankText h n hn
  rfl

/-- Looking at blank markup first makes no difference. -/
theorem convertCompact_eq {o : Options} (hname : isComponentName o.name = true) (html : String) :
    convertCompact o html = .ok (rootCode o (topElements html)) := by
  rw [convertCompact, hname, if_neg (by decide)]
  by_cases hblank : Text.isBlankText html = true
  · rw [if_pos hblank, topElements_of_isBlankText hblank]
    rfl
  · rw [if_neg hblank]
    cases topElements html with
    | nil => rfl
    | cons root others => rfl

theorem rootCode_eq_empty_iff (o : Options) (elements : List Element) :
    rootCode o elements = "" ↔ elements = [] := by
  cases elements with
  | nil => exact ⟨fun _ => rfl, fun _ => rfl⟩
  | cons root others =>
    have hne : (definition o root).compact ≠ "" := by
      intro hempty
      have hblank := (definition o root).isBlankText_compact
      rw [hempty] at hblank
      cases hblank
    exact ⟨fun h => absurd h hne, fun h => absurd h (List.cons_ne_nil _ _)⟩

theorem convert_eq_empty_iff {o : Options} (hname : isComponentName o.name = true) (w : Widths)
    (html : String) : convert o w html = .ok "" ↔ topElements html = [] := by
  rw [convert, convertCompact_eq hname, ok_bind]
  cases htop : topElements html with
  | nil => exact ⟨fun _ => rfl, fun _ => rfl⟩
  | cons root others =>
    have hblank := (definition o root).isBlankText_compact
    have hne := format_ne_empty w hblank
    have hcode : (rootCode o (root :: others)).isEmpty = false := by
      rw [← Bool.not_eq_true, String.isEmpty_iff, rootCode_eq_empty_iff]
      exact List.cons_ne_nil _ _
    rw [hcode, if_neg (by decide)]
    constructor
    · intro h
      rw [rootCode] at h
      cases hf : format w (definition o root).compact with
      | error e =>
        rw [hf] at h
        cases h
      | ok out =>
        rw [hf] at h
        cases h
        exact absurd hf hne
    · intro h
      cases h

/-- The result of a conversion is empty exactly if there is no element at the top level, whether it
is laid out or not. Blank markup, which is not parsed, has no element. -/
theorem empty_output_iff_no_element (o : Options) (hname : isComponentName o.name = true)
    (w : Widths) (html : String) :
    (convertCompact o html = .ok "" ↔ ∀ n ∈ parse html, n.element? = none) ∧
    (convert o w html = .ok "" ↔ ∀ n ∈ parse html, n.element? = none) ∧
    (Text.isBlankText html = true → ∀ n ∈ parse html, n.element? = none) := by
  rw [← topElements_eq_nil_iff]
  refine ⟨?_, convert_eq_empty_iff hname w html, topElements_of_isBlankText⟩
  rw [convertCompact_eq hname, Except.ok.injEq, rootCode_eq_empty_iff]

/-- A comment with a tag in it, an end tag and an unfinished tag make no element; behind a text the
first element counts. -/
theorem empty_output_iff_no_element_fragments :
    isComponentName "Card" = true ∧
    convertCompact ⟨"Card", true⟩ "a < b<!--<p>--></i><br" = .ok "" ∧
    convert ⟨"Card", true⟩ ⟨4, 0⟩ "a < b<!--<p>--></i><br" = .ok "" ∧
    convert ⟨"Card", true⟩ ⟨4, 0⟩ "a<br>" ≠ .ok "" := by
  have hname : isComponentName "Card" = true := by decide
  have hnone : ∀ n ∈ parse "a < b<!--<p>--></i><br", n.element? = none := by
    have hparse : parse "a < b<!--<p>--></i><br" = [.text "a < b"] := rfl
    simp [hparse, Node.element?]
  have hsome : ¬ ∀ n ∈ parse "a<br>", n.element? = none := by
    have hparse : parse "a<br>" = [.text "a", .element ⟨"br", []⟩ []] := rfl
    simp [hparse, Node.element?]
  have hempty := empty_output_iff_no_element ⟨"Card", true⟩ hname ⟨4, 0⟩ "a < b<!--<p>--></i><br"
  have hfound := empty_output_iff_no_element ⟨"Card", true⟩ hname ⟨4, 0⟩ "a<br>"
  exact ⟨hname, hempty.1.mpr hnone, hempty.2.1.mpr hnone, mt hfound.2.1.mp hsome⟩

end MarkupChain.Component
