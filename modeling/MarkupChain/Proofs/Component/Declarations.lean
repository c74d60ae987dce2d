import MarkupChain.Component.Style
import MarkupChain.Proofs.Keyed.Merge

/-!
# Styles are merged declarations

The parts of a style between semicolons are read on their own, each up to its first colon and from
there on, so a style of two styles declares what the one and the other declare. The entries of a
style are its declarations merged, and a text of trimmed declarations of distinct keys is read back.
-/

namespace MarkupChain.Component

/-- What a style declares, in order: a pair for each part between semicolons that has a colon, with
the trimmed text before and behind its first colon. -/
inductive Declares : String → List (String × String) → Prop where
  | nothing {part : String} : ';' ∉ part.toList → ':' ∉ part.toList → Declares part []
  | pair {key value : String} : ';' ∉ key.toList → ':' ∉ key.toList → ';' ∉ value.toList →
    Declares (key ++ ":" ++ value) [(Text.trim key, Text.trim value)]
  | append {a b : String} {pairs more : List (String × String)} :
    Declares a pairs → Declares b more → Declares (a ++ ";" ++ b) (pairs ++ more)

/-! ### Parts of a style -/

theorem declarations_append (a b : String) :
    declarations (a ++ ";" ++ b) = declarations a ++ declarations b := by
  have hlist : (a ++ ";" ++ b).toList = a.toList ++ ';' :: b.toList := by simp
  rw [declarations, hlist, List.splitOn_append_cons_self, List.filterMap_append]
  rfl

theorem declarations_of_not_mem {part : String} (h : ';' ∉ part.toList) :
    declarations part = (declaration? part.toList).toList := by
  rw [declarations, List.splitOn_eq_singleton h]
  cases hpart : declaration? part.toList with
  | none => simp [hpart]
  | some pair => simp [hpart]

theorem ne_of_not_mem {cs : List Char} {d : Char} (h : d ∉ cs) : ∀ c ∈ cs, (c != d) = true := by
  intro c hc
  rw [bne_iff_ne]
  rintro rfl
  exact h hc

theorem declarations_of_no_colon {part : String} (hsemicolon : ';' ∉ part.toList)
    (hcolon : ':' ∉ part.toList) : declarations part = [] := by
  have hnone : (part.toList ++ []).dropWhile (· != ':') = [] :=
    List.dropWhile_append_of_pos (ne_of_not_mem hcolon)
  rw [List.append_nil] at hnone
  rw [declarations_of_not_mem hsemicolon, declaration?, hnone]
  rfl

theorem declarations_of_colon {key value : String} (hkey : ';' ∉ key.toList)
    (hcolon : ':' ∉ key.toList) (hvalue : ';' ∉ value.toList) :
    declarations (key ++ ":" ++ value) = [(Text.trim key, Text.trim value)] := by
  have hlist : (key ++ ":" ++ value).toList = key.toList ++ ':' :: value.toList := by simp
  have hbefore := ne_of_not_mem hcolon
  have hpart : ';' ∉ (key ++ ":" ++ value).toList := by
    simp [hkey, hvalue]
  rw [declarations_of_not_mem hpart, hlist, declaration?, List.dropWhile_append_of_pos hbefore,
    List.takeWhile_append_of_pos hbefore]
  simp [Text.trim]

/-- The relation and the reader agree. -/
theorem Declares.declarations_eq {style : String} {pairs : List (String × String)}
    (h : Declares style pairs) : declarations style = pairs := by
  induction h with
  | nothing hsemicolon hcolon => exact declarations_of_no_colon hsemicolon hcolon
  | pair hkey hcolon hvalue => exact declarations_of_colon hkey hcolon hvalue
  | append _ _ iha ihb => rw [declarations_append, iha, ihb]

/-- The text around the first of some character. -/
theorem exists_first {c : Char} {s : String} (h : c ∈ s.toList) :
    ∃ before after : String, s = before ++ String.singleton c ++ after ∧ c ∉ before.toList := by
  obtain ⟨before, after, hs, hbefore⟩ := List.eq_append_cons_of_mem h
  refine ⟨String.ofList before, String.ofList after, ?_, by simpa using hbefore⟩
  rw [← String.toList_inj, hs]
  simp

theorem exists_declares (style : String) : ∃ pairs, Declares style pairs := by
  induction hn : style.length using Nat.strongRecOn generalizing style with
  | _ n ih =>
    subst hn
    by_cases hsemicolon : ';' ∈ style.toList
    · obtain ⟨a, b, rfl, _⟩ := exists_first hsemicolon
      have hlength : (a ++ String.singleton ';' ++ b).length = a.length + 1 + b.length := by
        rw [String.length_append, String.length_append, String.length_singleton]
      obtain ⟨pairs, ha⟩ := ih a.length (by omega) a rfl
      obtain ⟨more, hb⟩ := ih b.length (by omega) b rfl
      exact ⟨_, .append ha hb⟩
    · by_cases hcolon : ':' ∈ style.toList
      · obtain ⟨key, value, rfl, hkey⟩ := exists_first hcolon
        have hno : ';' ∉ key.toList ∧ ';' ∉ value.toList := by simpa using hsemicolon
        exact ⟨_, .pair hno.1 hkey hno.2⟩
      · exact ⟨[], .nothing hsemicolon hcolon⟩

theorem declares_iff (style : String) (pairs : List (String × String)) :
    Declares style pairs ↔ pairs = declarations style := by
  constructor
  · intro h
    exact h.declarations_eq.symm
  · rintro rfl
    obtain ⟨pairs, h⟩ := exists_declares style
    rwa [h.declarations_eq]

/-! ### Written declarations -/

theorem trimList_blank_append {blanks : List Char} (h : blanks.all Text.isBlank = true)
    (cs : List Char) : Text.trimList (blanks ++ cs) = Text.trimList cs := by
  rw [Text.trimList, List.dropWhile_append_of_pos (List.all_eq_true.mp h), Text.trimList]

theorem trim_blank_append {blanks : String} (h : Text.isBlankText blanks = true) (s : String) :
    Text.trim (blanks ++ s) = Text.trim s := by
  rw [Text.trim, String.toList_append, trimList_blank_append h, Text.trim]

theorem not_mem_of_isBlankText {blanks : String} (h : Text.isBlankText blanks = true) {c : Char}
    (hc : Text.isBlank c = false) : c ∉ blanks.toList := by
  intro hmem
  rw [List.all_eq_true.mp h c hmem] at hc
  cases hc

/-- A pair that can be written as a declaration and read back. -/
structure Declarable (pair : String × String) : Prop where
  key_trimmed : Text.trim pair.1 = pair.1
  key_plain : ';' ∉ pair.1.toList ∧ ':' ∉ pair.1.toList
  value_trimmed : Text.trim pair.2 = pair.2
  value_plain : ';' ∉ pair.2.toList

def declarationText (pair : String × String) : String := pair.1 ++ ": " ++ pair.2 ++ ";"

/-- One written declaration, behind blanks and before the rest of the style. -/
theorem Declarable.declarations_append {pair : String × String} (h : Declarable pair)
    {blanks : String} (hblanks : Text.isBlankText blanks = true) (rest : String) :
    declarations (blanks ++ (declarationText pair ++ rest)) = pair :: declarations rest := by
  have htext : blanks ++ (declarationText pair ++ rest) =
      blanks ++ pair.1 ++ ":" ++ (" " ++ pair.2) ++ ";" ++ rest := by
    have hcolon : (": " : String) = ":" ++ " " := rfl
    simp only [declarationText, hcolon, String.append_assoc]
  have hkey : ∀ c, Text.isBlank c = false → c ∉ pair.1.toList → c ∉ (blanks ++ pair.1).toList := by
    intro c hc hmem
    simp [not_mem_of_isBlankText hblanks hc, hmem]
  have hvalue : ';' ∉ (" " ++ pair.2).toList := by simp [h.value_plain]
  rw [htext, Component.declarations_append, declarations_of_colon (hkey ';' rfl h.key_plain.1)
    (hkey ':' rfl h.key_plain.2) hvalue, trim_blank_append hblanks, trim_blank_append rfl,
    h.key_trimmed, h.value_trimmed, List.singleton_append]

theorem intercalate_cons (gap first : String) (rest : List String) :
    ∃ lead, (lead = "" ∨ lead = gap) ∧
      gap.intercalate (first :: rest) = first ++ (lead ++ gap.intercalate rest) := by
  cases rest with
  | nil => exact ⟨"", .inl rfl, by simp⟩
  | cons second rest =>
    exact ⟨gap, .inr rfl, by rw [String.intercalate_cons_cons, String.append_assoc]⟩

theorem declarations_intercalate {gap : String} (hgap : Text.isBlankText gap = true)
    {pairs : List (String × String)} (hpairs : ∀ pair ∈ pairs, Declarable pair) (lead : String)
    (hlead : Text.isBlankText lead = true) :
    declarations (lead ++ gap.intercalate (pairs.map declarationText)) = pairs := by
  induction pairs generalizing lead with
  | nil =>
    rw [List.map_nil, String.intercalate_nil, String.append_empty]
    exact declarations_of_no_colon (not_mem_of_isBlankText hlead rfl)
      (not_mem_of_isBlankText hlead rfl)
  | cons pair pairs ih =>
    obtain ⟨hpair, hrest⟩ := List.forall_mem_cons.mp hpairs
    obtain ⟨next, hnext, htext⟩ := intercalate_cons gap (declarationText pair)
      (pairs.map declarationText)
    have hblank : Text.isBlankText next = true := by
      rcases hnext with rfl | rfl
      · rfl
      · exact hgap
    rw [List.map_cons, htext, hpair.declarations_append hlead, ih hrest next hblank]

/-- The entries of a style are its declarations merged: there are none if nothing is declared, and
otherwise each key stands at its first place with its last value. A style behind another one is
written over it, and trimmed declarations of distinct keys are read back from their text. -/
theorem styles_merge_declarations :
    (∀ style pairs, Declares style pairs ↔ pairs = declarations style) ∧
    (∀ style, (styles style = [] ↔ declarations style = []) ∧
      Keyed.Merges (declarations style) (styles style)) ∧
    (∀ a b, styles (a ++ ";" ++ b) = Keyed.overlay (styles a) (styles b)) ∧
    ∀ gap pairs, Text.isBlankText gap = true → (∀ pair ∈ pairs, Declarable pair) →
      (Keyed.keys pairs).Nodup → styles (gap.intercalate (pairs.map declarationText)) = pairs := by
  refine ⟨declares_iff, ?_, ?_, ?_⟩
  · intro style
    have hmerges := Keyed.merges_ofPairs (declarations style)
    exact ⟨hmerges.eq_nil_iff, hmerges⟩
  · intro a b
    rw [styles, declarations_append, Keyed.ofPairs_append]
    rfl
  · intro gap pairs hgap hpairs hdistinct
    have hread := declarations_intercalate hgap hpairs "" rfl
    rw [String.empty_append] at hread
    rw [styles, hread, Keyed.ofPairs_of_nodup hdistinct]

/-- A value keeps its own colon, and a line may end behind each declaration. -/
theorem styles_merge_declarations_lines :
    styles "color: red;\nbackground: url(http://a.b/c);" =
      [("color", "red"), ("background", "url(http://a.b/c)")] := by
  have hcolor : Declarable ("color", "red") := ⟨rfl, by decide, rfl, by decide⟩
  have hbackground : Declarable ("background", "url(http://a.b/c)") :=
    ⟨rfl, by decide, rfl, by decide⟩
  exact styles_merge_declarations.2.2.2 "\n"
    [("color", "red"), ("background", "url(http://a.b/c)")] rfl
    (List.forall_mem_cons.mpr ⟨hcolor, List.forall_mem_singleton.mpr hbackground⟩) (by decide)

end MarkupChain.Component
