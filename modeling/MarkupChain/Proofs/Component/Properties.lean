import MarkupChain.Component.Property
import MarkupChain.Proofs.Keyed.Merge
import MarkupChain.Proofs.Markup.AttributeNames

/-!
# Properties are merged attributes

The properties of an element are the attributes that are kept, renamed and then merged by their new
names, so of attributes that become the same property the last gives the value, whatever it is
called. In parsed markup no two of them do: names of attributes are distinct there, and a new name
has a capital letter that no other name has.
-/

namespace MarkupChain.Component

open Markup

/-- The attribute is no handler and becomes the property of that name. -/
def Becomes (kind : Kind) (a : Attribute) (name : String) : Prop :=
  a.name.startsWith "on" = false ∧ kind.property? a.name = some name

/-- An attribute with an empty value is a flag. -/
def attributeValue (a : Attribute) : PropertyValue := if a.value = "" then .flag else .text a.value

/-- The attributes that are kept, in order, under the names of their properties. -/
def kept (kind : Kind) (attributes : List Attribute) : List (String × PropertyValue) :=
  (attributes.filter fun a => !a.name.startsWith "on").filterMap fun a =>
    (kind.property? a.name).map fun name => (name, attributeValue a)

theorem isHandler_eq (name : String) : isHandler name = name.startsWith "on" := by
  rw [Bool.eq_iff_iff, String.startsWith_string_iff, isHandler, List.isPrefixOf_iff_prefix]
  rfl

theorem ofAttribute_eq (a : Attribute) : PropertyValue.ofAttribute a.value = attributeValue a := by
  simp [PropertyValue.ofAttribute, attributeValue]

theorem kept_eq (kind : Kind) (attributes : List Attribute) :
    kept kind attributes = attributes.filterMap (property? kind) := by
  rw [kept, List.filterMap_filter]
  congr 1
  funext a
  rw [property?, isHandler_eq, ofAttribute_eq]
  cases a.name.startsWith "on" <;> simp

theorem property?_eq_some_iff {kind : Kind} {a : Attribute} {name : String} {value : PropertyValue} :
    property? kind a = some (name, value) ↔ Becomes kind a name ∧ value = attributeValue a := by
  rw [property?, isHandler_eq, ofAttribute_eq, Becomes]
  cases a.name.startsWith "on" with
  | true => simp
  | false => simp [eq_comm]

theorem not_mem_keys_kept {kind : Kind} {attributes : List Attribute} {name : String} :
    name ∉ Keyed.keys (kept kind attributes) ↔ ∀ a ∈ attributes, ¬ Becomes kind a name := by
  have hmem : name ∈ Keyed.keys (kept kind attributes) ↔ ∃ a ∈ attributes, Becomes kind a name := by
    rw [Keyed.keys, List.mem_map, kept_eq]
    constructor
    · rintro ⟨⟨_, value⟩, hpair, rfl⟩
      obtain ⟨a, ha, hproperty⟩ := List.mem_filterMap.mp hpair
      exact ⟨a, ha, (property?_eq_some_iff.mp hproperty).1⟩
    · rintro ⟨a, ha, hbecomes⟩
      have hproperty := property?_eq_some_iff.mpr ⟨hbecomes, rfl⟩
      exact ⟨_, List.mem_filterMap.mpr ⟨a, ha, hproperty⟩, rfl⟩
  rw [hmem]
  simp

/-- The properties of an element are its kept attributes merged: there are none if no attribute is
kept, and otherwise each name stands where it first occurs. Its value is that of the last attribute
that becomes the property, under whatever name. -/
theorem properties_merge_kept (kind : Kind) (attributes : List Attribute) :
    (properties kind attributes = [] ↔ kept kind attributes = []) ∧
    Keyed.Merges (kept kind attributes) (properties kind attributes) ∧
    ∀ name value, (properties kind attributes).lookup name = some value ↔
      ∃ before a after, attributes = before ++ a :: after ∧ Becomes kind a name ∧
        value = attributeValue a ∧ ∀ b ∈ after, ¬ Becomes kind b name := by
  have hmerges : Keyed.Merges (kept kind attributes) (properties kind attributes) := by
    rw [properties, ← kept_eq]
    exact Keyed.merges_ofPairs _
  refine ⟨hmerges.eq_nil_iff, hmerges, ?_⟩
  intro name value
  rw [hmerges.last, Keyed.lookup_reverse_eq_some_iff]
  constructor
  · rintro ⟨before, after, hkept, hlast⟩
    rw [kept_eq, List.filterMap_eq_append_iff] at hkept
    obtain ⟨front, back, rfl, -, hback⟩ := hkept
    obtain ⟨dropped, a, rest, rfl, -, ha, hrest⟩ := List.filterMap_eq_cons_iff.mp hback
    obtain ⟨hbecomes, hvalue⟩ := property?_eq_some_iff.mp ha
    rw [← hrest, ← kept_eq, not_mem_keys_kept] at hlast
    exact ⟨front ++ dropped, a, rest, by simp, hbecomes, hvalue, hlast⟩
  · rintro ⟨before, a, after, rfl, hbecomes, hvalue, hlast⟩
    have ha := property?_eq_some_iff.mpr ⟨hbecomes, hvalue⟩
    refine ⟨kept kind before, kept kind after, ?_, not_mem_keys_kept.mpr hlast⟩
    rw [kept_eq, kept_eq, kept_eq, List.filterMap_append, List.filterMap_cons_some ha]

example : properties .plain [⟨"for", "a"⟩, ⟨"id", "x"⟩, ⟨"onclick", "f"⟩, ⟨"htmlFor", ""⟩] =
    [("htmlFor", .flag), ("id", .text "x")] := by decide

/-! ### Parsed markup -/

/-- Attributes are renamed to names with a capital letter. -/
theorem ne_of_isLowerCase {name : String} (h : IsLowerCase name) :
    name ≠ "acceptCharset" ∧ name ≠ "htmlFor" := by
  constructor
  · rintro rfl
    exact absurd (h 'C' (by decide)) (by decide)
  · rintro rfl
    exact absurd (h 'F' (by decide)) (by decide)

theorem Kind.property?_inj {kind : Kind} {a b name : String} (ha : IsLowerCase a)
    (hb : IsLowerCase b) (h : kind.property? a = some name) (h' : kind.property? b = some name) :
    a = b := by
  have hane := ne_of_isLowerCase ha
  have hbne := ne_of_isLowerCase hb
  unfold Kind.property? at h h'
  grind

theorem Becomes.name_eq {kind : Kind} {attributes : List Attribute} (h : TidyNames attributes)
    {a b : Attribute} (ha : a ∈ attributes) (hb : b ∈ attributes) {name : String}
    (hbecomes : Becomes kind a name) (hbecomes' : Becomes kind b name) : a.name = b.name :=
  Kind.property?_inj (h.lower a ha) (h.lower b hb) hbecomes.2 hbecomes'.2

theorem nodup_keys_kept {attributes : List Attribute} (h : TidyNames attributes) (kind : Kind) :
    (Keyed.keys (kept kind attributes)).Nodup := by
  rw [kept_eq, Keyed.keys, List.Nodup, List.pairwise_map, List.pairwise_filterMap]
  refine (List.pairwise_map.mp h.distinct).imp_of_mem ?_
  rintro a b ha hb hne ⟨name, value⟩ hproperty ⟨_, value'⟩ hproperty' rfl
  obtain ⟨hbecomes, -⟩ := property?_eq_some_iff.mp hproperty
  obtain ⟨hbecomes', -⟩ := property?_eq_some_iff.mp hproperty'
  exact hne (hbecomes.name_eq h ha hb hbecomes')

theorem find?_of_mem {attributes : List Attribute} (h : (attributes.map (·.name)).Nodup)
    {a : Attribute} (ha : a ∈ attributes) : attributes.find? (·.name == a.name) = some a := by
  obtain ⟨before, after, rfl⟩ := List.append_of_mem ha
  rw [List.find?_eq_some_iff_append]
  refine ⟨beq_self_eq_true _, before, after, rfl, ?_⟩
  intro b hb
  rw [List.map_append, List.nodup_append] at h
  have hne : b.name ≠ a.name := h.2.2 b.name (List.mem_map_of_mem hb) a.name List.mem_cons_self
  simpa using hne

/-- In parsed markup the names of the attributes of an element are distinct. Each attribute that is
kept is a property of its own, in the order of the source and with the value that a lookup of the
attribute finds: no two of them become the same property. -/
theorem parsed_attributes_never_conflict (html : String) (e : Element)
    (he : e ∈ nodesElements (parse html)) :
    (e.tag.attributes.map (·.name)).Nodup ∧
    properties (Kind.ofTag e.tag.name) e.tag.attributes =
      kept (Kind.ofTag e.tag.name) e.tag.attributes ∧
    (Keyed.keys (kept (Kind.ofTag e.tag.name) e.tag.attributes)).Nodup ∧
    ∀ a ∈ e.tag.attributes, e.tag.value? a.name = some a.value ∧
      ∀ name, Becomes (Kind.ofTag e.tag.name) a name → ∀ b ∈ e.tag.attributes,
        Becomes (Kind.ofTag e.tag.name) b name → b = a := by
  have htidy := tidyNames_of_mem_parse he
  have hkeys := nodup_keys_kept htidy (Kind.ofTag e.tag.name)
  refine ⟨htidy.distinct, ?_, hkeys, ?_⟩
  · rw [properties, ← kept_eq, Keyed.ofPairs_of_nodup hkeys]
  · intro a ha
    have hfind := find?_of_mem htidy.distinct ha
    constructor
    · rw [Tag.value?, hfind, Option.map_some]
    · intro name hbecomes b hb hbecomes'
      -- The lookup of the common name finds both.
      have hfind' := find?_of_mem htidy.distinct hb
      rw [hbecomes'.name_eq htidy hb ha hbecomes, hfind] at hfind'
      exact (Option.some.inj hfind').symm

/-- Of a name written twice the first counts, and the name that `for` becomes is not one that can be
read. -/
theorem parsed_attributes_never_conflict_label :
    ∃ e ∈ nodesElements (parse "<p><label FOR=a for=b htmlFor onclick='f()' class=c>x"),
      e.tag = ⟨"label", [⟨"for", "a"⟩, ⟨"htmlfor", ""⟩, ⟨"onclick", "f()"⟩, ⟨"class", "c"⟩]⟩ ∧
      properties (Kind.ofTag e.tag.name) e.tag.attributes =
        [("htmlFor", .text "a"), ("htmlfor", .flag)] ∧
      e.tag.value? "for" = some "a" := by
  have hparse : parse "<p><label FOR=a for=b htmlFor onclick='f()' class=c>x" =
      [.element ⟨"p", []⟩ [.element ⟨"label", [⟨"for", "a"⟩, ⟨"htmlfor", ""⟩, ⟨"onclick", "f()"⟩,
        ⟨"class", "c"⟩]⟩ [.text "x"]]] := rfl
  have hmem : ⟨⟨"label", [⟨"for", "a"⟩, ⟨"htmlfor", ""⟩, ⟨"onclick", "f()"⟩, ⟨"class", "c"⟩]⟩,
      [.text "x"]⟩ ∈ nodesElements
        (parse "<p><label FOR=a for=b htmlFor onclick='f()' class=c>x") := by
    simp [hparse, nodesElements, Node.elements]
  obtain ⟨-, hproperties, -, hvalues⟩ := parsed_attributes_never_conflict _ _ hmem
  refine ⟨_, hmem, rfl, ?_, ?_⟩
  · rw [hproperties, kept_eq]
    rfl
  · exact (hvalues ⟨"for", "a"⟩ (by simp)).1

end MarkupChain.Component
