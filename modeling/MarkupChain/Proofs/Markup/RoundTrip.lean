import MarkupChain.Proofs.Markup.Nesting

/-!
# Written markup is read back

An element is written as its start tag, its children and its end tag, or as the start tag alone if
it is void. Ampersands are written as references, and so are the characters that would end a text or
a value. The tokenizer takes each written piece to the tokens of that piece and is back where it
started, so a written element is parsed as the element itself.
-/

namespace MarkupChain.Markup

/-! ### Reading a piece of the input -/

/-- The state behind a text, with the tokens completed inside it. -/
def State.read : State → List Char → Move
  | s, [] => (s, [])
  | s, c :: cs => (((s.step c).1.read cs).1, (s.step c).2 ++ ((s.step c).1.read cs).2)

@[simp] theorem State.read_nil (s : State) : s.read [] = (s, []) := rfl

theorem State.read_cons {s t u : State} {c : Char} {cs : List Char} {ts us : List Token}
    (h : s.step c = (t, ts)) (hcs : t.read cs = (u, us)) : s.read (c :: cs) = (u, ts ++ us) := by
  rw [read, h, hcs]

theorem State.read_append {s t u : State} {cs ds : List Char} {ts us : List Token}
    (h : s.read cs = (t, ts)) (hd : t.read ds = (u, us)) : s.read (cs ++ ds) = (u, ts ++ us) := by
  induction cs generalizing s ts with
  | nil =>
    cases h
    exact hd
  | cons c cs ih =>
    cases h
    rw [List.cons_append, List.append_assoc]
    exact read_cons rfl (ih rfl)

theorem State.read_singleton (s : State) (c : Char) : s.read [c] = s.step c := by simp [read]

/-- The tokens of an input are those of its reading and what the last state has left to say. -/
theorem State.toList_run_eq (s : State) (cs : List Char) :
    (s.run #[] cs).toList = (s.read cs).2 ++ (s.read cs).1.finish ++ [.endOfInput] := by
  induction cs generalizing s with
  | nil => simp [run]
  | cons c cs ih =>
    rw [run, toList_run, ih]
    simp [read]

/-- A state that collects a text grows by a character with each written character. -/
theorem State.read_flatMap {f : String → State} {piece : Char → List Char} {p : Char → Prop}
    (hpiece : ∀ text c, p c → (f text).read (piece c) = (f (text.push c), []))
    (text : String) {cs : List Char} (h : ∀ c ∈ cs, p c) :
    (f text).read (cs.flatMap piece) = (f (text ++ String.ofList cs), []) := by
  induction cs generalizing text with
  | nil => simp
  | cons c cs ih =>
    have hcs := ih (text.push c) (fun d hd => h d (by simp [hd]))
    have htext : text.push c ++ String.ofList cs = text ++ String.ofList (c :: cs) := by
      simp [← String.toList_inj]
    rw [List.flatMap_cons, ← htext]
    exact read_append (hpiece text c (h c (by simp))) hcs

/-- The same for characters that are written as they are. -/
theorem State.read_chars {f : String → State} {p : Char → Prop}
    (hstep : ∀ text c, p c → (f text).step c = (f (text.push c), []))
    (text : String) {cs : List Char} (h : ∀ c ∈ cs, p c) :
    (f text).read cs = (f (text ++ String.ofList cs), []) := by
  have hpiece : ∀ text c, p c → (f text).read [c] = (f (text.push c), []) := by
    intro text c hc
    rw [read_singleton, hstep text c hc]
  simpa using read_flatMap hpiece text h

/-! ### References -/

/-- A reference to a character by name. -/
def referTo (name : List Char) : List Char := '&' :: (name ++ [';'])

/-- A name that is matched with its semicolon. -/
theorem resolveName_semicolon (inValue : Bool) {word : List Char} {text : String}
    (h : longestName? (word ++ [';']) = some (String.ofList (word ++ [';']), text)) :
    resolveName inValue word (some ';') = .done text true := by
  simp [resolveName, h]

theorem State.read_referTo {s : State} (place : Place) (c : Char) (word : List Char)
    {text : String} (hs : s.step '&' = (.reference place .start, []))
    (hword : (c :: word).all Char.isAlphanum = true)
    (h : longestName? (c :: word ++ [';']) = some (String.ofList (c :: word ++ [';']), text)) :
    s.read (referTo (c :: word)) = place.put text := by
  have hall := List.all_eq_true.mp hword
  have hfirst : (State.reference place .start).step c =
      (.reference place (.named (String.singleton c)), []) := by
    simp [step, stepReference, Reference.step, hall c (by simp)]
  have hmore : (State.reference place (.named (String.singleton c))).read word =
      (.reference place (.named (String.singleton c ++ String.ofList word)), []) := by
    refine read_chars (f := fun name => .reference place (.named name)) ?_ _
      (fun d hd => hall d (by simp [hd]))
    intro name d hd
    simp [step, stepReference, Reference.step, hd]
  have hname : (String.singleton c ++ String.ofList word).toList = c :: word := by simp
  have hlast : (State.reference place (.named (String.singleton c ++ String.ofList word))).step ';' =
      place.put text := by
    rw [step, stepReference, Reference.step, if_neg (by decide), hname,
      resolveName_semicolon place.inValue h]
  rw [← read_singleton] at hlast
  exact read_cons hs (read_cons hfirst (read_append hmore hlast))

theorem longestName?_amp : longestName? ['a', 'm', 'p', ';'] =
    some (String.ofList ['a', 'm', 'p', ';'], String.singleton '&') := by decide +kernel

theorem longestName?_lt : longestName? ['l', 't', ';'] =
    some (String.ofList ['l', 't', ';'], String.singleton '<') := by decide +kernel

theorem longestName?_quot : longestName? ['q', 'u', 'o', 't', ';'] =
    some (String.ofList ['q', 'u', 'o', 't', ';'], String.singleton '"') := by decide +kernel

/-! ### Texts and values -/

/-- A character in a place where an ampersand and `special` have to be written as references. -/
def writeBut (special : Char) (name : List Char) (c : Char) : List Char :=
  if c = '&' then referTo ['a', 'm', 'p'] else if c = special then referTo name else [c]

def writeInText : Char → List Char := writeBut '<' ['l', 't']

def writeInValue : Char → List Char := writeBut '"' ['q', 'u', 'o', 't']

/-- However a character is written, it is put where it stands. -/
theorem State.read_writeBut {s : State} (place : Place) {special : Char} (d : Char)
    (word : List Char) {c : Char} (hs : s.step '&' = (.reference place .start, []))
    (hplain : c ≠ '&' → c ≠ special → s.step c = place.put (String.singleton c))
    (hword : (d :: word).all Char.isAlphanum = true)
    (h : longestName? (d :: word ++ [';']) =
      some (String.ofList (d :: word ++ [';']), String.singleton special)) :
    s.read (writeBut special (d :: word) c) = place.put (String.singleton c) := by
  unfold writeBut
  split
  · next hand =>
    subst hand
    exact read_referTo place 'a' ['m', 'p'] hs (by decide) longestName?_amp
  split
  · next hspecial =>
    subst hspecial
    exact read_referTo place d word hs hword h
  · next hand hspecial => rw [read_singleton, hplain hand hspecial]

theorem State.read_writeInText {c : Char} (hc : c ≠ '\x00') :
    State.data.read (writeInText c) = (.data, [textToken c]) := by
  refine read_writeBut .data 'l' ['t'] rfl ?_ (by decide) longestName?_lt
  intro hand hless
  rw [step, stepData, if_neg hand, if_neg hless, if_neg hc]
  rfl

/-- A text is read one character at a time. -/
theorem State.read_text {cs : List Char} (h : '\x00' ∉ cs) :
    State.data.read (cs.flatMap writeInText) = (.data, cs.map textToken) := by
  induction cs with
  | nil => rfl
  | cons c cs ih =>
    have hc : c ≠ '\x00' := by
      rintro rfl
      simp at h
    exact read_append (read_writeInText hc) (ih (by simp_all))

theorem State.read_writeInValue (tag : Draft) (name text : String) {c : Char} (hc : c ≠ '\x00') :
    (State.value ⟨tag, .double, name, text⟩).read (writeInValue c) =
      (.value ⟨tag, .double, name, text.push c⟩, []) := by
  have hput : (Place.value ⟨tag, .double, name, text⟩).put (String.singleton c) =
      (.value ⟨tag, .double, name, text.push c⟩, []) := by
    simp [Place.put]
  rw [← hput]
  refine read_writeBut (.value _) 'q' ['u', 'o', 't'] rfl ?_ (by decide) longestName?_quot
  intro hand hquote
  rw [step, stepValue, if_neg hand, hput]
  simp [hquote, visible, hc]

/-! ### Names -/

def isNamePart (c : Char) : Bool := c.isLower || c.isDigit || c == '-'

/-- A small letter, then small letters, digits and hyphens. -/
def IsName : List Char → Prop
  | [] => False
  | c :: rest => c.isLower = true ∧ ∀ d ∈ rest, isNamePart d = true

instance : DecidablePred IsName
  | [] => inferInstanceAs (Decidable False)
  | c :: rest =>
    have := List.decidableBAll (isNamePart · = true) rest
    inferInstanceAs (Decidable (c.isLower = true ∧ ∀ d ∈ rest, isNamePart d = true))

/-- Names have no other character than these, so nothing in them ends a name or is changed. -/
theorem toNat_of_isNamePart {c : Char} (h : isNamePart c = true) :
    c.toNat = 45 ∨ (48 ≤ c.toNat ∧ c.toNat ≤ 57) ∨ (97 ≤ c.toNat ∧ c.toNat ≤ 122) := by
  delta isNamePart Char.isLower Char.isDigit at h
  simp only [Bool.or_eq_true, Bool.and_eq_true, decide_eq_true_eq, UInt32.le_iff_toNat_le,
    ge_iff_le, beq_iff_eq] at h
  rcases h with (h | h) | rfl
  · exact .inr (.inr h)
  · exact .inr (.inl h)
  · exact .inl rfl

theorem toLower_of_isNamePart {c : Char} (h : isNamePart c = true) : (visible c).toLower = c := by
  have hc := toNat_of_isNamePart h
  have hnull : c ≠ '\x00' := by
    rintro rfl
    cases h
  have hupper : ¬ (c.val ≥ 'A'.val ∧ c.val ≤ 'Z'.val) := by
    simp only [ge_iff_le, UInt32.le_iff_toNat_le, Char.reduceVal, UInt32.reduceToNat]
    change ¬ (65 ≤ c.toNat ∧ c.toNat ≤ 90)
    omega
  rw [visible, if_neg hnull]
  exact dif_neg hupper

theorem ne_of_isNamePart {c d : Char} (h : isNamePart c = true) (hd : isNamePart d = false) :
    c ≠ d := by
  rintro rfl
  rw [h] at hd
  cases hd

theorem isSpace_of_isNamePart {c : Char} (h : isNamePart c = true) : isSpace c = false := by
  have htab := ne_of_isNamePart h (show isNamePart '\t' = false by decide)
  have hline := ne_of_isNamePart h (show isNamePart '\n' = false by decide)
  have hfeed := ne_of_isNamePart h (show isNamePart '\x0c' = false by decide)
  have hspace := ne_of_isNamePart h (show isNamePart ' ' = false by decide)
  simp [isSpace, htab, hline, hfeed, hspace]

theorem isNamePart_of_isLower {c : Char} (h : c.isLower = true) : isNamePart c = true := by
  simp [isNamePart, h]

theorem IsName.cons {name : String} (h : IsName name.toList) :
    ∃ c rest, name = String.singleton c ++ String.ofList rest ∧ name.toList = c :: rest ∧
      c.isLower = true ∧ ∀ d ∈ rest, isNamePart d = true := by
  cases hname : name.toList with
  | nil =>
    rw [hname] at h
    exact h.elim
  | cons c rest =>
    rw [hname] at h
    exact ⟨c, rest, by simp [← String.toList_inj, hname], rfl, h⟩

/-! ### Tags -/

def Attribute.written (a : Attribute) : List Char :=
  ' ' :: (a.name.toList ++ '=' :: '"' :: (a.value.toList.flatMap writeInValue ++ ['"']))

def Tag.written (tag : Tag) : List Char :=
  '<' :: (tag.name.toList ++ (tag.attributes.flatMap Attribute.written ++ ['>']))

def writtenEnd (name : String) : List Char := '<' :: '/' :: (name.toList ++ ['>'])

/-- Behind the name of a tag or behind an attribute. -/
def State.InTag (s : State) (tag : Draft) : Prop := s = .tagName tag ∨ s = .beforeAttribute tag

theorem State.InTag.step_space {s : State} {tag : Draft} (h : s.InTag tag) :
    s.step ' ' = (.beforeAttribute tag, []) := by
  rcases h with rfl | rfl <;> rfl

theorem State.InTag.step_close {s : State} {tag : Draft} (h : s.InTag tag) :
    s.step '>' = tag.emit false := by
  rcases h with rfl | rfl <;> rfl

theorem State.read_attributeName (tag : Draft) {name : String} (h : IsName name.toList) :
    (State.beforeAttribute tag).read name.toList = (.attributeName tag name, []) := by
  obtain ⟨c, rest, rfl, hname, hc, hrest⟩ := h.cons
  have hpart := isNamePart_of_isLower hc
  have hfirst : (State.beforeAttribute tag).step c =
      (.attributeName tag (String.singleton c), []) := by
    rw [step, stepBeforeAttribute, if_neg (by simp [isSpace_of_isNamePart hpart]),
      if_neg (ne_of_isNamePart hpart (by decide)), if_neg (ne_of_isNamePart hpart (by decide)),
      toLower_of_isNamePart hpart]
  rw [hname]
  refine read_cons hfirst (read_chars (f := State.attributeName tag) ?_ _ hrest)
  intro text d hd
  rw [step, stepAttributeName, if_neg (by simp [isSpace_of_isNamePart hd]),
    if_neg (ne_of_isNamePart hd (by decide)), if_neg (ne_of_isNamePart hd (by decide)),
    if_neg (ne_of_isNamePart hd (by decide)), toLower_of_isNamePart hd]

theorem State.InTag.read_attribute {s : State} {tag : Draft} {a : Attribute} (hs : s.InTag tag)
    (hname : IsName a.name.toList) (hvalue : '\x00' ∉ a.value.toList) :
    s.read a.written = (.beforeAttribute (tag.add a.name a.value), []) := by
  have hcollect : (State.value ⟨tag, .double, a.name, ""⟩).read
      (a.value.toList.flatMap writeInValue) = (.value ⟨tag, .double, a.name, a.value⟩, []) := by
    have hread := read_flatMap (f := fun text => .value ⟨tag, .double, a.name, text⟩)
      (fun text c hc => read_writeInValue tag a.name text hc) ""
      (fun c hc => show c ≠ '\x00' by rintro rfl; exact hvalue hc)
    simpa using hread
  refine read_cons hs.step_space (read_append (read_attributeName tag hname) ?_)
  exact read_cons rfl (read_cons rfl (read_append hcollect rfl))

/-- Attributes of different names are added in order. -/
theorem State.InTag.read_attributes {s : State} {tag : Draft} {attributes : List Attribute}
    (hs : s.InTag tag) (hnames : ∀ a ∈ attributes, IsName a.name.toList)
    (hvalues : ∀ a ∈ attributes, '\x00' ∉ a.value.toList)
    (hdistinct : ((tag.attributes ++ attributes).map (·.name)).Nodup) :
    ∃ t, State.InTag t { tag with attributes := tag.attributes ++ attributes } ∧
      s.read (attributes.flatMap Attribute.written) = (t, []) := by
  induction attributes generalizing s tag with
  | nil => exact ⟨s, by simpa using hs, rfl⟩
  | cons a attributes ih =>
    have hnew : tag.add a.name a.value = { tag with attributes := tag.attributes ++ [a] } := by
      have hfree : ∀ b ∈ tag.attributes, b.name ≠ a.name := by
        intro b hb he
        rw [List.map_append, List.nodup_append] at hdistinct
        exact hdistinct.2.2 _ (List.mem_map_of_mem hb) _ (by simp) he
      rw [Draft.add, if_neg (by simpa using hfree)]
    have hfirst := hs.read_attribute (hnames a (by simp)) (hvalues a (by simp))
    rw [hnew] at hfirst
    obtain ⟨t, ht, hread⟩ := ih
      (s := .beforeAttribute { tag with attributes := tag.attributes ++ [a] }) (.inr rfl)
      (fun b hb => hnames b (by simp [hb])) (fun b hb => hvalues b (by simp [hb]))
      (by simpa using hdistinct)
    exact ⟨t, by simpa using ht, read_append hfirst hread⟩

/-- The name of a tag, from the state behind `<` or `</`. -/
theorem State.read_tagName {s : State} {closing : Bool} {name : String} (h : IsName name.toList)
    (hs : ∀ c, c.isLower = true → s.step c = (.tagName ⟨closing, String.singleton c, []⟩, [])) :
    s.read name.toList = (.tagName ⟨closing, name, []⟩, []) := by
  obtain ⟨c, rest, rfl, hname, hc, hrest⟩ := h.cons
  rw [hname]
  refine read_cons (hs c hc) (read_chars (f := fun text => .tagName ⟨closing, text, []⟩) ?_ _ hrest)
  intro text d hd
  rw [step, stepTagName, if_neg (by simp [isSpace_of_isNamePart hd]),
    if_neg (ne_of_isNamePart hd (by decide)), if_neg (ne_of_isNamePart hd (by decide)),
    toLower_of_isNamePart hd]

theorem isAlpha_of_isLower {c : Char} (h : c.isLower = true) : c.isAlpha = true := by
  delta Char.isAlpha
  rw [h, Bool.or_true]

theorem State.step_tagOpen {c : Char} (h : c.isLower = true) :
    State.tagOpen.step c = (.tagName ⟨false, String.singleton c, []⟩, []) := by
  have hpart := isNamePart_of_isLower h
  have hlower := toLower_of_isNamePart hpart
  rw [visible, if_neg (ne_of_isNamePart hpart (by decide))] at hlower
  rw [step, stepTagOpen, if_neg (ne_of_isNamePart hpart (by decide)),
    if_neg (ne_of_isNamePart hpart (by decide)), if_neg (ne_of_isNamePart hpart (by decide)),
    if_pos (isAlpha_of_isLower h), hlower]

theorem State.step_endTagOpen {c : Char} (h : c.isLower = true) :
    State.endTagOpen.step c = (.tagName ⟨true, String.singleton c, []⟩, []) := by
  have hpart := isNamePart_of_isLower h
  have hlower := toLower_of_isNamePart hpart
  rw [visible, if_neg (ne_of_isNamePart hpart (by decide))] at hlower
  rw [step, stepEndTagOpen, if_neg (ne_of_isNamePart hpart (by decide)),
    if_pos (isAlpha_of_isLower h), hlower]

theorem State.read_writtenEnd {name : String} (h : IsName name.toList) :
    State.data.read (writtenEnd name) = (.data, [.endTag name]) := by
  have hname := read_tagName h (fun c => step_endTagOpen)
  exact read_cons rfl (read_cons rfl (read_append hname rfl))

/-! ### Nodes -/

/-- Carriage returns and nulls are not kept by the tokenizer. -/
def Writable (s : String) : Prop := '\r' ∉ s.toList ∧ '\x00' ∉ s.toList

instance (s : String) : Decidable (Writable s) :=
  inferInstanceAs (Decidable ('\r' ∉ s.toList ∧ '\x00' ∉ s.toList))

structure Tag.Writable (tag : Tag) : Prop where
  name : IsName tag.name.toList
  notRaw : rawMode? tag.name = none
  names : ∀ a ∈ tag.attributes, IsName a.name.toList
  distinct : (tag.attributes.map (·.name)).Nodup
  values : ∀ a ∈ tag.attributes, Markup.Writable a.value

theorem Tag.Writable.read {tag : Tag} (h : tag.Writable) :
    State.data.read tag.written = (.data, [.startTag tag false]) := by
  have hname := State.read_tagName h.name (fun c => State.step_tagOpen)
  have hstart : State.InTag (.tagName ⟨false, tag.name, []⟩) ⟨false, tag.name, []⟩ := .inl rfl
  obtain ⟨t, ht, hread⟩ := hstart.read_attributes h.names (fun a ha => (h.values a ha).2)
    h.distinct
  have hclose : t.read ['>'] = (.data, [.startTag tag false]) := by
    rw [State.read_singleton, ht.step_close]
    simp [Draft.emit, contentState, h.notRaw]
  exact State.read_cons rfl (State.read_append hname (State.read_append hread hclose))

mutual

/-- No text is empty, and everything can be written. -/
def Node.Writable : Node → Prop
  | .text content => content ≠ "" ∧ Markup.Writable content
  | .element tag children => tag.Writable ∧ NodesWritable children

def NodesWritable : List Node → Prop
  | [] => True
  | n :: rest => n.Writable ∧ NodesWritable rest

end

mutual

def Node.written : Node → List Char
  | .text content => content.toList.flatMap writeInText
  | .element tag children =>
    tag.written ++ if isVoid tag.name then [] else nodesWritten children ++ writtenEnd tag.name

def nodesWritten : List Node → List Char
  | [] => []
  | n :: rest => n.written ++ nodesWritten rest

end

/-- A node as a text of markup. -/
def Node.markup (n : Node) : String := String.ofList n.written

example : (Node.element ⟨"p", [⟨"id", "a\"b"⟩]⟩ [.text "1<2", .element ⟨"br", []⟩ []]).markup =
    "<p id=\"a&quot;b\">1&lt;2<br></p>" := by decide

mutual

/-- The tokens of a node with its texts taken apart. -/
def Node.pieces : Node → List Token
  | .text content => content.toList.map textToken
  | .element tag children =>
    .startTag tag false ::
      if isVoid tag.name then [] else nodesPieces children ++ [.endTag tag.name]

def nodesPieces : List Node → List Token
  | [] => []
  | n :: rest => n.pieces ++ nodesPieces rest

end

mutual

theorem Node.read_written (n : Node) (h : n.Writable) :
    State.data.read n.written = (.data, n.pieces) := by
  match n with
  | .text content => exact State.read_text h.2.2
  | .element tag children =>
    obtain ⟨htag, hchildren⟩ := h
    have hinside := State.read_append (read_nodesWritten children hchildren)
      (State.read_writtenEnd htag.name)
    have hcontent : State.data.read (if isVoid tag.name then []
          else nodesWritten children ++ writtenEnd tag.name) =
        (.data, if isVoid tag.name then [] else nodesPieces children ++ [.endTag tag.name]) := by
      split
      · rfl
      · exact hinside
    exact State.read_append htag.read hcontent

theorem read_nodesWritten (nodes : List Node) (h : NodesWritable nodes) :
    State.data.read (nodesWritten nodes) = (.data, nodesPieces nodes) := by
  match nodes with
  | [] => rfl
  | n :: rest => exact State.read_append (n.read_written h.1) (read_nodesWritten rest h.2)

end

/-! ### Texts in pieces -/

theorem Forest.addText_append (f : Forest) (s t : String) :
    (f.addText s).addText t = f.addText (s ++ t) := by
  rw [addText, addText, addText, modify_modify]
  apply modify_congr
  cases f.latest with
  | nil => rfl
  | cons n nodes => cases n <;> simp [Markup.addText, String.append_assoc]

/-- A text that comes one character at a time is the same text. -/
theorem Forest.run_chars (f : Forest) (c : Char) (cs : List Char) :
    ((c :: cs).map textToken).foldl Forest.take f = f.addText (String.ofList (c :: cs)) := by
  induction cs generalizing f c with
  | nil => rfl
  | cons d cs ih =>
    have htext : String.ofList (c :: d :: cs) = String.singleton c ++ String.ofList (d :: cs) := by
      simp
    rw [List.map_cons, List.foldl_cons, ih, htext, ← addText_append]
    rfl

mutual

theorem Node.run_pieces (n : Node) (f : Forest) (h : n.Writable) :
    n.pieces.foldl Forest.take f = n.tokens.foldl Forest.take f := by
  match n with
  | .text content =>
    obtain ⟨c, cs, hcs⟩ := List.exists_cons_of_ne_nil (show content.toList ≠ [] by simpa using h.1)
    rw [Node.pieces, hcs, Forest.run_chars, ← hcs, String.ofList_toList]
    rfl
  | .element tag children =>
    rw [Node.pieces, Node.tokens]
    split
    · rfl
    · simp only [List.foldl_cons, List.foldl_append, run_nodesPieces children _ h.2]

theorem run_nodesPieces (nodes : List Node) (f : Forest) (h : NodesWritable nodes) :
    (nodesPieces nodes).foldl Forest.take f = (nodesTokens nodes).foldl Forest.take f := by
  match nodes with
  | [] => rfl
  | n :: rest =>
    rw [nodesPieces, nodesTokens, List.foldl_append, List.foldl_append, n.run_pieces f h.1,
      run_nodesPieces rest _ h.2]

end

/-! ### Line ends -/

theorem unifyNewlines_of_not_mem {cs : List Char} (h : '\r' ∉ cs) : unifyNewlines cs = cs := by
  fun_induction unifyNewlines cs with
  | case1 => rfl
  | case2 => simp at h
  | case3 => simp at h
  | case4 c cs _ _ ih => rw [ih (by simp_all)]

theorem IsName.noReturn {cs : List Char} (h : IsName cs) : '\r' ∉ cs := by
  cases cs with
  | nil => simp
  | cons c rest =>
    intro hm
    rcases List.mem_cons.mp hm with rfl | hm
    · cases h.1
    · cases h.2 _ hm

theorem noReturn_writeBut {special : Char} {name cs : List Char} (hname : '\r' ∉ name)
    (h : '\r' ∉ cs) : '\r' ∉ cs.flatMap (writeBut special name) := by
  intro hm
  obtain ⟨c, hc, hreturn⟩ := List.mem_flatMap.mp hm
  unfold writeBut referTo at hreturn
  split at hreturn
  · simp at hreturn
  split at hreturn
  · simp [hname] at hreturn
  · rw [← List.mem_singleton.mp hreturn] at hc
    exact h hc

theorem Tag.Writable.noReturn {tag : Tag} (h : tag.Writable) : '\r' ∉ tag.written := by
  have hattributes : '\r' ∉ tag.attributes.flatMap Attribute.written := by
    intro hm
    obtain ⟨a, ha, hm⟩ := List.mem_flatMap.mp hm
    have hname := (h.names a ha).noReturn
    have hvalue : '\r' ∉ a.value.toList.flatMap writeInValue :=
      noReturn_writeBut (by decide) (h.values a ha).1
    simp [Attribute.written, hname, hvalue] at hm
  simp [Tag.written, h.name.noReturn, hattributes]

mutual

theorem Node.noReturn (n : Node) (h : n.Writable) : '\r' ∉ n.written := by
  match n with
  | .text content => exact noReturn_writeBut (by decide) h.2.1
  | .element tag children =>
    have hinside := noReturn_nodesWritten children h.2
    have hend : '\r' ∉ writtenEnd tag.name := by simp [writtenEnd, h.1.name.noReturn]
    rw [Node.written]
    split <;> simp [h.1.noReturn, hinside, hend]

theorem noReturn_nodesWritten (nodes : List Node) (h : NodesWritable nodes) :
    '\r' ∉ nodesWritten nodes := by
  match nodes with
  | [] => simp [nodesWritten]
  | n :: rest => simp [nodesWritten, n.noReturn h.1, noReturn_nodesWritten rest h.2]

end

/-! ### Elements are read back -/

/-- The tokens of a written element: nothing is dropped in front of it or left at its end. -/
theorem tokens_markup {e : Element} (h : e.toNode.Writable) :
    tokens e.toNode.markup = e.toNode.pieces ++ [.endOfInput] := by
  have hmark : dropMark e.toNode.written = e.toNode.written := rfl
  rw [tokens, Node.markup, String.toList_ofList, hmark,
    unifyNewlines_of_not_mem (e.toNode.noReturn h), State.toList_run_eq, e.toNode.read_written h]
  simp [State.finish]

/-- An element that can be written and is well nested is what its markup is parsed as. -/
theorem parse_markup_reads_back (e : Element) (hwritable : e.toNode.Writable)
    (hnested : e.toNode.WellNested) : parse e.toNode.markup = [e.toNode] := by
  have hrun := e.toNode.run_tokens (f := {}) hnested (by simp [Forest.Admits, Forest.tags])
    (by simp [Forest.latest])
  rw [parse, Forest.ofTokens, tokens_markup hwritable, List.foldl_append,
    e.toNode.run_pieces {} hwritable, hrun]
  rfl

/-- A value with quotes and a text that holds a reference as it would be written. -/
theorem parse_markup_reads_back_list :
    parse "<ul class=\"a &quot;b&quot;\"><li>1 &lt; 2 &amp;amp; 3<br></li><li></li></ul>" =
      [.element ⟨"ul", [⟨"class", "a \"b\""⟩]⟩ [.element ⟨"li", []⟩ [.text "1 < 2 &amp; 3",
        .element ⟨"br", []⟩ []], .element ⟨"li", []⟩ []]] := by
  have hli : Tag.Writable ⟨"li", []⟩ := ⟨by decide, by decide, by decide, by decide, by decide⟩
  have hnested : WellNested [.element ⟨"ul", [⟨"class", "a \"b\""⟩]⟩ [.element ⟨"li", []⟩
      [.text "1 < 2 &amp; 3", .element ⟨"br", []⟩ []], .element ⟨"li", []⟩ []]] := by decide
  exact parse_markup_reads_back ⟨⟨"ul", [⟨"class", "a \"b\""⟩]⟩, [.element ⟨"li", []⟩
      [.text "1 < 2 &amp; 3", .element ⟨"br", []⟩ []], .element ⟨"li", []⟩ []]⟩
    ⟨⟨by decide, by decide, by decide, by decide, by decide⟩, ⟨hli, ⟨by decide, by decide⟩,
      ⟨⟨by decide, by decide, by decide, by decide, by decide⟩, trivial⟩, trivial⟩,
      ⟨hli, trivial⟩, trivial⟩ hnested.1

end MarkupChain.Markup
