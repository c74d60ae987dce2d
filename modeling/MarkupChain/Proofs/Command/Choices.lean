import MarkupChain.Proofs.Command.Directives

/-!
# Choices

What may be chosen on a command line without a command of its own, and the settings that the choice
stands for: what is not chosen is at its default. The directives that give a choice can be taken
together, and what they record is the choice.
-/

namespace MarkupChain.Command

open Component Script

/-- Any text but the empty one. -/
abbrev FileName := { text : String // text ≠ "" }

/-- A width below 2⁶⁴ and how many more zeros its decimal form starts with. -/
structure Numeral where
  value : Nat
  small : value < UInt64.size
  zeros : Nat := 0

def Numeral.text (n : Numeral) : String :=
  String.ofList (List.replicate n.zeros '0') ++ toString n.value

/-- The input file, named directly or by an option. -/
inductive Source where
  | direct (name : FileName)
  | file (name : FileName)

def Source.name : Source → String
  | .direct name | .file name => name.val

inductive Verbosity where
  | more (times : Nat)
  | less (times : Nat)

def Verbosity.level : Verbosity → Level
  | .more 0 | .less 0 => .error
  | .more 1 => .warn
  | .more 2 => .info
  | .more 3 => .debug
  | .more _ => .trace
  | .less _ => .off

/-- What may be chosen together; what is left out is not given on the command line. -/
structure Choice where
  name : Option String := none
  noTrim : Bool := false
  raw : Bool := false
  indentWidth : Option Numeral := none
  printWidth : Option Numeral := none
  output : Option FileName := none
  input : Option Source := none
  verbosity : Verbosity := .more 0

def Choice.settings (c : Choice) : Settings where
  input := c.input.map Source.name
  options := { name := c.name.getD "Component", trim := !c.noTrim }
  raw := c.raw
  widths :=
    { indent := (c.indentWidth.map Numeral.value).getD 2
      print := (c.printWidth.map Numeral.value).getD 80 }
  output := c.output.map Subtype.val
  level := c.verbosity.level

/-- The text that is assigned to a field. -/
def Choice.text? (c : Choice) : Field → Option String
  | .direct => match c.input with
    | some (.direct name) => some name.val
    | _ => none
  | .file => match c.input with
    | some (.file name) => some name.val
    | _ => none
  | .name => c.name
  | .indentWidth => c.indentWidth.map Numeral.text
  | .printWidth => c.printWidth.map Numeral.text
  | .output => c.output.map Subtype.val
  | .shell => none

/-- How often a flag is raised. -/
def Choice.times (c : Choice) : Flag → Nat
  | .noTrim => c.noTrim.toNat
  | .raw => c.raw.toNat
  | .verbose => match c.verbosity with
    | .more times => times
    | .less _ => 0
  | .quiet => match c.verbosity with
    | .more _ => 0
    | .less times => times
  | .help | .version => 0

def Choice.directives (c : Choice) : List Directive :=
  [Field.direct, .file, .name, .indentWidth, .printWidth, .output].flatMap
      (fun field => (c.text? field).toList.map (.assign field)) ++
    [Flag.noTrim, .raw, .verbose, .quiet].flatMap
      fun flag => List.replicate (c.times flag) (.raise flag)

/-! ### A choice can be given -/

theorem number?_of_digits {text : String} {n : Nat} (hne : text.toList ≠ [])
    (hdigits : ∀ c ∈ text.toList, c.isDigit = true)
    (hvalue : Nat.ofDigitChars 10 text.toList 0 = n) (hsmall : n < UInt64.size) :
    number? text = some n := by
  have hfold : text.toList.foldl (fun n c => n * 10 + (c.toNat - '0'.toNat)) 0 = n := by
    rw [← hvalue, Nat.ofDigitChars_eq_foldl]
    simp only [Nat.mul_comm]
  unfold number?
  dsimp only
  split
  · rename_i rest hsign
    exact absurd (hdigits '+' (by simp [hsign])) (by decide)
  · rw [if_neg (by simpa [hne] using hdigits), hfold, if_pos hsmall]

theorem Numeral.toList_text (n : Numeral) :
    n.text.toList = List.replicate n.zeros '0' ++ Nat.toDigits 10 n.value := by
  simp [Numeral.text]

theorem Numeral.number?_text (n : Numeral) : number? n.text = some n.value := by
  refine number?_of_digits ?_ ?_ ?_ n.small
  · simp [n.toList_text, Nat.toDigits_ne_nil]
  · intro c hc
    rw [n.toList_text, List.mem_append] at hc
    rcases hc with hc | hc
    · rw [List.eq_of_mem_replicate hc]
      rfl
    · exact Nat.isDigit_of_mem_toDigits (by decide) (by decide) hc
  · rw [n.toList_text, Nat.ofDigitChars_append, Nat.ofDigitChars_replicate_zero, Nat.mul_zero,
      Nat.ofDigitChars_ten_toDigits]

theorem path?_fileName (name : FileName) : path? name.val = some name.val := by
  simp [path?, name.property]

theorem textsFor_assigns (field f : Field) (texts : List String) :
    textsFor field (texts.map (.assign f)) = if f = field then texts else [] := by
  induction texts with
  | nil => simp
  | cons text texts ih =>
    rw [List.map_cons, textsFor_assign, ih]
    split <;> rfl

theorem textsFor_replicate (field : Field) (flag : Flag) (n : Nat) :
    textsFor field (List.replicate n (.raise flag)) = [] := by
  induction n with
  | zero => rfl
  | succ n ih => rw [List.replicate_succ, textsFor_raise, ih]

theorem Choice.textsFor_directives (c : Choice) (field : Field) :
    textsFor field c.directives = (c.text? field).toList := by
  cases field <;> simp [directives, textsFor_assigns, textsFor_replicate, text?]

theorem Choice.count_directives (c : Choice) (flag : Flag) :
    c.directives.count (.raise flag) = c.times flag := by
  have hassigns : ∀ field (texts : List String),
      (texts.map (Directive.assign field)).count (.raise flag) = 0 := by
    intro field texts
    exact List.count_eq_zero.mpr (by simp)
  cases flag <;> simp [directives, hassigns, List.count_replicate, times]

theorem Choice.checked_input (c : Choice) :
    ((c.text? .direct).bind path?).or ((c.text? .file).bind path?) = c.input.map Source.name := by
  cases hinput : c.input with
  | none => simp [text?, hinput]
  | some source => cases source <;> simp [text?, hinput, path?_fileName, Source.name]

theorem bind_path? (name : Option FileName) :
    (name.map Subtype.val).bind path? = name.map Subtype.val := by
  cases name <;> simp [path?_fileName]

theorem bind_number? (n : Option Numeral) :
    (n.map Numeral.text).bind number? = n.map Numeral.value := by
  cases n <;> simp [Numeral.number?_text]

theorem Choice.valid_assign (c : Choice) {field : Field} {text : String}
    (h : c.text? field = some text) : ∃ g, ({} : Given).take (.assign field text) = .ok g := by
  cases field with
  | direct | file =>
    simp only [text?] at h
    split at h <;> cases h
    simp [Given.take, Given.assign, setOnce, path?_fileName]
  | name => exact ⟨_, rfl⟩
  | indentWidth | printWidth =>
    obtain ⟨n, -, rfl⟩ := Option.map_eq_some_iff.mp h
    simp [Given.take, Given.assign, setOnce, n.number?_text]
  | output =>
    obtain ⟨name, -, rfl⟩ := Option.map_eq_some_iff.mp h
    simp [Given.take, Given.assign, setOnce, path?_fileName]
  | shell => cases h

theorem Choice.valid (c : Choice) {d : Directive} (hd : d ∈ c.directives) :
    ∃ g, ({} : Given).take d = .ok g := by
  simp only [directives, List.mem_append, List.mem_flatMap, List.mem_map, Option.mem_toList] at hd
  rcases hd with ⟨field, -, text, htext, rfl⟩ | ⟨flag, hflag, hd⟩
  · exact c.valid_assign htext
  · obtain ⟨-, rfl⟩ := List.mem_replicate.mp hd
    simp only [List.mem_cons, List.not_mem_nil, or_false] at hflag
    rcases hflag with rfl | rfl | rfl | rfl <;> exact ⟨_, rfl⟩

theorem Choice.compatible (c : Choice) : Compatible c.directives where
  valid _ := c.valid
  assignedOnce field := by
    rw [c.textsFor_directives]
    exact Option.length_toList_le
  raisedOnce := by
    rw [c.count_directives, c.count_directives]
    exact ⟨Bool.toNat_le _, Bool.toNat_le _⟩
  oneInput := by
    rw [c.textsFor_directives, c.textsFor_directives]
    cases hinput : c.input with
    | none => simp [text?, hinput]
    | some source => cases source <;> simp [text?, hinput]
  oneDirection := by
    rw [c.count_directives, c.count_directives]
    cases hverbosity : c.verbosity <;> simp [times, hverbosity]

theorem Verbosity.level_more (n : Nat) : Level.ofRequests n 0 = (Verbosity.more n).level := by
  match n with
  | 0 | 1 | 2 | 3 => rfl
  | n + 4 =>
    have hrank : 1 + (n + 4) - 0 = n + 5 := by omega
    rw [Level.ofRequests, hrank]
    rfl

theorem Verbosity.level_less (n : Nat) : Level.ofRequests 0 n = (Verbosity.less n).level := by
  cases n with
  | zero => rfl
  | succ n =>
    have hrank : 1 + 0 - (n + 1) = 0 := by omega
    rw [Level.ofRequests, hrank]
    rfl

theorem Choice.level_times (c : Choice) :
    Level.ofRequests (c.times .verbose) (c.times .quiet) = c.verbosity.level := by
  cases hverbosity : c.verbosity with
  | more n => simpa only [times, hverbosity] using Verbosity.level_more n
  | less n => simpa only [times, hverbosity] using Verbosity.level_less n

theorem Choice.settings_record (c : Choice) : (record c.directives).settings = c.settings := by
  have htrim : (c.times .noTrim != 0) = c.noTrim := by
    cases htrim : c.noTrim <;> simp [times, htrim]
  have hraw : (c.times .raw != 0) = c.raw := by
    cases hraw : c.raw <;> simp [times, hraw]
  simp only [Given.settings, record, c.textsFor_directives, c.count_directives,
    Option.head?_toList, checked_input, level_times, htrim, hraw]
  simp only [settings, text?, bind_path?, bind_number?]

end MarkupChain.Command
