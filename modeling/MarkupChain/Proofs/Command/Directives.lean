import MarkupChain.Command.Arguments
import MarkupChain.Proofs.Script.Spacing

/-!
# Directives in any order

A command line gives directives: flags to raise and texts to assign. What a list of directives gives
can be read off the list as a whole, without an order. Taking the directives one by one leads to the
same, as long as each can be taken on its own and nothing that may be given once is given twice.
-/

namespace MarkupChain.Command

inductive Directive where
  | raise (flag : Flag)
  | assign (field : Field) (text : String)
  deriving DecidableEq, Repr

def Given.take (g : Given) : Directive → Except Stop Given
  | .raise flag => g.raise flag
  | .assign field text => g.assign field text

def Directive.textFor? (field : Field) : Directive → Option String
  | .raise _ => none
  | .assign f text => if f = field then some text else none

/-- The texts that are assigned to a field. -/
def textsFor (field : Field) (ds : List Directive) : List String :=
  ds.filterMap (Directive.textFor? field)

/-- What directives give together. -/
def record (ds : List Directive) : Given where
  direct := (textsFor .direct ds).head?.bind path?
  file := (textsFor .file ds).head?.bind path?
  name := (textsFor .name ds).head?
  indentWidth := (textsFor .indentWidth ds).head?.bind number?
  printWidth := (textsFor .printWidth ds).head?.bind number?
  output := (textsFor .output ds).head?.bind path?
  shell := (textsFor .shell ds).head?.bind Shell.ofName?
  noTrim := ds.count (.raise .noTrim) != 0
  raw := ds.count (.raise .raw) != 0
  verbose := ds.count (.raise .verbose)
  quiet := ds.count (.raise .quiet)

@[simp] theorem textsFor_nil (field : Field) : textsFor field [] = [] := rfl

@[simp] theorem textsFor_append (field : Field) (ds es : List Directive) :
    textsFor field (ds ++ es) = textsFor field ds ++ textsFor field es := by
  simp [textsFor]

@[simp] theorem textsFor_raise (field : Field) (flag : Flag) (ds : List Directive) :
    textsFor field (.raise flag :: ds) = textsFor field ds := rfl

theorem textsFor_assign (field f : Field) (text : String) (ds : List Directive) :
    textsFor field (.assign f text :: ds) =
      if f = field then text :: textsFor field ds else textsFor field ds := by
  by_cases h : f = field <;> simp [textsFor, Directive.textFor?, h]

/-- Directives that can be taken together. -/
structure Compatible (ds : List Directive) : Prop where
  valid : ∀ d ∈ ds, ∃ g, ({} : Given).take d = .ok g
  assignedOnce : ∀ field, (textsFor field ds).length ≤ 1
  raisedOnce : ds.count (.raise .noTrim) ≤ 1 ∧ ds.count (.raise .raw) ≤ 1
  oneInput : textsFor .direct ds = [] ∨ textsFor .file ds = []
  oneDirection : ds.count (.raise .verbose) = 0 ∨ ds.count (.raise .quiet) = 0

/-! ### Taking one more -/

/-- Nothing in the list keeps the directive from being taken. -/
def Directive.Fresh (ds : List Directive) : Directive → Prop
  | .assign field _ => textsFor field ds = []
  | .raise .noTrim => ds.count (.raise .noTrim) = 0
  | .raise .raw => ds.count (.raise .raw) = 0
  | .raise _ => True

theorem Compatible.fresh {ds es : List Directive} {d : Directive} (h : Compatible (ds ++ d :: es)) :
    d.Fresh ds := by
  have hraised : ∀ flag, (ds ++ .raise flag :: es).count (.raise flag) ≤ 1 →
      ds.count (.raise flag) = 0 := by
    intro flag hflag
    rw [List.count_append, List.count_cons_self] at hflag
    omega
  cases d with
  | assign field text =>
    have hlength := h.assignedOnce field
    rw [textsFor_append, textsFor_assign, if_pos rfl, List.length_append, List.length_cons]
      at hlength
    exact List.length_eq_zero_iff.mp (by omega)
  | raise flag =>
    cases flag with
    | noTrim => exact hraised .noTrim h.raisedOnce.1
    | raw => exact hraised .raw h.raisedOnce.2
    | verbose | quiet | help | version => trivial

theorem setOnce_eq_ok {α : Type} {old new : Option α} {invalid : Stop} {set : α → Given}
    {g : Given} : setOnce old new invalid set = .ok g ↔
      old = none ∧ ∃ value, new = some value ∧ set value = g := by
  unfold setOnce
  cases old with
  | some _ => simp
  | none => cases new <;> simp

/-- A directive that can be taken on its own is added to what the others give. -/
theorem Directive.Fresh.take_record {ds : List Directive} {d : Directive} (hfresh : d.Fresh ds)
    (hvalid : ∃ g, ({} : Given).take d = .ok g) :
    (record ds).take d = .ok (record (ds ++ [d])) := by
  obtain ⟨g, hg⟩ := hvalid
  cases d with
  | raise flag =>
    cases flag with
    | noTrim | raw =>
      have hnone : ds.count _ = 0 := hfresh
      simp [Given.take, Given.raise, record, hnone]
    | verbose | quiet => simp [Given.take, Given.raise, record]
    | help | version => cases hg
  | assign field text =>
    have hnone : textsFor field ds = [] := hfresh
    cases field with
    | direct | file | name | indentWidth | printWidth | output | shell =>
      rw [Given.take, Given.assign, setOnce_eq_ok] at hg ⊢
      obtain ⟨-, value, hvalue, -⟩ := hg
      refine ⟨by simp [record, hnone], value, hvalue, ?_⟩
      simp [record, textsFor_assign, hnone, ← hvalue]

theorem Compatible.take_record {ds es : List Directive} {d : Directive}
    (h : Compatible (ds ++ d :: es)) : (record ds).take d = .ok (record (ds ++ [d])) :=
  h.fresh.take_record (h.valid d (by simp))

/-! ### The order does not matter -/

theorem textsFor_perm {ds es : List Directive} (h : ds.Perm es) {field : Field}
    (honce : (textsFor field es).length ≤ 1) : textsFor field ds = textsFor field es := by
  have hperm : (textsFor field ds).Perm (textsFor field es) := h.filterMap _
  match htexts : textsFor field es with
  | [] => exact List.perm_nil.mp (htexts ▸ hperm)
  | [text] => exact List.perm_singleton.mp (htexts ▸ hperm)
  | _ :: _ :: _ => simp [htexts] at honce

theorem Compatible.perm {ds es : List Directive} (h : Compatible es) (hperm : ds.Perm es) :
    Compatible ds := by
  have htexts : ∀ field, textsFor field ds = textsFor field es :=
    fun field => textsFor_perm hperm (h.assignedOnce field)
  constructor
  · intro d hd
    exact h.valid d (hperm.mem_iff.mp hd)
  · simpa only [htexts] using h.assignedOnce
  · simpa only [hperm.count_eq] using h.raisedOnce
  · simpa only [htexts] using h.oneInput
  · simpa only [hperm.count_eq] using h.oneDirection

theorem Compatible.record_perm {ds es : List Directive} (h : Compatible es) (hperm : ds.Perm es) :
    record ds = record es := by
  have htexts : ∀ field, textsFor field ds = textsFor field es :=
    fun field => textsFor_perm hperm (h.assignedOnce field)
  simp only [record, htexts, hperm.count_eq]

end MarkupChain.Command
