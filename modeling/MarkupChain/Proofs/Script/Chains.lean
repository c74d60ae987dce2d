import MarkupChain.Script.Expr

/-!
# Chains lose nothing

An expression is the same as its chain: the links applied to the head, one after another, give it
back. The head is neither a member access nor a call, and the only link without a name is made of
the calls on the head itself, so no other chain of this kind gives the same expression. The flat form
of the expression is that of the head followed by those of the links.
-/

namespace MarkupChain.Script

/-- Neither a member access nor a call. -/
def Expr.IsHead : Expr → Prop
  | .member _ _ | .call _ _ => False
  | .ident _ | .literal _ | .object _ => True

/-- The member access of a link, if it has a name, and then its calls. -/
def Link.on (target : Expr) (link : Link) : Expr :=
  link.calls.foldl .call <| match link.name with
    | some name => .member target name
    | none => target

/-- The expression that a chain stands for. -/
def Chain.expr (c : Chain) : Expr := c.links.foldl Link.on c.head

/-- Only the first link can lack a name, and then it has a call. -/
structure Chain.Regular (c : Chain) : Prop where
  isHead : c.head.IsHead
  named : ∀ link ∈ c.links.tail, link.name ≠ none
  called : ∀ link ∈ c.links, link.name = none → link.calls ≠ []

/-! ### From the expression to its chain -/

theorem Expr.expr_unwind (e : Expr) (calls : List (List Expr)) (links : List Link) :
    (e.unwind calls links).expr = links.foldl Link.on (calls.foldl .call e) := by
  fun_induction Expr.unwind e calls links with
  | case1 target name calls links ih => simpa [Link.on] using ih
  | case2 callee args calls links ih => simpa using ih
  | case3 => rfl
  | case4 => rfl

theorem Expr.regular_unwind (e : Expr) (calls : List (List Expr)) {links : List Link}
    (h : ∀ link ∈ links, link.name ≠ none) : (e.unwind calls links).Regular := by
  fun_induction Expr.unwind e calls links with
  | case1 target name calls links ih =>
    refine ih fun link hlink => ?_
    rcases List.mem_cons.mp hlink with rfl | hlink
    · simp
    · exact h link hlink
  | case2 callee args calls links ih => exact ih h
  | case3 head links hmember hcall =>
    have hhead : head.IsHead := by cases head <;> simp_all [IsHead]
    exact ⟨hhead, fun link hlink => h link (List.mem_of_mem_tail hlink),
      fun link hlink hnone => absurd hnone (h link hlink)⟩
  | case4 head first more links hmember hcall =>
    have hhead : head.IsHead := by cases head <;> simp_all [IsHead]
    refine ⟨hhead, h, fun link hlink hnone => ?_⟩
    rcases List.mem_cons.mp hlink with rfl | hlink
    · simp
    · exact absurd hnone (h link hlink)

theorem Expr.expr_chain (e : Expr) : e.chain.expr = e := e.expr_unwind [] []

theorem Expr.regular_chain (e : Expr) : e.chain.Regular := e.regular_unwind [] (by simp)

/-! ### From a chain to its expression -/

theorem Expr.unwind_calls (e : Expr) (calls more : List (List Expr)) (links : List Link) :
    (calls.foldl .call e).unwind more links = e.unwind (calls ++ more) links := by
  induction calls generalizing e with
  | nil => rfl
  | cons args calls ih =>
    rw [List.foldl_cons, ih]
    rfl

/-- Named links are read one by one, whatever they are applied to. -/
theorem Expr.unwind_links (e : Expr) {links : List Link} (h : ∀ link ∈ links, link.name ≠ none)
    (more : List Link) : (links.foldl Link.on e).unwind [] more = e.unwind [] (links ++ more) := by
  induction links generalizing e with
  | nil => rfl
  | cons link links ih =>
    obtain ⟨name, hname⟩ := Option.ne_none_iff_exists'.mp (h link (by simp))
    have hon : Link.on e link = link.calls.foldl .call (.member e name) := by
      simp [Link.on, hname]
    rw [List.foldl_cons, ih _ fun l hl => h l (by simp [hl]), hon, unwind_calls]
    simp [unwind, ← hname]

theorem Expr.IsHead.unwind_nil {head : Expr} (h : head.IsHead) (links : List Link) :
    head.unwind [] links = ⟨head, links⟩ := by
  cases head with
  | ident | literal | object => rfl
  | member | call => exact h.elim

theorem Expr.IsHead.unwind_calls {head : Expr} (h : head.IsHead) {calls : List (List Expr)}
    (hcalls : calls ≠ []) (links : List Link) :
    head.unwind calls links = ⟨head, ⟨none, calls⟩ :: links⟩ := by
  obtain ⟨first, more, rfl⟩ := List.exists_cons_of_ne_nil hcalls
  cases head with
  | ident | literal | object => rfl
  | member | call => exact h.elim

theorem Chain.Regular.chain_expr {c : Chain} (h : c.Regular) : c.expr.chain = c := by
  obtain ⟨head, links⟩ := c
  cases links with
  | nil => exact h.isHead.unwind_nil []
  | cons link links =>
    have hrest : (Chain.expr ⟨head, link :: links⟩).chain =
        (Link.on head link).unwind [] links := by
      simpa [Expr.chain, Chain.expr] using (Link.on head link).unwind_links h.named []
    obtain ⟨name, calls⟩ := link
    cases name with
    | none =>
      have hcalls : calls ≠ [] := h.called ⟨none, calls⟩ (by simp) rfl
      rw [hrest, Link.on, Expr.unwind_calls, List.append_nil, h.isHead.unwind_calls hcalls]
    | some name =>
      rw [hrest, Link.on, Expr.unwind_calls, List.append_nil]
      exact h.isHead.unwind_nil _

theorem Expr.chain_eq_iff {e : Expr} {c : Chain} : e.chain = c ↔ c.Regular ∧ c.expr = e := by
  constructor
  · rintro rfl
    exact ⟨e.regular_chain, e.expr_chain⟩
  · rintro ⟨h, rfl⟩
    exact h.chain_expr

/-! ### The flat form -/

/-- The flat form of a call behind what is called. -/
def flatCall (args : List Expr) : String := "(" ++ commaList (flatArgs args) ++ ")"

def Link.flat (link : Link) : String :=
  (match link.name with
    | some name => "." ++ name
    | none => "") ++ String.join (link.calls.map flatCall)

theorem flat_calls (e : Expr) (calls : List (List Expr)) :
    (calls.foldl .call e).flat = e.flat ++ String.join (calls.map flatCall) := by
  induction calls generalizing e with
  | nil => simp
  | cons args calls ih =>
    rw [List.foldl_cons, ih, List.map_cons, String.join_cons, Expr.flat, flatCall]
    simp only [String.append_assoc]

theorem Link.flat_on (target : Expr) (link : Link) :
    (link.on target).flat = target.flat ++ link.flat := by
  obtain ⟨name, calls⟩ := link
  rw [Link.on, flat_calls, Link.flat]
  cases name with
  | none => simp
  | some name => simp only [Expr.flat, String.append_assoc]

theorem Chain.flat_expr (c : Chain) :
    c.expr.flat = c.head.flat ++ String.join (c.links.map Link.flat) := by
  obtain ⟨head, links⟩ := c
  induction links generalizing head with
  | nil => simp [expr]
  | cons link links ih =>
    calc (Chain.expr ⟨head, link :: links⟩).flat
        = (link.on head).flat ++ String.join (links.map Link.flat) := ih (link.on head)
      _ = head.flat ++ (link.flat ++ String.join (links.map Link.flat)) := by
        rw [link.flat_on head, String.append_assoc]
      _ = head.flat ++ String.join ((link :: links).map Link.flat) := by simp

/-- The chain of an expression is a head that is no longer a chain, with links that rebuild the
expression; at most the first link has no name, and it has a call then. No other chain is like this,
and the flat forms of the parts make up that of the whole. -/
theorem chain_rebuilds_and_flattens (e : Expr) :
    e.chain.head.IsHead ∧ e.chain.links.foldl Link.on e.chain.head = e ∧
    (∀ link ∈ e.chain.links.tail, link.name ≠ none) ∧
    (∀ link ∈ e.chain.links, link.name = none → link.calls ≠ []) ∧
    (∀ c : Chain, e.chain = c ↔ c.Regular ∧ c.expr = e) ∧
    e.flat = e.chain.head.flat ++ String.join (e.chain.links.map Link.flat) := by
  have hregular := e.regular_chain
  refine ⟨hregular.isHead, e.expr_chain, hregular.named, hregular.called, ?_, ?_⟩
  · intro c
    exact Expr.chain_eq_iff
  · have hflat := e.chain.flat_expr
    rwa [e.expr_chain] at hflat

/-- Two calls on the head itself come before the first name, and one name is not called. -/
theorem chain_rebuilds_and_flattens_called_head :
    Expr.chain (.call (.member (.member (.call (.call (.ident "h") []) [.ident "a"]) "b") "c") []) =
        ⟨.ident "h", [⟨none, [[], [.ident "a"]]⟩, ⟨some "b", []⟩, ⟨some "c", [[]]⟩]⟩ ∧
      some "b" ≠ none ∧ [[], [Expr.ident "a"]] ≠ [] ∧
      Expr.flat
          (.call (.member (.member (.call (.call (.ident "h") []) [.ident "a"]) "b") "c") []) =
        "h" ++ String.join ["()(a)", ".b", ".c()"] := by
  have hchain : Expr.chain
      (.call (.member (.member (.call (.call (.ident "h") []) [.ident "a"]) "b") "c") []) =
        ⟨.ident "h", [⟨none, [[], [.ident "a"]]⟩, ⟨some "b", []⟩, ⟨some "c", [[]]⟩]⟩ := rfl
  obtain ⟨-, -, hnamed, hcalled, -, hflat⟩ := chain_rebuilds_and_flattens
    (.call (.member (.member (.call (.call (.ident "h") []) [.ident "a"]) "b") "c") [])
  rw [hchain] at hnamed hcalled hflat
  exact ⟨hchain, hnamed ⟨some "b", []⟩ (by simp), hcalled ⟨none, _⟩ (by simp) rfl, hflat⟩

end MarkupChain.Script
