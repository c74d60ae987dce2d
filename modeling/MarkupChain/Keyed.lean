/-!
# Keyed entries

An association list in which a key stands once. Writing to a key that is present replaces its value
and keeps its place; a new key goes to the end. So keys come in the order of their first writing and
each has the value of its last.
-/

namespace MarkupChain.Keyed

variable {α : Type}

def put (key : String) (value : α) : List (String × α) → List (String × α)
  | [] => [(key, value)]
  | (k, v) :: rest => if k = key then (k, value) :: rest else (k, v) :: put key value rest

/-- Writes pairs one after the other over entries that are there already. -/
def putAll (entries pairs : List (String × α)) : List (String × α) :=
  pairs.foldl (fun entries pair => put pair.1 pair.2 entries) entries

def ofPairs (pairs : List (String × α)) : List (String × α) := putAll [] pairs

@[simp] theorem put_nil (key : String) (value : α) : put key value [] = [(key, value)] := rfl

@[simp] theorem putAll_nil (entries : List (String × α)) : putAll entries [] = entries := rfl

@[simp] theorem putAll_cons (entries pairs : List (String × α)) (pair : String × α) :
    putAll entries (pair :: pairs) = putAll (put pair.1 pair.2 entries) pairs := rfl

theorem putAll_append (entries pairs more : List (String × α)) :
    putAll entries (pairs ++ more) = putAll (putAll entries pairs) more := by
  simp [putAll]

theorem mem_put {key : String} {value : α} {entries : List (String × α)} {pair : String × α}
    (h : pair ∈ put key value entries) : pair = (key, value) ∨ pair ∈ entries := by
  fun_induction put key value entries with
  | case1 => exact .inl (List.mem_singleton.mp h)
  | case2 v rest =>
    rcases List.mem_cons.mp h with h | h
    · exact .inl h
    · exact .inr (List.mem_cons_of_mem _ h)
  | case3 k v rest _ ih =>
    rcases List.mem_cons.mp h with h | h
    · exact .inr (h ▸ List.mem_cons_self)
    · exact (ih h).imp_right (List.mem_cons_of_mem _)

theorem mem_putAll {entries pairs : List (String × α)} {pair : String × α}
    (h : pair ∈ putAll entries pairs) : pair ∈ entries ∨ pair ∈ pairs := by
  induction pairs generalizing entries with
  | nil => exact .inl h
  | cons first pairs ih =>
    rcases ih h with h | h
    · rcases mem_put h with h | h
      · exact .inr (h ▸ List.mem_cons_self)
      · exact .inl h
    · exact .inr (List.mem_cons_of_mem _ h)

/-- Every entry was written. -/
theorem mem_of_mem_ofPairs {pairs : List (String × α)} {pair : String × α}
    (h : pair ∈ ofPairs pairs) : pair ∈ pairs :=
  (mem_putAll h).resolve_left List.not_mem_nil

end MarkupChain.Keyed
