import MarkupChain.Keyed

/-!
# Pairs merged into entries

Pairs that are written one after the other become an ordered map: each key stands once, at the place
of its first pair and with the value of its last. One writing extends what the pairs so far have
become, so any number of them does. Merging two lists of pairs is the same as merging each on its own
and laying the second result over the first.
-/

namespace MarkupChain.Keyed

variable {α : Type}

def keys (entries : List (String × α)) : List String := entries.map Prod.fst

@[simp] theorem keys_nil : keys ([] : List (String × α)) = [] := rfl

@[simp] theorem keys_cons (entry : String × α) (entries : List (String × α)) :
    keys (entry :: entries) = entry.1 :: keys entries := rfl

@[simp] theorem keys_append (entries more : List (String × α)) :
    keys (entries ++ more) = keys entries ++ keys more := List.map_append

theorem mem_keys_of_mem {entry : String × α} {entries : List (String × α)} (h : entry ∈ entries) :
    entry.1 ∈ keys entries := List.mem_map_of_mem h

theorem lookup_cons_eq_ite (entry : String × α) (entries : List (String × α)) (key : String) :
    (entry :: entries).lookup key = if key = entry.1 then some entry.2 else entries.lookup key := by
  rw [List.lookup_cons]
  by_cases h : key = entry.1
  · rw [beq_iff_eq.mpr h, if_pos h]
  · rw [beq_eq_false_iff_ne.mpr h, if_neg h]

theorem not_mem_keys_iff {key : String} {entries : List (String × α)} :
    key ∉ keys entries ↔ ∀ entry ∈ entries, (key != entry.1) = true := by
  induction entries with
  | nil => simp
  | cons entry entries ih => simp [ih]

/-- The value that is found from the end is that of the last pair of its key. -/
theorem lookup_reverse_eq_some_iff {pairs : List (String × α)} {key : String} {value : α} :
    pairs.reverse.lookup key = some value ↔
      ∃ before after, pairs = before ++ (key, value) :: after ∧ key ∉ keys after := by
  rw [List.lookup_eq_some_iff]
  constructor
  · rintro ⟨after, before, hpairs, hafter⟩
    refine ⟨before.reverse, after.reverse, ?_, ?_⟩
    · simpa using congrArg List.reverse hpairs
    · rw [not_mem_keys_iff]
      simpa using hafter
  · rintro ⟨before, after, rfl, hafter⟩
    rw [not_mem_keys_iff] at hafter
    exact ⟨after.reverse, before.reverse, by simp, by simpa using hafter⟩

/-! ### One writing -/

section put

variable (key : String) (value : α) {entries : List (String × α)}

theorem keys_put (entries : List (String × α)) :
    keys (put key value entries) =
      if key ∈ keys entries then keys entries else keys entries ++ [key] := by
  fun_induction put key value entries with
  | case1 => simp
  | case2 v rest => simp
  | case3 k v rest hk ih =>
    have hkey : key ≠ k := Ne.symm hk
    rw [keys_cons, ih, keys_cons]
    by_cases hmem : key ∈ keys rest
    · simp [hmem]
    · simp [hkey, hmem]

theorem lookup_put (entries : List (String × α)) (k : String) :
    (put key value entries).lookup k = if k = key then some value else entries.lookup k := by
  fun_induction put key value entries with
  | case1 => rw [lookup_cons_eq_ite]
  | case2 v rest => by_cases hk : k = key <;> simp [lookup_cons_eq_ite, hk]
  | case3 first v rest hfirst ih =>
    rw [lookup_cons_eq_ite, lookup_cons_eq_ite, ih]
    by_cases hk : k = first
    · simp [hk, hfirst]
    · simp [hk]

theorem put_append_of_not_mem (h : key ∉ keys entries) (more : List (String × α)) :
    put key value (entries ++ more) = entries ++ put key value more := by
  induction entries with
  | nil => rfl
  | cons entry entries ih =>
    obtain ⟨hkey, hrest⟩ := List.ne_and_not_mem_of_not_mem_cons h
    rw [List.cons_append, put, if_neg hkey.symm, ih hrest, List.cons_append]

theorem put_append_of_mem (h : key ∈ keys entries) (more : List (String × α)) :
    put key value (entries ++ more) = put key value entries ++ more := by
  induction entries with
  | nil => cases h
  | cons entry entries ih =>
    rw [List.cons_append, put, put]
    split
    · rfl
    · next hkey =>
      have hrest : key ∈ keys entries := (List.mem_cons.mp h).resolve_left (Ne.symm hkey)
      rw [ih hrest, List.cons_append]

/-- Where keys are distinct, the entry of the key is changed and no other. -/
theorem put_eq_map (hdistinct : (keys entries).Nodup) (h : key ∈ keys entries) :
    put key value entries =
      entries.map fun entry => (entry.1, if entry.1 = key then value else entry.2) := by
  induction entries with
  | nil => cases h
  | cons entry entries ih =>
    obtain ⟨hnew, hrest⟩ := List.nodup_cons.mp hdistinct
    rw [put, List.map_cons]
    by_cases hkey : entry.1 = key
    · have hsame : ∀ other ∈ entries,
          (other.1, if other.1 = key then value else other.2) = other := by
        intro other hother
        have hother : other.1 ≠ key := fun h => hnew (hkey ▸ h ▸ mem_keys_of_mem hother)
        rw [if_neg hother]
      rw [if_pos hkey, if_pos hkey, List.map_congr_left hsame, List.map_id']
    · have hmem : key ∈ keys entries := (List.mem_cons.mp h).resolve_left (Ne.symm hkey)
      rw [if_neg hkey, if_neg hkey, ih hrest hmem]

end put

/-! ### Any number of writings -/

/-- What pairs become: each key once, in the order in which the keys first occur, and with the value
of its last pair. -/
structure Merges (pairs entries : List (String × α)) : Prop where
  distinct : (keys entries).Nodup
  order : keys entries = (keys pairs).eraseDups
  last : ∀ key, entries.lookup key = pairs.reverse.lookup key

theorem eraseDups_concat (names : List String) (name : String) :
    (names ++ [name]).eraseDups =
      if name ∈ names then names.eraseDups else names.eraseDups ++ [name] := by
  rw [List.eraseDups_append]
  by_cases h : name ∈ names
  · simp [List.removeAll, h]
  · simp [List.removeAll, h, List.eraseDups_cons]

theorem Merges.put {pairs entries : List (String × α)} (h : Merges pairs entries) (key : String)
    (value : α) : Merges (pairs ++ [(key, value)]) (put key value entries) := by
  have hmem : key ∈ keys pairs ↔ key ∈ keys entries := by
    rw [h.order, List.mem_eraseDups]
  refine ⟨?_, ?_, ?_⟩
  · rw [keys_put]
    split
    · exact h.distinct
    · next hkey =>
      refine List.nodup_append.mpr ⟨h.distinct, by simp, ?_⟩
      intro name hname other hother
      rintro rfl
      exact hkey (List.mem_singleton.mp hother ▸ hname)
  · rw [keys_put, keys_append, keys_cons, keys_nil, eraseDups_concat, ← h.order]
    simp only [hmem]
  · intro k
    rw [lookup_put, h.last, List.reverse_concat, lookup_cons_eq_ite]

theorem Merges.putAll {pairs entries : List (String × α)} (h : Merges pairs entries)
    (more : List (String × α)) : Merges (pairs ++ more) (putAll entries more) := by
  induction more generalizing pairs entries with
  | nil => simpa using h
  | cons pair more ih => simpa using ih (h.put pair.1 pair.2)

theorem merges_ofPairs (pairs : List (String × α)) : Merges pairs (ofPairs pairs) := by
  have hnil : Merges ([] : List (String × α)) [] := ⟨List.nodup_nil, rfl, fun _ => rfl⟩
  exact hnil.putAll pairs

theorem Merges.eq_nil_iff {pairs entries : List (String × α)} (h : Merges pairs entries) :
    entries = [] ↔ pairs = [] := by
  have hkeys := h.order
  constructor
  · rintro rfl
    cases pairs with
    | nil => rfl
    | cons pair pairs => simp [List.eraseDups_cons] at hkeys
  · rintro rfl
    exact List.map_eq_nil_iff.mp hkeys

/-- Pairs of distinct keys stay as they are. -/
theorem putAll_of_nodup {entries pairs : List (String × α)} (h : (keys (entries ++ pairs)).Nodup) :
    putAll entries pairs = entries ++ pairs := by
  induction pairs generalizing entries with
  | nil => simp
  | cons pair pairs ih =>
    have hnew : pair.1 ∉ keys entries := by
      intro hmem
      rw [keys_append, List.nodup_append] at h
      exact h.2.2 pair.1 hmem pair.1 List.mem_cons_self rfl
    have hput := put_append_of_not_mem pair.1 pair.2 hnew []
    rw [List.append_nil, put_nil] at hput
    rw [putAll_cons, hput, ih (by simpa using h), List.append_assoc, List.singleton_append]

theorem ofPairs_of_nodup {pairs : List (String × α)} (h : (keys pairs).Nodup) :
    ofPairs pairs = pairs := putAll_of_nodup h

/-! ### Entries laid over entries -/

/-- The entries with the values that `cover` has for them. -/
def revalue (cover entries : List (String × α)) : List (String × α) :=
  entries.map fun entry => (entry.1, (cover.lookup entry.1).getD entry.2)

/-- The entries of `base` with the values that `cover` has for them, and behind them what only `cover`
has. -/
def overlay (base cover : List (String × α)) : List (String × α) :=
  revalue cover base ++ cover.filter fun entry => entry.1 ∉ keys base

@[simp] theorem keys_revalue (cover entries : List (String × α)) :
    keys (revalue cover entries) = keys entries := by
  simp [revalue, keys, Function.comp_def]

theorem revalue_put_of_mem {entries : List (String × α)} {key : String}
    (hdistinct : (keys entries).Nodup) (h : key ∈ keys entries) (value : α)
    (cover : List (String × α)) :
    revalue (put key value cover) entries = put key value (revalue cover entries) := by
  have hcovered : (keys (revalue cover entries)).Nodup := by simpa using hdistinct
  have hmem : key ∈ keys (revalue cover entries) := by simpa using h
  rw [put_eq_map key value hcovered hmem, revalue, revalue, List.map_map]
  apply List.map_congr_left
  intro entry _
  by_cases hkey : entry.1 = key
  · simp [lookup_put, hkey]
  · simp [lookup_put, hkey]

theorem revalue_put_of_not_mem {entries : List (String × α)} {key : String} (h : key ∉ keys entries)
    (value : α) (cover : List (String × α)) :
    revalue (put key value cover) entries = revalue cover entries := by
  apply List.map_congr_left
  intro entry hentry
  have hkey : entry.1 ≠ key := fun he => h (he ▸ mem_keys_of_mem hentry)
  rw [lookup_put, if_neg hkey]

theorem filter_put (p : String → Bool) (key : String) (value : α) (entries : List (String × α)) :
    (put key value entries).filter (fun entry => p entry.1) =
      if p key then put key value (entries.filter fun entry => p entry.1)
      else entries.filter fun entry => p entry.1 := by
  fun_induction put key value entries with
  | case1 => cases hp : p key <;> simp [hp]
  | case2 v rest => cases hp : p key <;> simp [hp, put]
  | case3 k v rest hk ih =>
    cases hp : p k with
    | false => simp [hp, ih]
    | true =>
      have hcons : ∀ entries : List (String × α), ((k, v) :: entries).filter (fun e => p e.1) =
          (k, v) :: entries.filter (fun e => p e.1) := fun _ => List.filter_cons_of_pos hp
      rw [hcons, ih, hcons, put, if_neg hk]
      split
      · rfl
      · rfl

theorem overlay_nil (base : List (String × α)) : overlay base [] = base := by
  simp [overlay, revalue]

/-- A writing to the entries that lie above is a writing to the whole. -/
theorem overlay_put {base : List (String × α)} (hbase : (keys base).Nodup) (key : String) (value : α)
    (cover : List (String × α)) :
    overlay base (put key value cover) = put key value (overlay base cover) := by
  rw [overlay, overlay, filter_put (fun name => name ∉ keys base)]
  by_cases hkey : key ∈ keys base
  · rw [revalue_put_of_mem hbase hkey, put_append_of_mem key value (by simpa using hkey),
      if_neg (by simpa using hkey)]
  · rw [revalue_put_of_not_mem hkey, put_append_of_not_mem key value (by simpa using hkey),
      if_pos (by simpa using hkey)]

theorem overlay_putAll {base : List (String × α)} (hbase : (keys base).Nodup)
    (cover pairs : List (String × α)) :
    overlay base (putAll cover pairs) = putAll (overlay base cover) pairs := by
  induction pairs generalizing cover with
  | nil => rfl
  | cons pair pairs ih => rw [putAll_cons, ih, overlay_put hbase, putAll_cons]

theorem ofPairs_append (pairs more : List (String × α)) :
    ofPairs (pairs ++ more) = overlay (ofPairs pairs) (ofPairs more) := by
  have hdistinct := (merges_ofPairs pairs).distinct
  calc ofPairs (pairs ++ more)
    _ = putAll (ofPairs pairs) more := putAll_append [] pairs more
    _ = putAll (overlay (ofPairs pairs) []) more := by rw [overlay_nil]
    _ = overlay (ofPairs pairs) (ofPairs more) := (overlay_putAll hdistinct [] more).symm

end MarkupChain.Keyed
