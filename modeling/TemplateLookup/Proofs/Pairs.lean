/-
# TemplateLookup.Proofs.Pairs -- what tables hold

What is fetched from a table is in it (`mem_of_fetch`), and where no key comes twice the
table holds nothing else (`fetch_eq_some_iff`). Storing keeps the keys distinct
(`nodup_keys_store`), and taking keys out leaves the values of the others alone
(`fetch_filter`). Of pairs that are stored one after another the last one with a key counts
(`fetch_storeAll`).
-/

import TemplateLookup.Pairs

namespace TemplateLookup.Pairs

variable {α β : Type} [DecidableEq α]

theorem fetch_append (key : α) (xs ys : List (α × β)) :
    fetch key (xs ++ ys) = (fetch key xs).or (fetch key ys) := by
  induction xs with
  | nil => rfl
  | cons pair rest ih =>
    obtain ⟨k, v⟩ := pair
    rw [List.cons_append, fetch, fetch]
    by_cases hk : k = key
    · rw [if_pos hk, if_pos hk, Option.some_or]
    · rw [if_neg hk, if_neg hk, ih]

theorem mem_of_fetch {key : α} {value : β} {table : List (α × β)}
    (h : fetch key table = some value) : (key, value) ∈ table := by
  induction table with
  | nil => cases h
  | cons pair rest ih =>
    obtain ⟨k, v⟩ := pair
    rw [fetch] at h
    by_cases hk : k = key
    · rw [if_pos hk] at h
      cases h
      subst hk
      exact List.mem_cons_self
    · rw [if_neg hk] at h
      exact List.mem_cons_of_mem _ (ih h)

theorem fetch_eq_none {key : α} {table : List (α × β)} (h : ∀ value, (key, value) ∉ table) :
    fetch key table = none := by
  cases hfetch : fetch key table with
  | none => rfl
  | some value => exact absurd (mem_of_fetch hfetch) (h value)

/-! ## Distinct keys -/

theorem fetch_eq_some_iff {table : List (α × β)} (h : (keys table).Nodup) {key : α} {value : β} :
    fetch key table = some value ↔ (key, value) ∈ table := by
  constructor
  · exact mem_of_fetch
  · intro hmem
    induction table with
    | nil => exact absurd hmem List.not_mem_nil
    | cons pair rest ih =>
      obtain ⟨k, v⟩ := pair
      obtain ⟨hnew, hrest⟩ := List.nodup_cons.mp h
      rw [fetch]
      rcases List.mem_cons.mp hmem with heq | hmem
      · cases heq
        rw [if_pos rfl]
      · have hne : k ≠ key := by
          rintro rfl
          exact hnew (List.mem_map.mpr ⟨(k, value), hmem, rfl⟩)
        rw [if_neg hne, ih hrest hmem]

theorem nodup_keys_store {table : List (α × β)} (h : (keys table).Nodup) (key : α) (value : β) :
    (keys (store key value table)).Nodup := by
  rw [keys_store]
  split
  · exact h
  · rename_i hnew
    rw [List.nodup_append]
    refine ⟨h, by simp, ?_⟩
    intro a ha b hb hab
    rw [List.mem_singleton] at hb
    exact hnew (hb ▸ hab ▸ ha)

theorem mem_keys_of_fetch {table : List (α × β)} {key : α} {value : β}
    (h : fetch key table = some value) : key ∈ keys table :=
  List.mem_map.mpr ⟨(key, value), mem_of_fetch h, rfl⟩

theorem fetch_filter (keep : α → Bool) (table : List (α × β)) (key : α) :
    fetch key (table.filter fun pair => keep pair.1) =
      if keep key then fetch key table else none := by
  induction table with
  | nil => simp
  | cons pair rest ih =>
    obtain ⟨k, v⟩ := pair
    by_cases hkey : k = key
    · subst hkey
      by_cases hkeep : keep k = true
      · simp [hkeep, fetch]
      · simp [hkeep, ih]
    · by_cases hkeep : keep k = true
      · simp [hkeep, fetch, hkey, ih]
      · simp [hkeep, fetch, hkey, ih]

theorem fetch_eq_some_iff_append {table : List (α × β)} {key : α} {value : β} :
    fetch key table = some value ↔
      ∃ before after, table = before ++ (key, value) :: after ∧ key ∉ keys before := by
  constructor
  · intro h
    induction table with
    | nil => cases h
    | cons pair rest ih =>
      obtain ⟨k, v⟩ := pair
      rw [fetch] at h
      by_cases hk : k = key
      · rw [if_pos hk] at h
        cases h
        subst hk
        exact ⟨[], rest, rfl, List.not_mem_nil⟩
      · rw [if_neg hk] at h
        obtain ⟨before, after, rfl, hnew⟩ := ih h
        refine ⟨(k, v) :: before, after, rfl, ?_⟩
        exact List.not_mem_cons_of_ne_of_not_mem (Ne.symm hk) hnew
  · rintro ⟨before, after, rfl, hnew⟩
    have hbefore : fetch key before = none :=
      fetch_eq_none fun v hmem => hnew (List.mem_map.mpr ⟨(key, v), hmem, rfl⟩)
    rw [fetch_append, hbefore, Option.none_or, fetch, if_pos rfl]

theorem fetch_reverse_eq_some_iff {pairs : List (α × β)} {key : α} {value : β} :
    fetch key pairs.reverse = some value ↔
      ∃ before after, pairs = before ++ (key, value) :: after ∧ key ∉ keys after := by
  have hkeys (table : List (α × β)) : key ∈ keys table.reverse ↔ key ∈ keys table := by
    rw [keys, List.map_reverse, List.mem_reverse, keys]
  rw [fetch_eq_some_iff_append]
  constructor
  · rintro ⟨before, after, hsplit, hnew⟩
    refine ⟨after.reverse, before.reverse, ?_, (not_congr (hkeys before)).mpr hnew⟩
    rw [← List.reverse_reverse pairs, hsplit, List.reverse_append, List.reverse_cons,
      List.append_assoc, List.singleton_append]
  · rintro ⟨before, after, rfl, hnew⟩
    refine ⟨after.reverse, before.reverse, ?_, (not_congr (hkeys after)).mpr hnew⟩
    rw [List.reverse_append, List.reverse_cons, List.append_assoc, List.singleton_append]

/-! ## Storing pairs one after another -/

/-- The table with some pairs stored, one after another. -/
def storeAll (pairs table : List (α × β)) : List (α × β) :=
  pairs.foldl (fun table pair => store pair.1 pair.2 table) table

theorem storeAll_cons (key : α) (value : β) (pairs table : List (α × β)) :
    storeAll ((key, value) :: pairs) table = storeAll pairs (store key value table) := rfl

theorem fetch_store (key other : α) (value : β) (table : List (α × β)) :
    fetch other (store key value table) = (fetch other [(key, value)]).or (fetch other table) := by
  by_cases hkey : key = other
  · subst hkey
    rw [fetch_store_self, fetch, if_pos rfl, Option.some_or]
  · rw [fetch_store_of_ne value table (Ne.symm hkey), fetch, if_neg hkey, fetch_nil,
      Option.none_or]

/-- The last pair with a key counts, and without one the table itself. -/
theorem fetch_storeAll (key : α) (pairs table : List (α × β)) :
    fetch key (storeAll pairs table) = (fetch key pairs.reverse).or (fetch key table) := by
  induction pairs generalizing table with
  | nil => rfl
  | cons pair rest ih =>
    obtain ⟨k, v⟩ := pair
    rw [storeAll_cons, ih, fetch_store, List.reverse_cons, fetch_append, Option.or_assoc]

theorem mem_keys_storeAll {key : α} {pairs table : List (α × β)} :
    key ∈ keys (storeAll pairs table) ↔ key ∈ keys pairs ∨ key ∈ keys table := by
  induction pairs generalizing table with
  | nil => simp [storeAll, keys]
  | cons pair rest ih =>
    obtain ⟨k, v⟩ := pair
    have hstored : key ∈ keys (store k v table) ↔ key = k ∨ key ∈ keys table := by
      rw [keys_store]
      split
      · rename_i hold
        exact ⟨.inr, fun h => h.elim (fun heq => heq ▸ hold) id⟩
      · rw [List.mem_append, List.mem_singleton, or_comm]
    have hpairs : key ∈ keys ((k, v) :: rest) ↔ key = k ∨ key ∈ keys rest := List.mem_cons
    rw [storeAll_cons, ih, hstored, hpairs, or_left_comm, or_assoc]

theorem nodup_keys_storeAll (pairs : List (α × β)) {table : List (α × β)}
    (h : (keys table).Nodup) : (keys (storeAll pairs table)).Nodup := by
  induction pairs generalizing table with
  | nil => exact h
  | cons pair rest ih =>
    obtain ⟨k, v⟩ := pair
    rw [storeAll_cons]
    exact ih (nodup_keys_store h k v)

end TemplateLookup.Pairs
