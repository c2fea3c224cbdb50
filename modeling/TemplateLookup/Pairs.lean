/-
# TemplateLookup.Pairs -- tables as lists of pairs

A table is a list of keys with their values in the order in which the keys
first arrived. Storing under a key that is there replaces its value in place;
a new key goes to the end. `keys_store` says so of the keys, `fetch_store_self`
and `fetch_store_of_ne` of the values.
-/

namespace TemplateLookup.Pairs

variable {α β : Type} [DecidableEq α]

/-- The table with the value of a key replaced, or added at the end. -/
def store (key : α) (value : β) : List (α × β) → List (α × β)
  | [] => [(key, value)]
  | (k, v) :: rest => if k = key then (key, value) :: rest else (k, v) :: store key value rest

/-- The value of a key. -/
def fetch (key : α) : List (α × β) → Option β
  | [] => none
  | (k, v) :: rest => if k = key then some v else fetch key rest

/-- The keys, in order of arrival. -/
def keys (table : List (α × β)) : List α := table.map (·.1)

@[simp] theorem fetch_nil (key : α) : fetch key ([] : List (α × β)) = none := rfl

theorem fetch_store_self (key : α) (value : β) (table : List (α × β)) :
    fetch key (store key value table) = some value := by
  induction table with
  | nil => simp [store, fetch]
  | cons pair rest ih =>
    obtain ⟨k, v⟩ := pair
    by_cases h : k = key <;> simp [store, fetch, h, ih]

theorem fetch_store_of_ne {key other : α} (value : β) (table : List (α × β))
    (h : other ≠ key) : fetch other (store key value table) = fetch other table := by
  induction table with
  | nil => simp [store, fetch, Ne.symm h]
  | cons pair rest ih =>
    obtain ⟨k, v⟩ := pair
    by_cases hk : k = key
    · -- the entry that is replaced is not the one asked for
      subst hk
      simp [store, fetch, Ne.symm h]
    · by_cases ho : k = other
      · subst ho
        simp [store, fetch, h]
      · simp [store, fetch, hk, ho, ih]

theorem keys_store (key : α) (value : β) (table : List (α × β)) :
    keys (store key value table) =
      if key ∈ keys table then keys table else keys table ++ [key] := by
  induction table with
  | nil => simp [store, keys]
  | cons pair rest ih =>
    obtain ⟨k, v⟩ := pair
    by_cases hk : k = key
    · subst hk
      simp [store, keys]
    · have hne : key ≠ k := fun h => hk h.symm
      simp only [keys] at ih
      by_cases hm : key ∈ rest.map (·.1) <;> simp_all [store, keys]

end TemplateLookup.Pairs
