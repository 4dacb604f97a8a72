/-
Tables: values under distinct keys, in the order in which the keys were first put.

Putting a value under a key that is already there replaces the value and leaves the key in its
place (`Table.keys_put`).
-/
import SwatchIndex.Text.Basic

namespace SwatchIndex

/-- Values under distinct keys, in the order in which the keys were first put. -/
structure Table (α : Type) where
  entries : List (Text × α)
  distinct : (entries.map Prod.fst).Nodup
deriving DecidableEq, Repr

namespace Table

variable {κ α : Type}

/-- The table without entries. -/
def empty : Table α := ⟨[], List.nodup_nil⟩

/-- The keys in order. -/
def keys (t : Table α) : List Text := t.entries.map Prod.fst

/-- The values in order. -/
def values (t : Table α) : List α := t.entries.map Prod.snd

/-- The number of keys. -/
def size (t : Table α) : Nat := t.entries.length

/-- The value under a key. -/
def get? (t : Table α) (key : Text) : Option α := t.entries.lookup key

/-- Whether a key is there. -/
def contains (t : Table α) (key : Text) : Bool := (t.get? key).isSome

/-- The entries with `a` under `key`. -/
def putEntry [DecidableEq κ] (key : κ) (a : α) : List (κ × α) → List (κ × α)
  | [] => [(key, a)]
  | (k, b) :: rest => if k = key then (k, a) :: rest else (k, b) :: putEntry key a rest

/-- The keys after an entry is put: as they were if the key is there, else with the key at the
end. -/
theorem keys_putEntry [DecidableEq κ] (key : κ) (a : α) (entries : List (κ × α)) :
    (putEntry key a entries).map Prod.fst =
      if key ∈ entries.map Prod.fst then entries.map Prod.fst
      else entries.map Prod.fst ++ [key] := by
  induction entries with
  | nil => simp [putEntry]
  | cons e rest ih =>
      obtain ⟨k, b⟩ := e
      by_cases hk : k = key
      · simp [putEntry, hk]
      · have hk' : ¬ key = k := fun h => hk h.symm
        simp only [putEntry, hk, if_false, List.map_cons, ih, List.mem_cons, hk', false_or]
        split <;> simp

/-- The table with `a` under `key`. -/
def put (t : Table α) (key : Text) (a : α) : Table α where
  entries := putEntry key a t.entries
  distinct := by
    rw [keys_putEntry]
    split
    · exact t.distinct
    · rename_i fresh
      rw [List.nodup_append]
      refine ⟨t.distinct, by simp, ?_⟩
      intro k hk k' hk' same
      rw [List.mem_singleton] at hk'
      exact fresh (hk' ▸ same ▸ hk)

/-- Putting under a key that is there leaves the keys as they are; a new key comes last. -/
theorem keys_put (t : Table α) (key : Text) (a : α) :
    (t.put key a).keys = if key ∈ t.keys then t.keys else t.keys ++ [key] := by
  show (putEntry key a t.entries).map Prod.fst = _
  rw [keys_putEntry]
  by_cases here : key ∈ t.keys
  · rw [if_pos here]
    exact if_pos here
  · rw [if_neg here]
    exact if_neg here

/-- The table of a list of entries, put one after the other. -/
def ofEntries (entries : List (Text × α)) : Table α :=
  entries.foldl (fun t (key, a) => t.put key a) empty

end Table

end SwatchIndex
