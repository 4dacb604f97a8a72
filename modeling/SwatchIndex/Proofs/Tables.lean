/-
What a table gives back.

The keys of a table are distinct, so looking up a key is the same as finding its entry
(`get?_eq_some_iff`), and what was put last under a key is what is there (`get?_put`).  A key that
is put for the first time comes last; one that is there keeps its place, and the old value gives way
to the new one (`perm_values_put`).
-/
import SwatchIndex.Table
import Mathlib.Data.List.Perm.Basic

namespace SwatchIndex.Table

open scoped List

variable {α : Type}

theorem eq_of_entries {t u : Table α} (h : t.entries = u.entries) : t = u := by
  cases t
  cases u
  cases h
  rfl

/-! ### Looking up -/

theorem get?_eq_none_iff {t : Table α} {name : Text} : t.get? name = none ↔ name ∉ t.keys := by
  simp only [get?, keys, List.lookup_eq_none_iff, List.mem_map, not_exists, not_and]
  constructor
  · intro h e he hname
    simpa [hname] using h e he
  · intro h e he
    simpa using fun hname : name = e.1 => h e he hname.symm

/-- Where each key occurs once, a key gives the value of its entry. -/
theorem lookup_eq_some_iff {κ : Type} [BEq κ] [LawfulBEq κ] {entries : List (κ × α)}
    (hdistinct : (entries.map Prod.fst).Nodup) {key : κ} {a : α} :
    entries.lookup key = some a ↔ (key, a) ∈ entries := by
  constructor
  · intro h
    obtain ⟨l₁, l₂, hl, -⟩ := List.lookup_eq_some_iff.mp h
    rw [hl]
    simp
  · intro h
    obtain ⟨l₁, l₂, rfl⟩ := List.append_of_mem h
    refine List.lookup_eq_some_iff.mpr ⟨l₁, l₂, rfl, ?_⟩
    intro e he
    rw [List.map_append, List.nodup_append] at hdistinct
    simpa using fun hkey : key = e.1 =>
      hdistinct.2.2 e.1 (List.mem_map_of_mem he) key (by simp) hkey.symm

theorem get?_eq_some_iff {t : Table α} {name : Text} {a : α} :
    t.get? name = some a ↔ (name, a) ∈ t.entries :=
  lookup_eq_some_iff t.distinct

/-- The order of the entries does not matter to what a key gives. -/
theorem get?_eq_of_perm {t u : Table α} (h : t.entries ~ u.entries) (name : Text) :
    t.get? name = u.get? name := by
  apply Option.ext
  intro a
  rw [get?_eq_some_iff, get?_eq_some_iff, h.mem_iff]

theorem lookup_cons_eq {κ : Type} [BEq κ] [LawfulBEq κ] [DecidableEq κ] (key k : κ) (a : α)
    (rest : List (κ × α)) :
    ((k, a) :: rest).lookup key = if key = k then some a else rest.lookup key := by
  rw [List.lookup_cons]
  by_cases hkey : key = k
  · simp [hkey]
  · have hne : (key == k) = false := by simpa using hkey
    rw [if_neg hkey, hne]

theorem lookup_putEntry (key : Text) (a : α) (name : Text) (entries : List (Text × α)) :
    (putEntry key a entries).lookup name = if name = key then some a else entries.lookup name := by
  induction entries with
  | nil => exact lookup_cons_eq name key a []
  | cons e rest ih =>
      obtain ⟨k, b⟩ := e
      by_cases hk : k = key
      · subst hk
        rw [putEntry, if_pos rfl, lookup_cons_eq, lookup_cons_eq]
        split <;> rfl
      · rw [putEntry, if_neg hk, lookup_cons_eq, lookup_cons_eq, ih]
        by_cases hname : name = k
        · rw [if_pos hname, if_pos hname, if_neg (hname ▸ hk)]
        · rw [if_neg hname, if_neg hname]

/-- What was put last under a key is what is there. -/
theorem get?_put (t : Table α) (key : Text) (a : α) (name : Text) :
    (t.put key a).get? name = if name = key then some a else t.get? name :=
  lookup_putEntry key a name t.entries

/-- Where every value is changed by a rule that goes by its key, so is what a key gives. -/
theorem lookup_map_snd {κ β : Type} [BEq κ] [LawfulBEq κ] [DecidableEq κ] (f : κ → α → β) (key : κ)
    (entries : List (κ × α)) :
    (entries.map fun e => (e.1, f e.1 e.2)).lookup key = (entries.lookup key).map (f key) := by
  induction entries with
  | nil => rfl
  | cons e rest ih =>
      rw [List.map_cons, lookup_cons_eq, lookup_cons_eq, ih]
      split
      · next hkey =>
          rw [hkey]
          rfl
      · rfl

/-! ### Where an entry goes -/

theorem putEntry_of_fresh {key : Text} {entries : List (Text × α)} (a : α)
    (h : key ∉ entries.map Prod.fst) : putEntry key a entries = entries ++ [(key, a)] := by
  induction entries with
  | nil => rfl
  | cons e rest ih =>
      obtain ⟨k, b⟩ := e
      simp only [List.map_cons, List.mem_cons, not_or] at h
      have hk : ¬ k = key := fun hk => h.1 hk.symm
      rw [putEntry, if_neg hk, ih h.2, List.cons_append]

/-- A new key comes last. -/
theorem entries_put_of_fresh {t : Table α} {key : Text} (a : α) (h : key ∉ t.keys) :
    (t.put key a).entries = t.entries ++ [(key, a)] :=
  putEntry_of_fresh a h

theorem values_put_of_fresh {t : Table α} {key : Text} (a : α) (h : key ∉ t.keys) :
    (t.put key a).values = t.values ++ [a] := by
  simp [values, entries_put_of_fresh a h]

theorem perm_putEntry {key : Text} {a b : α} {entries : List (Text × α)}
    (h : entries.lookup key = some b) :
    b :: (putEntry key a entries).map Prod.snd ~ a :: entries.map Prod.snd := by
  induction entries with
  | nil => simp at h
  | cons e rest ih =>
      obtain ⟨k, x⟩ := e
      by_cases hk : k = key
      · subst hk
        obtain rfl : x = b := by simpa using h
        rw [putEntry, if_pos rfl]
        exact List.Perm.swap ..
      · rw [lookup_cons_eq, if_neg fun hkey => hk hkey.symm] at h
        rw [putEntry, if_neg hk, List.map_cons, List.map_cons]
        calc b :: x :: (putEntry key a rest).map Prod.snd
            ~ x :: b :: (putEntry key a rest).map Prod.snd := List.Perm.swap ..
          _ ~ x :: a :: rest.map Prod.snd := (ih h).cons x
          _ ~ a :: x :: rest.map Prod.snd := List.Perm.swap ..

/-- Under a key that is there, the old value gives way to the new one. -/
theorem perm_values_put {t : Table α} {key : Text} {a b : α} (h : t.get? key = some b) :
    b :: (t.put key a).values ~ a :: t.values :=
  perm_putEntry h

/-! ### Tables of many entries -/

theorem entries_foldl_put (entries : List (Text × α)) :
    ∀ t : Table α, ((t.entries ++ entries).map Prod.fst).Nodup →
      (entries.foldl (fun t (key, a) => t.put key a) t).entries = t.entries ++ entries := by
  induction entries with
  | nil => intro t _; simp
  | cons e rest ih =>
      intro t hnodup
      have hfresh : e.1 ∉ t.keys := by
        intro hmem
        rw [List.map_append, List.nodup_append] at hnodup
        exact hnodup.2.2 e.1 hmem e.1 (by simp) rfl
      have hput : (t.put e.1 e.2).entries = t.entries ++ [e] := entries_put_of_fresh e.2 hfresh
      rw [List.foldl_cons, ih (t.put e.1 e.2) (by rw [hput]; simpa using hnodup), hput,
        List.append_assoc, List.singleton_append]

/-- The entries of a table are put as they stand, if their keys are distinct. -/
theorem entries_ofEntries {entries : List (Text × α)} (h : (entries.map Prod.fst).Nodup) :
    (ofEntries entries).entries = entries :=
  entries_foldl_put entries empty h

end SwatchIndex.Table
