/-
Merging loses nothing.

A merge follows three rules at once: a name stands where it was first seen, its definition is the
last one, and every definition that gave way is logged.  Each is said here about the list of all
definitions, whatever units they came in.  The names are those of the list without repetitions
(`keys_merged`).  The definition of a name is the last one of that name (`get?_merged`).  And the
log is `redefinitions`: one collision for each definition that has a namesake before it, with the
last such namesake.

All three are inductions on the list from its end, because a merge adds at the end.  From them it
follows that the definitions of one name, in order, are those that gave way and then the one that
stands (`replaced_redefinitions`), so that what is stored and what is logged are together a
rearrangement of what came in (`perm_merged`).
-/
import SwatchIndex.Registry
import SwatchIndex.Proofs.Tables
import Mathlib.Data.List.Induction

namespace SwatchIndex

open scoped List

/-! ### What was there before -/

/-- The definitions of a name, in order. -/
def named (name : Text) (ds : List Definition) : List Definition :=
  ds.filter fun d => d.name = name

/-- The collisions of a list of definitions: each definition that has a namesake before it takes the
place of the last such namesake. -/
def redefinitions (ds : List Definition) : List Collision :=
  ds.zipIdx.filterMap fun (d, i) =>
    (named d.name (ds.take i)).getLast?.map fun previous => ⟨d.name, previous, d⟩

theorem named_concat (name : Text) (ds : List Definition) (d : Definition) :
    named name (ds ++ [d]) = named name ds ++ if d.name = name then [d] else [] := by
  by_cases h : d.name = name <;> simp [named, h]

/-- One more definition adds at most one collision, at the end. -/
theorem redefinitions_concat (ds : List Definition) (d : Definition) :
    redefinitions (ds ++ [d]) =
      redefinitions ds ++
        ((named d.name ds).getLast?.map fun previous => ⟨d.name, previous, d⟩).toList := by
  have hold : ∀ e ∈ ds.zipIdx, (ds ++ [d]).take e.2 = ds.take e.2 := by
    intro e he
    have hlt : e.2 < ds.length := by
      have := List.mem_zipIdx he
      omega
    exact List.take_append_of_le_length (Nat.le_of_lt hlt)
  simp only [redefinitions, List.zipIdx_append, List.filterMap_append]
  congr 1
  · refine List.filterMap_congr fun e he => ?_
    rw [hold e he]
  · simp only [List.zipIdx_cons, List.zipIdx_nil, List.filterMap_cons, List.filterMap_nil,
      Nat.zero_add, List.take_left]
    cases (named d.name ds).getLast? <;> rfl

/-! ### The three rules of a merge -/

namespace Registry

/-- Everything merged, in one go. -/
def merged (ds : List Definition) : Merge := ds.foldl Merge.add .empty

theorem merged_concat (ds : List Definition) (d : Definition) :
    merged (ds ++ [d]) = (merged ds).add d := by
  simp [merged]

/-- Units do not matter to a merge, only what is in them. -/
theorem foldl_addUnit (units : List (List Definition)) (m : Merge) :
    units.foldl Merge.addUnit m = units.flatten.foldl Merge.add m := by
  induction units generalizing m with
  | nil => rfl
  | cons unit rest ih => rw [List.foldl_cons, ih, List.flatten_cons, List.foldl_append]; rfl

theorem build_eq (units : List (List Definition)) (version : Nat) :
    build units version =
      ⟨(merged units.flatten).table, (merged units.flatten).collisions, version⟩ := by
  simp only [build, foldl_addUnit]
  rfl

/-- A name stands where it was first seen. -/
theorem keys_merged (ds : List Definition) :
    (merged ds).table.keys = (ds.map (·.name)).eraseDups := by
  induction ds using List.reverseRecOn with
  | nil => rfl
  | append_singleton ds d ih =>
      have hadd : ((merged ds).add d).table = (merged ds).table.put d.name d := rfl
      rw [merged_concat, hadd, Table.keys_put, ih, List.map_append, List.eraseDups_append]
      by_cases hmem : d.name ∈ ds.map (·.name)
      · have hgone : [d.name].removeAll (ds.map (·.name)) = [] := by
          simpa [List.removeAll] using hmem
        rw [if_pos (List.mem_eraseDups.mpr hmem), List.map_singleton, hgone, List.eraseDups_nil,
          List.append_nil]
      · have hkept : [d.name].removeAll (ds.map (·.name)) = [d.name] := by
          simpa [List.removeAll] using hmem
        rw [if_neg fun h => hmem (List.mem_eraseDups.mp h), List.map_singleton, hkept]
        rfl

/-- The definition of a name is the last one. -/
theorem get?_merged (ds : List Definition) (name : Text) :
    (merged ds).table.get? name = (named name ds).getLast? := by
  induction ds using List.reverseRecOn with
  | nil => rfl
  | append_singleton ds d ih =>
      have hadd : ((merged ds).add d).table = (merged ds).table.put d.name d := rfl
      rw [merged_concat, hadd, Table.get?_put, ih, named_concat]
      by_cases hname : name = d.name
      · rw [if_pos hname, if_pos hname.symm]
        simp
      · rw [if_neg hname, if_neg fun h => hname h.symm, List.append_nil]

/-- Every definition that gave way is logged. -/
theorem collisions_merged (ds : List Definition) :
    (merged ds).collisions = redefinitions ds := by
  induction ds using List.reverseRecOn with
  | nil => rfl
  | append_singleton ds d ih =>
      rw [merged_concat, redefinitions_concat, ← ih, ← get?_merged]
      simp only [Merge.add]
      cases (merged ds).table.get? d.name <;> simp

end Registry

/-! ### The definitions of one name -/

/-- The collisions of a name, in order. -/
def collisionsOf (name : Text) (ks : List Collision) : List Collision :=
  ks.filter fun k => k.name = name

/-- One more definition collides with the last of its name, if there is one. -/
theorem collisionsOf_concat (name : Text) (ds : List Definition) (d : Definition) :
    collisionsOf name (redefinitions (ds ++ [d])) =
      collisionsOf name (redefinitions ds) ++
        if d.name = name then
          ((named name ds).getLast?.map fun previous => ⟨name, previous, d⟩).toList
        else [] := by
  rw [redefinitions_concat, collisionsOf, List.filter_append]
  congr 1
  by_cases hname : d.name = name
  · subst hname
    rw [if_pos rfl]
    cases (named d.name ds).getLast? <;> simp
  · rw [if_neg hname]
    cases (named d.name ds).getLast? <;> simp [hname]

/-- **The definitions that gave way, followed by the one that stands, are all of the name.** -/
theorem replaced_redefinitions (name : Text) (ds : List Definition) :
    (collisionsOf name (redefinitions ds)).map (·.replaced) ++ (named name ds).getLast?.toList =
      named name ds := by
  induction ds using List.reverseRecOn with
  | nil => rfl
  | append_singleton ds d ih =>
      rw [collisionsOf_concat, named_concat]
      by_cases hname : d.name = name
      · rw [if_pos hname, if_pos hname, List.getLast?_concat]
        cases hlast : (named name ds).getLast? with
        | none =>
            rw [hlast] at ih
            simpa using ih
        | some previous =>
            rw [hlast] at ih
            rw [← ih]
            simp
      · rw [if_neg hname, if_neg hname, List.append_nil, List.append_nil]
        exact ih

/-- **Each collision's definition is followed by the one that took its place.** -/
theorem replacement_redefinitions (name : Text) (ds : List Definition) :
    (collisionsOf name (redefinitions ds)).map (·.replacement) = (named name ds).tail := by
  induction ds using List.reverseRecOn with
  | nil => rfl
  | append_singleton ds d ih =>
      rw [collisionsOf_concat, named_concat, List.map_append, ih]
      by_cases hname : d.name = name
      · rw [if_pos hname, if_pos hname]
        cases hnamed : named name ds with
        | nil => rfl
        | cons first rest => simp [List.getLast?_cons]
      · rw [if_neg hname, if_neg hname]
        simp

namespace Registry

/-- **What is stored and what is logged are a rearrangement of what came in.** -/
theorem perm_merged (ds : List Definition) :
    ds ~ (merged ds).table.values ++ (merged ds).collisions.map (·.replaced) := by
  induction ds using List.reverseRecOn with
  | nil => rfl
  | append_singleton ds d ih =>
      rw [merged_concat]
      simp only [Merge.add]
      cases hget : (merged ds).table.get? d.name with
      | none =>
          rw [Table.values_put_of_fresh d (Table.get?_eq_none_iff.mp hget)]
          calc ds ++ [d]
              ~ d :: ds := List.perm_append_singleton d ds
            _ ~ d :: ((merged ds).table.values ++ (merged ds).collisions.map (·.replaced)) :=
              ih.cons d
            _ ~ (merged ds).table.values ++ d :: (merged ds).collisions.map (·.replaced) :=
              List.perm_middle.symm
            _ = (merged ds).table.values ++ [d] ++ (merged ds).collisions.map (·.replaced) := by
              simp
      | some previous =>
          rw [List.map_append, List.map_singleton]
          calc ds ++ [d]
              ~ d :: ds := List.perm_append_singleton d ds
            _ ~ d :: (merged ds).table.values ++ (merged ds).collisions.map (·.replaced) :=
              ih.cons d
            _ ~ previous :: ((merged ds).table.put d.name d).values ++
                (merged ds).collisions.map (·.replaced) :=
              (Table.perm_values_put hget).symm.append_right _
            _ ~ ((merged ds).table.put d.name d).values ++
                previous :: (merged ds).collisions.map (·.replaced) := List.perm_middle.symm
            _ ~ ((merged ds).table.put d.name d).values ++
                ((merged ds).collisions.map (·.replaced) ++ [previous]) :=
              (List.perm_append_singleton previous _).symm.append_left _

/-- Every registry that is built has its definitions under their own names. -/
theorem name_eq_of_mem_build {units : List (List Definition)} {version : Nat}
    {e : Text × Definition} (h : e ∈ (build units version).table.entries) : e.1 = e.2.name := by
  rw [build_eq] at h
  have hget : (merged units.flatten).table.get? e.1 = some e.2 := Table.get?_eq_some_iff.mpr h
  rw [get?_merged] at hget
  have hmem := List.mem_of_getLast? hget
  simp only [named, List.mem_filter, decide_eq_true_eq] at hmem
  exact hmem.2.symm

/--
**A registry keeps everything that came in.**  Only the definitions count, in order, and not the
units they came in.  Names are in the order of their first definition, the last definition of a name
stands whole, and each one before it gave way to the next in a collision.  Collisions are in the
order of the definitions that caused them.
-/
theorem build_keeps_all (units : List (List Definition)) (version : Nat) :
    build units version = build [units.flatten] version ∧
      (build units version).names = (units.flatten.map (·.name)).eraseDups ∧
      (∀ name, (build units version).get? name = (named name units.flatten).getLast?) ∧
      (build units version).collisions = redefinitions units.flatten ∧
      (∀ name,
        (collisionsOf name (build units version).collisions).map (·.replaced) ++
            ((build units version).get? name).toList = named name units.flatten ∧
          (collisionsOf name (build units version).collisions).map (·.replacement) =
            (named name units.flatten).tail) ∧
      units.flatten.length =
        (build units version).size + (build units version).collisions.length ∧
      units.flatten ~
        (build units version).definitions ++
          (build units version).collisions.map (·.replaced) := by
  have hget : ∀ name, (build units version).get? name = (named name units.flatten).getLast? := by
    intro name
    rw [build_eq]
    exact get?_merged units.flatten name
  have hcollisions : (build units version).collisions = redefinitions units.flatten := by
    rw [build_eq]
    exact collisions_merged units.flatten
  have hperm : units.flatten ~ (build units version).definitions ++
      (build units version).collisions.map (·.replaced) := by
    rw [build_eq]
    exact perm_merged units.flatten
  refine ⟨?_, ?_, hget, hcollisions, ?_, ?_, hperm⟩
  · rw [build_eq, build_eq, List.flatten_singleton]
  · rw [build_eq]
    exact keys_merged units.flatten
  · intro name
    rw [hcollisions, hget]
    exact ⟨replaced_redefinitions name units.flatten, replacement_redefinitions name units.flatten⟩
  · have hlength := hperm.length_eq
    simpa [definitions, size, Table.values, Table.size] using hlength

end Registry

end SwatchIndex
