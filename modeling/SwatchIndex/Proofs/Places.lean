/-
Places with their double dots cancelled, and what a change to a tree does to its files.

To cancel the double dots again does nothing (`resolved_resolved`), and a walk cancels them on its
way: if it arrives, then at the resolved place (`eq_of_walk`).  So a resolved place leads to what
the tree lists there, and whoever asks about files need not walk (`node?_of_find?`).

No change makes a file up.  One that is listed after a change was listed before, with the same
content and the same stamp, unless it is the file that was written (`file_of_write`,
`file_of_remove`).
-/
import SwatchIndex.Files.Tree
import SwatchIndex.Proofs.Outcomes
import SwatchIndex.Proofs.Tables
import Mathlib.Data.List.Induction

namespace SwatchIndex

namespace Place

/-! ### Cancelling double dots -/

theorem resolved_concat (volume part : Text) (parts : List Text) :
    (Place.mk volume (parts ++ [part])).resolved = (Place.mk volume parts).resolved.step part := by
  simp only [resolved, List.foldl_append, List.foldl_cons, List.foldl_nil]

theorem step_volume (p : Place) (part : Text) : (p.step part).volume = p.volume := by
  unfold step
  split
  · unfold up
    cases p.parts.getLast? with
    | none =>
        show (if p.volume.isEmpty then p else p.child upward).volume = p.volume
        split <;> rfl
    | some last =>
        show (if last = upward then p.child upward else ⟨p.volume, p.parts.dropLast⟩).volume =
          p.volume
        split <;> rfl
  · rfl

theorem resolved_volume (p : Place) : p.resolved.volume = p.volume := by
  obtain ⟨volume, parts⟩ := p
  induction parts using List.reverseRecOn with
  | nil => rfl
  | append_singleton parts part ih => rw [resolved_concat, step_volume, ih]

/-- One level up is still resolved: the last part goes, or a double dot comes that has nothing to
cancel. -/
theorem resolved_up {p : Place} (h : p.resolved = p) : p.up.resolved = p.up := by
  obtain ⟨volume, parts⟩ := p
  have hchild (hup : (Place.mk volume parts).up = (Place.mk volume parts).child upward) :
      (Place.mk volume parts).up.resolved = (Place.mk volume parts).up := by
    rw [hup, child, resolved_concat, h, step, if_pos rfl, hup, child]
  cases parts using List.reverseRecOn with
  | nil =>
      by_cases hvolume : volume.isEmpty
      · rw [up]
        simp only [List.getLast?_nil, hvolume, if_true]
        exact h
      · exact hchild (by simp [up, hvolume])
  | append_singleton init last =>
      by_cases hlast : last = upward
      · exact hchild (by simp [up, hlast])
      · have hup : (Place.mk volume (init ++ [last])).up = ⟨volume, init⟩ := by
          simp [up, hlast]
        have hstep : (Place.mk volume init).resolved.child last = ⟨volume, init ++ [last]⟩ := by
          rw [← h, resolved_concat, step, if_neg hlast]
        have hparts : (Place.mk volume init).resolved.parts = init :=
          (List.append_left_inj [last]).mp (congrArg Place.parts hstep)
        have hvolume : (Place.mk volume init).resolved.volume = volume :=
          resolved_volume ⟨volume, init⟩
        rw [hup]
        calc (Place.mk volume init).resolved
            = ⟨(Place.mk volume init).resolved.volume, (Place.mk volume init).resolved.parts⟩ := rfl
          _ = ⟨volume, init⟩ := by rw [hparts, hvolume]

theorem resolved_step {p : Place} (h : p.resolved = p) (part : Text) :
    (p.step part).resolved = p.step part := by
  unfold step
  split
  · exact resolved_up h
  · next hpart => rw [child, resolved_concat, h, step, if_neg hpart, child]

/-- **A resolved place is resolved for good.** -/
theorem resolved_resolved (p : Place) : p.resolved.resolved = p.resolved := by
  obtain ⟨volume, parts⟩ := p
  induction parts using List.reverseRecOn with
  | nil => rfl
  | append_singleton parts part ih =>
      rw [resolved_concat]
      exact resolved_step ih part

end Place

namespace Tree

variable {tree : Tree} {p q : Place} {node : Node} {bytes content : List UInt8} {stamp mark : Stamp}
  {refusal refusal' : Option FileProblem}

/-! ### Walking -/

/-- Each part of a path is a step of the place, if it leads somewhere. -/
theorem eq_of_enter {here next : Place} {part : Text} (h : tree.enter here part = .ok next) :
    next = here.step part := by
  unfold enter at h
  split at h
  · cases h
  · cases h
  · obtain ⟨-, -, h⟩ := bind_eq_ok_iff.mp h
    split at h
    · next hpart =>
        rw [Place.step, if_pos hpart]
        exact (Except.ok.inj h).symm
    · next hpart =>
        rw [Place.step, if_neg hpart]
        split at h
        · cases h
        · split at h
          · cases h
          · exact (Except.ok.inj h).symm

theorem eq_of_walk {parts : List Text} {here real : Place} (h : tree.walk here parts = .ok real) :
    real = parts.foldl Place.step here := by
  induction parts generalizing here with
  | nil => exact (Except.ok.inj h).symm
  | cons part rest ih =>
      rw [walk, List.foldlM_cons] at h
      obtain ⟨next, hnext, hrest⟩ := bind_eq_ok_iff.mp h
      rw [List.foldl_cons, ← eq_of_enter hnext]
      exact ih hrest

/-- What is found is listed where the walk arrives. -/
theorem exists_of_lookUp {real : Place} (h : tree.lookUp p = .ok (real, node)) :
    tree.locate p = .ok real ∧ tree.node? real = some node := by
  unfold lookUp at h
  split at h
  · cases h
  · split at h
    · cases h
    · obtain ⟨place, hplace, h⟩ := bind_eq_ok_iff.mp h
      split at h
      · cases h
      · next found hfound =>
          cases h
          exact ⟨hplace, hfound⟩

theorem find?_eq_some_iff :
    tree.find? p = some node ↔ ∃ real, tree.lookUp p = .ok (real, node) := by
  unfold find?
  cases tree.lookUp p with
  | error problem => exact ⟨nofun, nofun⟩
  | ok found => simp [Except.toOption, Prod.ext_iff, eq_comm]

/-- What a resolved place leads to is listed there. -/
theorem node?_of_find? (hp : p.resolved = p) (h : tree.find? p = some node) :
    tree.node? p = some node := by
  obtain ⟨real, hfound⟩ := find?_eq_some_iff.mp h
  obtain ⟨hreal, hnode⟩ := exists_of_lookUp hfound
  have hresolved : real = p.resolved := eq_of_walk hreal
  rwa [hresolved, hp] at hnode

/-- Who reads a file gets its content, unless the file refuses to be read. -/
theorem read_of_find? (h : tree.find? p = some (.file bytes stamp refusal)) :
    tree.read p = (FileProblem.stop refusal).map fun _ => bytes := by
  obtain ⟨real, hfound⟩ := find?_eq_some_iff.mp h
  obtain ⟨hreal, hnode⟩ := exists_of_lookUp hfound
  simp only [read, hreal, bind, Except.bind, hnode]
  cases refusal <;> rfl

/-- What is listed at a resolved place is what someone finds who walks there. -/
theorem content_unique (hp : p.resolved = p)
    (hfind : tree.find? p = some (.file content stamp refusal'))
    (hnode : tree.node? p = some (.file bytes stamp refusal)) :
    bytes = content ∧ refusal = refusal' := by
  rw [node?_of_find? hp hfind] at hnode
  cases hnode
  exact ⟨rfl, rfl⟩

/-! ### Changing -/

theorem not_isAbove_of_file (h : tree.node? p = some (.file bytes stamp refusal)) :
    p.isAbove = false := by
  unfold node? at h
  split at h
  · cases h
  · next hp => simpa using hp

/-- A file that is at a place is the first entry for it. -/
theorem lookup_of_file (h : tree.node? p = some (.file bytes stamp refusal)) :
    tree.nodes.lookup p = some (.file bytes stamp refusal) := by
  rwa [node?, if_neg (by simp [not_isAbove_of_file h])] at h

/-- Replacing the node of a place changes what is looked up there only. -/
theorem lookup_replace (nodes : List (Place × Node)) (p : Place) (node : Node)
    (h : (nodes.map fun entry => if entry.1 == p then (p, node) else entry).lookup q =
      some (.file bytes stamp refusal)) :
    (q = p ∧ node = .file bytes stamp refusal) ∨
      nodes.lookup q = some (.file bytes stamp refusal) := by
  induction nodes with
  | nil => exact .inr h
  | cons entry rest ih =>
      obtain ⟨key, value⟩ := entry
      rw [Table.lookup_cons_eq]
      by_cases hkey : key = p
      · subst hkey
        rw [List.map_cons, if_pos (by simp), Table.lookup_cons_eq] at h
        split at h
        · next hq => exact .inl ⟨hq, Option.some.inj h⟩
        · next hq =>
            rw [if_neg hq]
            exact ih h
      · rw [List.map_cons, if_neg (by simpa using hkey), Table.lookup_cons_eq] at h
        split at h
        · next hq =>
            rw [if_pos hq]
            exact .inr h
        · next hq =>
            rw [if_neg hq]
            exact ih h

/-- What is put somewhere is the only file that comes with it. -/
theorem file_of_put (h : (tree.put p node).node? q = some (.file bytes stamp refusal)) :
    (q = p ∧ node = .file bytes stamp refusal) ∨
      tree.node? q = some (.file bytes stamp refusal) := by
  have hlookup := lookup_of_file h
  simp only [node?, not_isAbove_of_file h, Bool.false_eq_true, if_false]
  unfold put at hlookup
  split at hlookup
  · exact lookup_replace tree.nodes p node hlookup
  · rw [List.lookup_append, Option.or_eq_some_iff] at hlookup
    rcases hlookup with hold | ⟨-, hnew⟩
    · exact .inr hold
    · rw [Table.lookup_cons_eq] at hnew
      split at hnew
      · next hq => exact .inl ⟨hq, Option.some.inj hnew⟩
      · cases hnew

/-- Only directories are made where there was nothing. -/
theorem file_of_makeDirectory
    (h : (tree.makeDirectory p).node? q = some (.file bytes stamp refusal)) :
    tree.node? q = some (.file bytes stamp refusal) := by
  unfold makeDirectory at h
  generalize List.range (p.parts.length + 1) = levels at h
  induction levels using List.reverseRecOn with
  | nil => exact h
  | append_singleton levels n ih =>
      rw [List.foldl_append, List.foldl_cons, List.foldl_nil] at h
      dsimp only at h ih
      split at h
      · exact ih h
      · rcases file_of_put h with ⟨-, hnode⟩ | hold
        · cases hnode
        · exact ih hold

/-- Writing lists no file but the one that is written. -/
theorem file_of_write (h : (tree.write p content mark).node? q = some (.file bytes stamp refusal)) :
    (q = p ∧ bytes = content ∧ stamp = mark) ∨
      tree.node? q = some (.file bytes stamp refusal) := by
  rcases file_of_put h with ⟨hq, hnode⟩ | hold
  · cases hnode
    exact .inl ⟨hq, rfl, rfl⟩
  · exact .inr (file_of_makeDirectory hold)

/-- What is kept by its place comes first for that place if it did before. -/
theorem lookup_of_filter (keep : Place → Bool) {nodes : List (Place × Node)}
    (h : (nodes.filter fun entry => keep entry.1).lookup q = some node) :
    nodes.lookup q = some node := by
  have hq : keep q = true := by
    obtain ⟨l₁, l₂, hl, -⟩ := List.lookup_eq_some_iff.mp h
    have hmem : (q, node) ∈ nodes.filter fun entry => keep entry.1 := by simp [hl]
    exact (List.mem_filter.mp hmem).2
  induction nodes with
  | nil => exact h
  | cons entry rest ih =>
      obtain ⟨key, value⟩ := entry
      rw [Table.lookup_cons_eq]
      by_cases hkey : keep key
      · rw [List.filter_cons, if_pos hkey, Table.lookup_cons_eq] at h
        split at h
        · next heq => rwa [if_pos heq]
        · next hne => rw [if_neg hne, ih h]
      · rw [List.filter_cons, if_neg hkey] at h
        have hne : q ≠ key := fun heq => hkey (heq ▸ hq)
        rw [if_neg hne, ih h]

theorem file_of_remove (h : (tree.remove p).node? q = some (.file bytes stamp refusal)) :
    tree.node? q = some (.file bytes stamp refusal) := by
  have hlookup := lookup_of_file h
  simp only [node?, not_isAbove_of_file h, Bool.false_eq_true, if_false]
  exact lookup_of_filter
    (fun place => !(place.volume == p.volume && p.parts.isPrefixOf place.parts)) hlookup

end Tree

end SwatchIndex
