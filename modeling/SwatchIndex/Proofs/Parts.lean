/-
The parts of a list between separators.

The parts of a path stand between slashes, and those of a list of topics between commas.  A part has
no separator in it, and with a separator put in front of the list and behind it, the parts are what
stands between two of them (`mem_splitOn_iff`).  Texts that are joined by a separator have the parts
of each, one after the other (`splitOn_join`).  What is new here goes by the parts of a list, from
the first to the last (`partInduction`).
-/
import SwatchIndex.Text.Basic
import Mathlib.Data.List.Infix

namespace SwatchIndex

namespace Text

variable {α : Type} {sep : α}

/-- What starts with a separator does not start in a stretch without separators. -/
theorem infix_append_iff {part xs ys : List α} (h : sep ∉ part) :
    sep :: ys <:+: part ++ xs ↔ sep :: ys <:+: xs := by
  induction part with
  | nil => rw [List.nil_append]
  | cons x part ih =>
      obtain ⟨hx, hpart⟩ := List.ne_and_not_mem_of_not_mem_cons h
      rw [List.cons_append, List.infix_cons_iff, ih hpart, or_iff_right]
      rintro ⟨zs, hzs⟩
      exact hx (List.cons.inj hzs).1

variable [BEq α] [LawfulBEq α]

/-- A list has no separator, or it has a first part and goes on behind a separator. -/
@[elab_as_elim]
theorem partInduction (sep : α) {motive : List α → Prop}
    (last : ∀ part, sep ∉ part → motive part)
    (more : ∀ part rest, sep ∉ part → motive rest → motive (part ++ sep :: rest))
    (xs : List α) : motive xs := by
  by_cases h : sep ∈ xs
  · obtain ⟨part, rest, hxs, hpart⟩ := List.eq_append_cons_of_mem h
    have hlength : rest.length < xs.length := by
      rw [hxs, List.length_append, List.length_cons]
      omega
    rw [hxs]
    exact more part rest hpart (partInduction sep last more rest)
  · exact last xs h
termination_by xs.length

/-- **The parts of a list but the last stand between separators**, if one is put in front. -/
theorem mem_dropLast_splitOn_iff {part xs : List α} (hpart : sep ∉ part) :
    part ∈ (xs.splitOn sep).dropLast ↔ sep :: (part ++ [sep]) <:+: sep :: xs := by
  induction xs using partInduction sep with
  | last xs hsep =>
      -- There is only the separator in front, and a part but the last takes two.
      rw [List.splitOn_eq_singleton hsep, List.dropLast_singleton]
      refine ⟨fun h => absurd h List.not_mem_nil, fun h => ?_⟩
      have hcount := h.sublist.count_le sep
      simp [List.count_eq_zero_of_not_mem hsep] at hcount
  | more first rest hfirst ih =>
      have hfront : sep :: (part ++ [sep]) <+: sep :: (first ++ sep :: rest) ↔ part = first := by
        constructor
        · rintro ⟨zs, hzs⟩
          rw [List.cons_append, List.append_assoc, List.singleton_append, List.cons.injEq] at hzs
          have hparts := congrArg (List.splitOn sep) hzs.2
          rw [List.splitOn_append_cons_self_of_not_mem hpart,
            List.splitOn_append_cons_self_of_not_mem hfirst] at hparts
          exact (List.cons.inj hparts).1
        · rintro rfl
          exact ⟨rest, by simp⟩
      have hwithin : sep :: (part ++ [sep]) <:+: sep :: (first ++ sep :: rest) ↔
          part = first ∨ sep :: (part ++ [sep]) <:+: sep :: rest := by
        rw [List.infix_cons_iff, hfront, infix_append_iff hfirst]
      rw [hwithin, List.splitOn_append_cons_self_of_not_mem hfirst,
        List.dropLast_cons_of_ne_nil (List.splitOn_ne_nil sep rest), List.mem_cons, ih]

theorem not_mem_of_mem_splitOn {part xs : List α} (h : part ∈ xs.splitOn sep) : sep ∉ part := by
  induction xs using partInduction sep with
  | last xs hsep =>
      rw [List.splitOn_eq_singleton hsep] at h
      rwa [List.mem_singleton.mp h]
  | more first rest hfirst ih =>
      rw [List.splitOn_append_cons_self_of_not_mem hfirst] at h
      rcases List.mem_cons.mp h with rfl | hrest
      · exact hfirst
      · exact ih hrest

/-- **The parts of a list stand between separators**, if one is put in front and one behind. -/
theorem mem_splitOn_iff {part xs : List α} :
    part ∈ xs.splitOn sep ↔ sep ∉ part ∧ sep :: (part ++ [sep]) <:+: sep :: (xs ++ [sep]) := by
  have hlast : ((xs ++ [sep]).splitOn sep).dropLast = xs.splitOn sep := by
    rw [List.splitOn_append_cons_self xs []]
    exact List.dropLast_concat
  constructor
  · intro h
    have hpart := not_mem_of_mem_splitOn h
    rw [← hlast] at h
    exact ⟨hpart, (mem_dropLast_splitOn_iff hpart).mp h⟩
  · intro h
    rw [← hlast]
    exact (mem_dropLast_splitOn_iff h.1).mpr h.2

/-- Texts that are joined by a separator have the parts of each. -/
theorem splitOn_join {c : Char} {texts : List Text} (h : texts ≠ []) :
    (join [c] texts).splitOn c = texts.flatMap (List.splitOn c) := by
  induction texts with
  | nil => exact absurd rfl h
  | cons t rest ih =>
      cases rest with
      | nil =>
          show ([c].intercalate [t]).splitOn c = _
          rw [List.intercalate_singleton, List.flatMap_singleton]
      | cons u more =>
          have hjoin : join [c] (t :: u :: more) = t ++ c :: join [c] (u :: more) := by
            show [c].intercalate (t :: u :: more) = _
            rw [List.intercalate_cons_cons, List.append_assoc, List.singleton_append]
            rfl
          rw [hjoin, List.splitOn_append_cons_self, ih (List.cons_ne_nil u more)]
          exact List.flatMap_cons.symm

end Text

end SwatchIndex
