/-
Where a context is, read off the end of a text.

A context is where a name is typed, and that is a statement about some way to divide the text
(`Completion.Typing`).  Here the division is read off the text itself.  What stands in front of the
cursor ends with a longest run of name characters (`IsLastRun`), perhaps an empty one, and a run is
the longest exactly if no name character precedes it (`isLastRun_append_iff`).  So a name is typed
exactly if the last run starts with two hyphens, and then it is the run, and the rest leads up to it
(`typing_iff`).
-/
import SwatchIndex.Proofs.Completing
import Mathlib.Data.List.DropRight

namespace SwatchIndex

namespace Completion

/-! ### The last run of a text -/

/-- The text ends with this run of name characters, and with no longer one. -/
structure IsLastRun (t run : Text) : Prop where
  suffix : run <:+ t
  chars : ∀ c ∈ run, isNameChar c = true
  longest : ∀ other, other <:+ t → (∀ c ∈ other, isNameChar c = true) → other.length ≤ run.length

theorem IsLastRun.unique {t run run' : Text} (h : IsLastRun t run) (h' : IsLastRun t run') :
    run = run' := by
  have hlength : run.length = run'.length :=
    Nat.le_antisymm (h'.longest run h.suffix h.chars) (h.longest run' h'.suffix h'.chars)
  exact (List.suffix_of_suffix_length_le h.suffix h'.suffix hlength.le).eq_of_length hlength

/-- A run of name characters is the last one exactly if no name character precedes it. -/
theorem isLastRun_append_iff {lead run : Text} (hchars : ∀ c ∈ run, isNameChar c = true) :
    IsLastRun (lead ++ run) run ↔ precedes false lead = false := by
  constructor
  · intro h
    rcases List.eq_nil_or_concat' lead with rfl | ⟨lead, c, rfl⟩
    · rfl
    · rw [precedes_append (List.cons_ne_nil c []), List.getLast_singleton, Bool.eq_false_iff]
      intro hc
      -- With this character the run would be longer.
      have hsuffix : c :: run <:+ lead ++ [c] ++ run := ⟨lead, by simp⟩
      have hlonger := h.longest (c :: run) hsuffix (List.forall_mem_cons.mpr ⟨hc, hchars⟩)
      rw [List.length_cons] at hlonger
      omega
  · intro hfresh
    refine ⟨List.suffix_append lead run, hchars, fun other hsuffix hother => ?_⟩
    by_contra hlonger
    -- A longer run would have the end of `lead` in it.
    obtain ⟨z, rfl⟩ := List.suffix_of_suffix_length_le (List.suffix_append lead run) hsuffix
      (by omega)
    have hne : z ≠ [] := by
      rintro rfl
      exact hlonger (Nat.le_refl _)
    obtain ⟨u, hu⟩ := hsuffix
    rw [← List.append_assoc, List.append_left_inj] at hu
    rw [← hu, precedes_append hne] at hfresh
    rw [hother _ (List.mem_append_left run (List.getLast_mem hne))] at hfresh
    exact Bool.noConfusion hfresh

/-- Every text has a last run. -/
theorem exists_isLastRun (t : Text) : ∃ run, IsLastRun t run := by
  refine ⟨t.rtakeWhile isNameChar, ?_⟩
  have hfresh : precedes false (t.rdropWhile isNameChar) = false := by
    by_cases hnil : t.rdropWhile isNameChar = []
    · rw [hnil]
      rfl
    · rw [← List.nil_append (t.rdropWhile isNameChar), precedes_append hnil]
      simpa using List.rdropWhile_last_not isNameChar t hnil
  have hchars : ∀ c ∈ t.rtakeWhile isNameChar, isNameChar c = true :=
    fun c => List.mem_rtakeWhile_imp
  have hrun := (isLastRun_append_iff hchars).mpr hfresh
  rwa [List.rdropWhile_append_rtakeWhile] at hrun

/-! ### The name that is typed -/

/-- What stands in front of the cursor: a single newline at the end does not count. -/
def body (text : Text) : Text := if text.getLast? = some '\n' then text.dropLast else text

theorem exists_body_append (text : Text) :
    ∃ tail, atEnd tail = true ∧ text = body text ++ tail := by
  unfold body
  split
  · rename_i hlast
    exact ⟨['\n'], rfl, (List.dropLast_append_getLast? _ hlast).symm⟩
  · exact ⟨[], rfl, (List.append_nil _).symm⟩

theorem Typing.body_eq {t lead name : Text} (h : Typing t lead name) : body t = lead ++ name := by
  obtain ⟨tail, htail, hsplit⟩ := h.split
  -- A name ends with no newline, so a newline at the end of the text is the one that is left out.
  have hnewline := tail_eq (x := lead) h.name htail
  rw [← hsplit] at hnewline
  unfold body
  by_cases hlast : t.getLast? = some '\n'
  · rw [if_pos hlast] at hnewline ⊢
    rw [hsplit, hnewline, ← List.append_assoc, List.dropLast_concat]
  · rw [if_neg hlast] at hnewline ⊢
    rw [hsplit, hnewline, List.append_nil]

/-- **A name is typed exactly if the last run starts with two hyphens**, and it is that run. -/
theorem typing_iff {t lead name : Text} :
    Typing t lead name ↔
      body t = lead ++ name ∧ IsLastRun (body t) name ∧ "--".toList <+: name := by
  constructor
  · intro h
    refine ⟨h.body_eq, ?_, ?_⟩
    · rw [h.body_eq]
      exact (isLastRun_append_iff h.name.chars).mpr h.fresh
    · obtain ⟨rest, rfl, -⟩ := h.name
      exact ⟨rest, rfl⟩
  · rintro ⟨hbody, hrun, rest, rfl⟩
    obtain ⟨tail, htail, htext⟩ := exists_body_append t
    refine ⟨⟨tail, htail, ?_⟩, ⟨rest, rfl, fun c hc => ?_⟩, ?_⟩
    · rw [htext, hbody, List.append_assoc]
    · exact hrun.chars c (List.mem_append_right _ hc)
    · rw [hbody] at hrun
      exact (isLastRun_append_iff hrun.chars).mp hrun

end Completion

open Completion in
/--
**A context is read off the end of a text.**  There is one exactly if the last run of name
characters in front of the cursor starts with two hyphens.  Then the run is the typed name, with its
offsets, and the kind depends on whether an opened reference and white space lead up to it.
-/
theorem classify_reads_last_run (text : Text) :
    ∃ run, IsLastRun (body text) run ∧
      (classify text ≠ none ↔ "--".toList <+: run) ∧
      ∀ ctx, classify text = some ctx →
        ctx.typed = run ∧ ctx.stop = (body text).length ∧
          ctx.start = (body text).length - run.length ∧
          text.extract ctx.start ctx.stop = ctx.typed ∧
          ctx.kind =
            if "var(".toList <:+ Text.dropEndWhile isSpace (text.take ctx.start) then
              .valueReference
            else .bareName := by
  obtain ⟨run, hrun⟩ := exists_isLastRun (body text)
  refine ⟨run, hrun, ?_, ?_⟩
  · constructor
    · intro h
      obtain ⟨ctx, hctx⟩ := Option.ne_none_iff_exists'.mp h
      obtain ⟨lead, name, htyping, -⟩ := classify_eq_some_iff.mp hctx
      obtain ⟨-, hname, hhyphens⟩ := typing_iff.mp htyping
      rwa [hrun.unique hname]
    · intro hhyphens
      obtain ⟨lead, hlead⟩ := hrun.suffix
      have htyping : Typing text lead run := typing_iff.mpr ⟨hlead.symm, hrun, hhyphens⟩
      rw [classify_eq_some_iff.mpr ⟨lead, run, htyping, rfl⟩]
      exact Option.some_ne_none _
  · intro ctx hctx
    obtain ⟨lead, name, htyping, rfl⟩ := classify_eq_some_iff.mp hctx
    obtain ⟨hbody, hname, -⟩ := typing_iff.mp htyping
    obtain rfl := hrun.unique hname
    have hlength : (body text).length = lead.length + run.length := by
      rw [hbody, List.length_append]
    obtain ⟨tail, -, rfl⟩ := htyping.split
    refine ⟨rfl, hlength.symm, ?_, ?_, ?_⟩
    · show lead.length = _
      omega
    · show (lead ++ (run ++ tail)).extract lead.length (lead.length + run.length) = run
      rw [List.extract_eq_take_drop, List.drop_left, Nat.add_sub_cancel_left, List.take_left]
    · show kindBehind lead = kindBehind ((lead ++ (run ++ tail)).take lead.length)
      rw [List.take_left]

example : classify "foovar( \t--a\n".toList = some ⟨.valueReference, "--a".toList, 9, 12⟩ := by
  decide

end SwatchIndex
