/-
Reading on from the middle of a segment.

A scan comes to a place within a segment, so these lemmas are about `clausesAfter`, which reads on
from a place that a name character may precede.  The step that carries them is `clausesAfter_cons`:
a character at which no heading starts can be left out.  So a text up to its first heading can
(`clausesAfter_of_search`), and so can a colour comment (`clauses_drop_colorComment`).  At a
heading, the segment closes it with a clause or with none, and the later segments are read as before
(`clauses_of_heading`).
-/
import SwatchIndex.Proofs.Comments

namespace SwatchIndex

namespace Declaration

/-! ### A heading stays within its segment -/

/-- The heading of the run that starts here. -/
def headingAt? (before : Bool) (t : Text) : Option (Text × Text) :=
  if before then none else heading? (t.takeWhile isNameChar, t.dropWhile isNameChar)

/-- The leftmost heading whose run starts in a text. -/
def headingAfter? (before : Bool) (t : Text) : Option (Text × Text) :=
  (runsAfter before t).findSome? heading?

theorem behindColon?_cons (c : Char) (t : Text) :
    behindColon? (c :: t) = if c = ':' then some t else none := by
  by_cases hc : c = ':'
  · subst hc; rfl
  · rw [if_neg hc]
    unfold behindColon?
    split
    · simp_all
    · rfl

/-- The head that a scan looks for is a heading with its width. -/
theorem head?_eq (before : Bool) (t : Text) :
    head? before t =
      (headingAt? before t).map fun (name, value) => ⟨name, t.length - value.length⟩ := by
  have hrun : t.length = (t.takeWhile isNameChar).length + (t.dropWhile isNameChar).length := by
    rw [← List.length_append, List.takeWhile_append_dropWhile]
  have hgap : (t.dropWhile isNameChar).length =
      ((t.dropWhile isNameChar).takeWhile isSpace).length +
        ((t.dropWhile isNameChar).dropWhile isSpace).length := by
    rw [← List.length_append, List.takeWhile_append_dropWhile]
  cases before with
  | true => rfl
  | false =>
      simp only [head?, headingAt?, heading?, Bool.false_eq_true, if_false]
      by_cases hname : isName (t.takeWhile isNameChar)
      · rw [if_pos hname, if_pos hname]
        cases hrest : (t.dropWhile isNameChar).dropWhile isSpace with
        | nil => rfl
        | cons c value =>
            rw [hrest, List.length_cons] at hgap
            by_cases hc : c = ':'
            · subst hc
              simp only [behindColon?, Option.map_some, Option.some.injEq, Head.mk.injEq, true_and]
              omega
            · simp [behindColon?_cons, hc]
      · rw [if_neg hname, if_neg hname]
        rfl

theorem headingAfter?_cons (before : Bool) (c : Char) (rest : Text) :
    headingAfter? before (c :: rest) =
      (headingAt? before (c :: rest)).or (headingAfter? (isNameChar c) rest) := by
  cases before with
  | true => simp [headingAfter?, headingAt?, runsAfter]
  | false =>
      cases hc : isNameChar c with
      | true =>
          simp only [headingAfter?, headingAt?, runsAfter, hc]
          simp only [Bool.not_false, Bool.and_self, if_true, Bool.false_eq_true, if_false,
            List.findSome?_cons]
          split <;> simp_all
      | false => simp [headingAfter?, headingAt?, runsAfter, hc, heading?, isName]

theorem behindColon?_append_cut {x y : Text} (hy : Cut y) :
    behindColon? (x ++ y) = (behindColon? x).map (· ++ y) := by
  cases x with
  | nil =>
      cases y with
      | nil => rfl
      | cons c more =>
          have hne : c ≠ ':' := by
            rintro rfl
            exact absurd (hy ':' rfl) (by decide)
          simp [behindColon?, hne]
  | cons c more =>
      rw [List.cons_append, behindColon?_cons, behindColon?_cons]
      split <;> rfl

theorem heading?_append_cut {run rest y : Text} (hy : Cut y) :
    heading? (run, rest ++ y) =
      (heading? (run, rest)).map fun (name, value) => (name, value ++ y) := by
  have hgap : (rest ++ y).dropWhile isSpace = rest.dropWhile isSpace ++ y :=
    dropWhile_append_of_stop fun c hc => not_isSpace_of_isTerminator (hy c hc)
  simp only [heading?, hgap, behindColon?_append_cut hy]
  split
  · cases behindColon? (rest.dropWhile isSpace) <;> rfl
  · rfl

/-- A terminator and what follows it do not matter to a heading in front of it. -/
theorem headingAt?_append_cut {before : Bool} {x y : Text} (hy : Cut y) :
    headingAt? before (x ++ y) =
      (headingAt? before x).map fun (name, value) => (name, value ++ y) := by
  have hstop : ∀ c ∈ y.head?, isNameChar c = false :=
    fun c hc => not_isNameChar_of_isTerminator (hy c hc)
  unfold headingAt?
  split
  · rfl
  · rw [takeWhile_append_of_stop hstop, dropWhile_append_of_stop hstop, heading?_append_cut hy]

/-! ### The first segment and the others -/

theorem segments_of_unbroken {x : Text} (hx : Unbroken x) : segments x = [⟨x, none, []⟩] := by
  induction x with
  | nil => rfl
  | cons c rest ih =>
      obtain ⟨hc, hrest⟩ := unbroken_cons.mp hx
      simp [segments, hc, ih hrest]

theorem segments_append_cons {x rest : Text} {c : Char} (hx : Unbroken x)
    (hc : isTerminator c = true) :
    segments (x ++ c :: rest) = ⟨x, some c, rest⟩ :: segments rest := by
  induction x with
  | nil => simp [segments, hc]
  | cons d more ih =>
      obtain ⟨hd, hmore⟩ := unbroken_cons.mp hx
      simp [segments, hd, ih hmore]

/-- What a segment declares at a heading whose run starts in it. -/
def Segment.clauseAfter? (before : Bool) (s : Segment) : Option Clause :=
  (headingAfter? before s.body).bind fun (name, rest) => s.close? name (Text.strip rest)

/-- The declarations of a text that a name character may precede. -/
def clausesAfter (before : Bool) (t : Text) : List Clause :=
  ((segments t).head?.bind (Segment.clauseAfter? before)).toList ++
    (segments t).tail.filterMap Segment.clause?

theorem clausesAfter_of_unbroken {before : Bool} {x : Text} (hx : Unbroken x) :
    clausesAfter before x = [] := by
  simp only [clausesAfter, segments_of_unbroken hx, List.head?_cons, List.tail_cons,
    Option.bind_some, Segment.clauseAfter?, Segment.close?]
  cases headingAfter? before x <;> simp

theorem clausesAfter_append_cons {before : Bool} {x rest : Text} {c : Char} (hx : Unbroken x)
    (hc : isTerminator c = true) :
    clausesAfter before (x ++ c :: rest) =
      (Segment.clauseAfter? before ⟨x, some c, rest⟩).toList ++ clauses rest := by
  simp [clausesAfter, segments_append_cons hx hc, clauses]

theorem clausesAfter_false (t : Text) : clausesAfter false t = clauses t := by
  unfold clausesAfter clauses
  cases h : segments t with
  | nil => rfl
  | cons s more =>
      have hs : Segment.clauseAfter? false s = s.clause? := rfl
      simp only [List.head?_cons, List.tail_cons, Option.bind_some, hs, List.filterMap_cons]
      cases s.clause? <;> rfl

/-- **A character at which no heading starts can be left out.** -/
theorem clausesAfter_cons {before : Bool} {c : Char} {t : Text}
    (h : headingAt? before (c :: t) = none) :
    clausesAfter before (c :: t) = clausesAfter (isNameChar c) t := by
  obtain ⟨x, y, rfl, hx, hy⟩ := exists_unbroken_cut t
  by_cases hc : isTerminator c = true
  · rw [← List.nil_append (c :: _), clausesAfter_append_cons unbroken_nil hc,
      not_isNameChar_of_isTerminator hc, clausesAfter_false]
    rfl
  · have hcx : Unbroken (c :: x) := unbroken_cons.mpr ⟨by simpa using hc, hx⟩
    cases y with
    | nil =>
        rw [List.append_nil, clausesAfter_of_unbroken hcx, clausesAfter_of_unbroken hx]
    | cons d rest =>
        have hd : isTerminator d = true := cut_cons.mp hy
        have hhere : headingAt? before (c :: x) = none := by
          rw [← List.cons_append, headingAt?_append_cut hy] at h
          simpa using h
        rw [← List.cons_append, clausesAfter_append_cons hcx hd, clausesAfter_append_cons hx hd]
        simp only [Segment.clauseAfter?, headingAfter?_cons, hhere, Option.none_or, Segment.close?]

/-! ### Where a search stops -/

theorem headingAt?_eq_none_iff {before : Bool} {t : Text} :
    headingAt? before t = none ↔ head? before t = none := by
  rw [head?_eq, Option.map_eq_none_iff]

theorem clausesAfter_of_search_eq_none :
    ∀ {t : Text} {before : Bool} {pos : Nat}, search head? before pos t = none →
      clausesAfter before t = [] := by
  intro t
  induction t with
  | nil => intro before pos _; exact clausesAfter_of_unbroken unbroken_nil
  | cons c rest ih =>
      intro before pos h
      simp only [search] at h
      split at h
      · simp at h
      · rename_i hnone
        rw [clausesAfter_cons (headingAt?_eq_none_iff.mpr hnone)]
        exact ih h

/-- Up to the first head, a text declares nothing. -/
theorem clausesAfter_of_search :
    ∀ {t : Text} {before : Bool} {pos i : Nat} {head : Head},
      search head? before pos t = some (i, head) →
      ∃ x y, t = x ++ y ∧ i = pos + x.length ∧ head? false y = some head ∧
        clausesAfter before t = clauses y := by
  intro t
  induction t with
  | nil =>
      intro before pos i head h
      simp only [search, Option.map_eq_some_iff] at h
      obtain ⟨found, hfound, -⟩ := h
      cases before <;> simp [head?, isName] at hfound
  | cons c rest ih =>
      intro before pos i head h
      simp only [search] at h
      split at h
      · rename_i found hfound
        simp only [Option.some.injEq, Prod.mk.injEq] at h
        obtain ⟨rfl, rfl⟩ := h
        have hbefore : before = false := by
          cases before
          · rfl
          · simp [head?] at hfound
        subst hbefore
        exact ⟨[], c :: rest, rfl, rfl, hfound, clausesAfter_false _⟩
      · rename_i hnone
        obtain ⟨x, y, rfl, hi, hhead, hclauses⟩ := ih h
        refine ⟨c :: x, y, rfl, ?_, hhead, ?_⟩
        · rw [hi, List.length_cons]
          omega
        · rw [clausesAfter_cons (headingAt?_eq_none_iff.mpr hnone), hclauses]

/-! ### What stands at a heading -/

theorem behindColon?_eq_some {t value : Text} (h : behindColon? t = some value) :
    t = ':' :: value := by
  cases t with
  | nil => simp [behindColon?] at h
  | cons c rest =>
      rw [behindColon?_cons] at h
      split at h
      · rename_i hc
        rw [hc, Option.some.inj h]
      · simp at h

/-- A heading is text without a terminator, then a colon, then the value. -/
theorem headingAt?_eq_some {y name value : Text} (h : headingAt? false y = some (name, value)) :
    ∃ lead, y = lead ++ ':' :: value ∧ Unbroken lead := by
  simp only [headingAt?, Bool.false_eq_true, if_false, heading?] at h
  split at h
  · simp only [Option.map_eq_some_iff, Prod.mk.injEq] at h
    obtain ⟨v, hv, -, rfl⟩ := h
    obtain ⟨run, hy, hrun⟩ := exists_run (rfl : y.dropWhile isNameChar = _)
    obtain ⟨gap, hrest, hgap⟩ := exists_run (behindColon?_eq_some hv)
    refine ⟨run ++ gap, by rw [List.append_assoc, ← hrest, ← hy], ?_⟩
    intro c hc
    by_contra hterm
    simp only [Bool.not_eq_false] at hterm
    rcases List.mem_append.mp hc with hc | hc
    · exact absurd (hrun c hc) (by simp [not_isNameChar_of_isTerminator hterm])
    · exact absurd (hgap c hc) (by simp [not_isSpace_of_isTerminator hterm])
  · simp at h

/-- A heading whose value no terminator ends declares nothing. -/
theorem clauses_of_heading_unbroken {y name value : Text}
    (h : headingAt? false y = some (name, value)) (hvalue : Unbroken value) : clauses y = [] := by
  obtain ⟨lead, rfl, hlead⟩ := headingAt?_eq_some h
  have hall : Unbroken (lead ++ ':' :: value) := by simp [hlead, hvalue, isTerminator]
  rw [← clausesAfter_false, clausesAfter_of_unbroken hall]

/-- A heading declares what its segment closes it with, and then the later segments declare. -/
theorem clauses_of_heading {y name v rest : Text} {c : Char}
    (h : headingAt? false y = some (name, v ++ c :: rest)) (hv : Unbroken v)
    (hc : isTerminator c = true) :
    clauses y =
      (Segment.close? ⟨v, some c, rest⟩ name (Text.strip v)).toList ++ clauses rest := by
  obtain ⟨lead, rfl, hlead⟩ := headingAt?_eq_some h
  have hbody : Unbroken (lead ++ ':' :: v) := by simp [hlead, hv, isTerminator]
  have hshape : lead ++ ':' :: (v ++ c :: rest) = (lead ++ ':' :: v) ++ c :: rest := by simp
  have hcut : Cut (c :: rest) := cut_cons.mpr hc
  have hhere : headingAt? false (lead ++ ':' :: v) = some (name, v) := by
    rw [hshape, headingAt?_append_cut hcut] at h
    simp only [Option.map_eq_some_iff, Prod.mk.injEq, Prod.exists] at h
    obtain ⟨n, w, hnw, rfl, hw⟩ := h
    rw [hnw, List.append_cancel_right hw]
  have hafter : headingAfter? false (lead ++ ':' :: v) = some (name, v) := by
    cases hl : lead ++ ':' :: v with
    | nil => simp at hl
    | cons d more =>
        rw [hl] at hhere
        rw [headingAfter?_cons, hhere]
        rfl
  rw [hshape, ← clausesAfter_false, clausesAfter_append_cons hbody hc]
  simp only [Segment.clauseAfter?, hafter, Option.bind_some, Segment.close?]

/-! ### Text that declares nothing -/

/-- Names start with a hyphen, so a heading does. -/
theorem headingAt?_cons_of_ne {before : Bool} {c : Char} {t : Text} (hc : c ≠ '-') :
    headingAt? before (c :: t) = none := by
  have hname : isName ((c :: t).takeWhile isNameChar) = false := by
    rw [List.takeWhile_cons]
    split
    · unfold isName
      split
      · simp_all
      · rfl
    · rfl
  simp [headingAt?, heading?, hname]

/-- A terminator declares nothing, whatever precedes it. -/
theorem clausesAfter_terminator {c : Char} (hc : isTerminator c = true) (before : Bool)
    (t : Text) : clausesAfter before (c :: t) = clauses t := by
  rw [clausesAfter_cons (headingAt?_cons_of_ne (ne_hyphen_of_isTerminator hc)),
    not_isNameChar_of_isTerminator hc, clausesAfter_false]

theorem clauses_terminator {c : Char} (hc : isTerminator c = true) (t : Text) :
    clauses (c :: t) = clauses t := by
  rw [← clausesAfter_false (c :: t), clausesAfter_terminator hc]

/-- Text without a hyphen can be left out. -/
theorem clausesAfter_append_of_no_hyphen {x y : Text} {c : Char} (hx : '-' ∉ x) (hc : c ≠ '-') :
    ∀ before : Bool, clausesAfter before (x ++ c :: y) = clausesAfter (isNameChar c) y := by
  induction x with
  | nil => intro before; exact clausesAfter_cons (headingAt?_cons_of_ne hc)
  | cons d more ih =>
      intro before
      have hd : d ≠ '-' := fun hd => hx (by simp [hd])
      have hmore : '-' ∉ more := fun hm => hx (by simp [hm])
      rw [List.cons_append, clausesAfter_cons (headingAt?_cons_of_ne hd), ih hmore]

/-- A value that its segment does not close with declares nothing when it is read on from. -/
theorem clauses_of_close?_eq_none {name v rest : Text} {c : Char} (hv : Unbroken v)
    (hc : isTerminator c = true)
    (h : Segment.close? ⟨v, some c, rest⟩ name (Text.strip v) = none) :
    clauses (v ++ c :: rest) = clauses rest := by
  by_cases hblank : Text.strip v = []
  · have hhyphen : '-' ∉ v := fun hmem => by
      have := Text.strip_eq_nil_iff.mp hblank '-' hmem
      exact absurd this (by decide)
    rw [← clausesAfter_false,
      clausesAfter_append_of_no_hyphen hhyphen (ne_hyphen_of_isTerminator hc),
      not_isNameChar_of_isTerminator hc, clausesAfter_false]
  · have hbrace : c = '{' := by
      simp only [isTerminator, Bool.or_eq_true, beq_iff_eq] at hc
      rcases hc with (rfl | rfl) | rfl
      · simp [Segment.close?, hblank] at h
      · rfl
      · simp [Segment.close?, hblank] at h
    rw [← clausesAfter_false, clausesAfter_append_cons hv hc, hbrace]
    simp only [Segment.clauseAfter?, Segment.close?]
    cases headingAfter? false v <;> simp

/-- A colour comment declares nothing. -/
theorem clauses_drop_colorComment {t code : Text} {width : Nat}
    (h : colorComment? t = some (code, width)) : clauses (t.drop width) = clauses t := by
  obtain ⟨x, rest, rfl, hx, rfl⟩ := colorComment?_eq_some h
  have hdrop : (x ++ '/' :: rest).drop (x.length + 1) = rest := by simp
  rw [hdrop, ← clausesAfter_false (x ++ '/' :: rest),
    clausesAfter_append_of_no_hyphen hx (by decide) false]
  exact (clausesAfter_false rest).symm

end Declaration

end SwatchIndex
