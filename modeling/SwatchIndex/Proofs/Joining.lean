/-
Stylesheets one after the other.

A scan of two texts in a row carries over from the first to the second: its place, the terminator it
found last, and what stands before the cursor.  None of this matters where the first text ends with
a terminator.  The segments of the whole are then those of the first text and those of the second,
and a segment looks behind its terminator only for a colour comment.  A comment that starts within
the first text ends there (`code_append_of_getLast?`), so just one comment could be drawn across the
join: one at the very start of the second text, behind a semicolon.  `Joins` leaves that out, and
then the declarations of the whole are those of its parts (`clauses_append`).
-/
import SwatchIndex.Proofs.Scanning

namespace SwatchIndex

/-- One scan and then another, unless the first one fails. -/
def Scan.followedBy : Scan → Scan → Scan
  | .finished, next => next
  | .failed cause, _ => .failed cause
  | .found d rest, next => .found d (rest.followedBy next)

theorem Scan.ofOutcomes_append (xs ys : List (Except OverlongNumeral Definition)) :
    Scan.ofOutcomes (xs ++ ys) = (Scan.ofOutcomes xs).followedBy (Scan.ofOutcomes ys) := by
  induction xs with
  | nil => rfl
  | cons x rest ih =>
      cases x with
      | error cause => rfl
      | ok d =>
          show Scan.found d (Scan.ofOutcomes (rest ++ ys)) = _
          rw [ih]
          rfl

namespace Declaration

/-! ### Segment by segment -/

/-- Induction on the segments of a text: the last one, and one in front of the others. -/
@[elab_as_elim]
theorem segmentInduction {P : Text → Prop} (last : ∀ x, Unbroken x → P x)
    (segment : ∀ x c rest, Unbroken x → isTerminator c = true → P rest → P (x ++ c :: rest))
    (t : Text) : P t := by
  induction hn : t.length using Nat.strong_induction_on generalizing t with
  | _ n ih =>
      obtain ⟨x, y, rfl, hx, hy⟩ := exists_unbroken_cut t
      cases y with
      | nil =>
          rw [List.append_nil]
          exact last x hx
      | cons c rest =>
          refine segment x c rest hx (cut_cons.mp hy) (ih rest.length ?_ rest rfl)
          rw [← hn, List.length_append, List.length_cons]
          omega

theorem clauses_append_cons {x rest : Text} {c : Char} (hx : Unbroken x)
    (hc : isTerminator c = true) :
    clauses (x ++ c :: rest) = (Segment.clause? ⟨x, some c, rest⟩).toList ++ clauses rest := by
  rw [← clausesAfter_false, clausesAfter_append_cons hx hc]
  rfl

theorem clauses_of_unbroken {x : Text} (hx : Unbroken x) : clauses x = [] := by
  rw [← clausesAfter_false, clausesAfter_of_unbroken hx]

/-- What follows a segment matters to it only behind a semicolon, and there only as a comment. -/
theorem clause?_congr {x rest rest' : Text} {c : Char}
    (h : c = ';' → (colorComment? rest).map Prod.fst = (colorComment? rest').map Prod.fst) :
    Segment.clause? ⟨x, some c, rest⟩ = Segment.clause? ⟨x, some c, rest'⟩ := by
  by_cases hc : c = ';'
  · subst hc
    simp only [Segment.clause?, Segment.close?, h rfl]
  · have hclose : ∀ name value, Segment.close? ⟨x, some c, rest⟩ name value =
        Segment.close? ⟨x, some c, rest'⟩ name value := by
      intro name value
      simp only [Segment.close?]
      split
      · rfl
      · split
        · rename_i heq
          exact absurd (Option.some.inj heq) hc
        · rfl
        · rfl
    simp only [Segment.clause?, hclose]

/-! ### Two texts -/

/-- The first text ends with a terminator, and if that is a semicolon, the second one does not start
with a colour comment. -/
def Joins (a b : Text) : Prop :=
  a.getLast? = some '}' ∨ a.getLast? = some '{' ∨
    (a.getLast? = some ';' ∧ colorComment? b = none)

instance (a b : Text) : Decidable (Joins a b) :=
  inferInstanceAs (Decidable (_ ∨ _ ∨ (_ ∧ _)))

theorem Joins.exists_terminator {a b : Text} (h : Joins a b) :
    ∃ c, a.getLast? = some c ∧ isTerminator c = true ∧ (c = ';' → colorComment? b = none) := by
  rcases h with h | h | ⟨h, hnone⟩
  · exact ⟨'}', h, by decide, fun hc => absurd hc (by decide)⟩
  · exact ⟨'{', h, by decide, fun hc => absurd hc (by decide)⟩
  · exact ⟨';', h, by decide, fun _ => hnone⟩

/-- A comment that starts in a text with a terminator at its end ends there too. -/
theorem code_append_of_getLast? {a b : Text} {c : Char} (h : a.getLast? = some c)
    (hc : isTerminator c = true) :
    (colorComment? (a ++ b)).map Prod.fst = (colorComment? a).map Prod.fst := by
  obtain ⟨x, rfl⟩ := List.getLast?_eq_some_iff.mp h
  rw [List.append_assoc, code_append_cut (y := [c] ++ b) (cut_cons.mpr hc),
    code_append_cut (y := [c]) (cut_cons.mpr hc)]

/-- **Where two texts may be joined, the whole declares what its parts declare.** -/
theorem clauses_append {a b : Text} (h : Joins a b) :
    clauses (a ++ b) = clauses a ++ clauses b := by
  obtain ⟨d, hlast, hd, hcomment⟩ := h.exists_terminator
  clear h
  induction a using segmentInduction with
  | last x hx =>
      have hfree : isTerminator d = false := hx d (List.mem_of_getLast? hlast)
      rw [hd] at hfree
      exact Bool.noConfusion hfree
  | segment x c rest hx hc ih =>
      rw [List.append_assoc, List.cons_append, clauses_append_cons hx hc,
        clauses_append_cons hx hc]
      cases rest with
      | nil =>
          -- The terminator of this segment is the end of the first text.
          obtain rfl : c = d := by simpa using hlast
          have hnone : c = ';' →
              (colorComment? ([] ++ b)).map Prod.fst = (colorComment? []).map Prod.fst := by
            intro hsemi
            rw [List.nil_append, hcomment hsemi]
            rfl
          rw [clause?_congr hnone, clauses_of_unbroken unbroken_nil, List.append_nil,
            List.nil_append]
      | cons e more =>
          have hmore : (e :: more).getLast? = some d := by
            rwa [List.getLast?_append_of_ne_nil _ (List.cons_ne_nil _ _),
              List.getLast?_cons_cons] at hlast
          rw [clause?_congr fun _ => code_append_of_getLast? hmore hd, ih hmore, List.append_assoc]

/--
**Stylesheets that are joined declare what they declare apart.**  The definitions of the second text
follow those of the first, and no definition of either is changed, hidden or added.  A failure in
the first text ends the scan there; one in the second ends it after all definitions of the first.
-/
theorem parse_append {a b : Text} (h : Joins a b) (source : Option Text) :
    (parse (a ++ b) source {} = do
      let first ← parse a source {}
      let second ← parse b source {}
      pure (first ++ second)) ∧
      scan (a ++ b) source {} = (scan a source {}).followedBy (scan b source {}) := by
  have hclauses : ∀ t : Text, ScanLimits.cut {} t = t := fun _ => rfl
  constructor
  · simp only [parse_eq, hclauses, within, Option.map_none, clauses_append h, List.mapM_append]
  · simp only [scan_eq, hclauses, within, Option.map_none, clauses_append h, List.map_append,
      Scan.ofOutcomes_append]

/-- A block and a declaration behind it that a comment precedes: the comment stays without
effect. -/
theorem parse_append_block :
    Joins "a\x7b--b:1,2,3;--c:--d\x7d".toList "/*#abc*/--e:f:g;".toList ∧
      (parse ("a\x7b--b:1,2,3;--c:--d\x7d".toList ++ "/*#abc*/--e:f:g;".toList) none {} = do
        let first ← parse "a\x7b--b:1,2,3;--c:--d\x7d".toList none {}
        let second ← parse "/*#abc*/--e:f:g;".toList none {}
        pure (first ++ second)) :=
  ⟨by decide, (parse_append (by decide) none).1⟩

end Declaration

end SwatchIndex
