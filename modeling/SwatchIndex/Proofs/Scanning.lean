/-
A scan finds what stands in the segments of its text.

The cursor of a scan is a place in the text and the terminator that was found last.  Two things make
it harmless.  The place is never inside an identifier, except on a closing brace, where no name can
start.  And the terminator, unless it is passed, is the first one from the place on.  `Sound` says
so, and every step keeps it.

So a step depends only on the text from the cursor on.  It either declares the first clause of that
text and leaves the others, or declares nothing and leaves all of them (`step_reads`).  By induction
along the scan, the definitions come out clause by clause (`scanFrom_eq`).
-/
import SwatchIndex.Proofs.Clauses

namespace SwatchIndex

namespace Declaration

namespace Cursor

/-! ### The first terminator from a place on -/

theorem findIdx_append_cut {v y : Text} (hv : Unbroken v) (hy : Cut y) :
    (v ++ y).findIdx isTerminator = v.length := by
  induction v with
  | nil =>
      cases y with
      | nil => rfl
      | cons c rest => simp [List.findIdx_cons, cut_cons.mp hy]
  | cons c rest ih =>
      obtain ⟨hc, hrest⟩ := unbroken_cons.mp hv
      rw [List.cons_append, List.findIdx_cons, hc, ih hrest]
      rfl

theorem findStop_succ {text : Text} {i : Nat} (h : i < findStop text i) :
    findStop text (i + 1) = findStop text i := by
  have hi : i < text.length := by
    by_contra hge
    rw [findStop, List.drop_eq_nil_of_le (Nat.le_of_not_lt hge)] at h
    simp at h
  have hcons : text.drop i = text[i] :: text.drop (i + 1) := List.drop_eq_getElem_cons hi
  unfold findStop at h ⊢
  rw [hcons, List.findIdx_cons] at h ⊢
  cases hc : isTerminator text[i] with
  | true => rw [hc] at h; simp at h
  | false =>
      simp only [cond_false]
      omega

/-- Up to the first terminator, every place has the same first terminator. -/
theorem findStop_of_le {text : Text} {i j : Nat} (hij : i ≤ j) (hj : j ≤ findStop text i) :
    findStop text j = findStop text i := by
  induction j, hij using Nat.le_induction with
  | base => rfl
  | succ j _ ih =>
      have hprev : findStop text j = findStop text i := ih (by omega)
      rw [← hprev] at hj ⊢
      exact findStop_succ (by omega)

/-! ### Sound cursors -/

/-- What a scan relies on wherever its cursor stands. -/
structure Sound (text : Text) (c : Cursor) : Prop where
  /-- The cursor is not inside an identifier, or stands on a closing brace. -/
  fresh : nameBefore text c.pos = false ∨ text[c.pos]? = some '}'
  /-- The terminator found last is passed, or is the first one from the cursor on. -/
  ahead : ∀ s, c.stop = some s → c.pos ≤ s → findStop text c.pos = s

theorem sound_start (text : Text) : Sound text start :=
  ⟨Or.inl rfl, fun s hs _ => by simp [start] at hs⟩

/-- Whether it is searched for or taken from the cursor, the terminator is the first one. -/
theorem Sound.stopFrom_eq {text : Text} {c : Cursor} (h : Sound text c) {i : Nat}
    (hi : c.pos ≤ i) : c.stopFrom text i = findStop text i := by
  unfold stopFrom
  split
  · rename_i s hs
    split
    · rename_i his
      have hahead : findStop text c.pos = s := h.ahead s hs (by omega)
      rw [findStop_of_le hi (by omega), hahead]
    · rfl
  · rfl

/-- What precedes a sound cursor hides no clause behind it. -/
theorem Sound.clausesAfter_eq {text : Text} {c : Cursor} (h : Sound text c) :
    clausesAfter (nameBefore text c.pos) (text.drop c.pos) = clauses (text.drop c.pos) := by
  rcases h.fresh with hfresh | hbrace
  · rw [hfresh, clausesAfter_false]
  · have hdrop : text.drop c.pos = '}' :: text.drop (c.pos + 1) := by
      obtain ⟨hlt, hval⟩ := List.getElem?_eq_some_iff.mp hbrace
      rw [List.drop_eq_getElem_cons hlt, hval]
    rw [hdrop, clausesAfter_terminator (by decide), clauses_terminator (by decide)]

end Cursor

/-! ### One step -/

/-- What a step has to do with the clauses of the text `t` from its cursor on. -/
def Step.Reads (text t : Text) : Step → Prop
  | .finished => clauses t = []
  | .passed next => clauses t = clauses (text.drop next.pos) ∧ next.Sound text
  | .declared name value code next =>
    clauses t = ⟨name, value, code⟩ :: clauses (text.drop next.pos) ∧ next.Sound text

theorem Step.Reads.congr {text t u : Text} {s : Step} (h : s.Reads text t)
    (hclauses : clauses u = clauses t) : s.Reads text u := by
  cases s <;> simp only [Step.Reads, hclauses] at h ⊢ <;> exact h

namespace Cursor

theorem value?_eq {text v y : Text} {first : Nat} (h : text.drop first = v ++ y) :
    value? text first (first + v.length) =
      if Text.strip v = [] then none else some (Text.strip v) := by
  unfold value?
  rw [h, Nat.add_sub_cancel_left, List.take_left]
  split
  · rename_i hnil
    rw [if_pos hnil]
  · rename_i hne
    rw [if_neg fun hnil => hne hnil]

/-- A name is passed over where its value runs to the text's end. -/
theorem settle_reads_of_unbroken {text y name : Text} {first : Nat}
    (hhead : headingAt? false y = some (name, text.drop first))
    (hfresh : nameBefore text first = false) (hv : Unbroken (text.drop first)) :
    (settle text name first (findStop text first)).Reads text y := by
  have hstop : findStop text first = first + (text.drop first).length := by
    have hidx := findIdx_append_cut hv (y := []) (fun c hc => by simp at hc)
    rw [List.append_nil] at hidx
    rw [findStop, hidx]
  have hnone : text[findStop text first]? = none := by
    rw [hstop, List.getElem?_eq_none_iff, List.length_drop]
    omega
  unfold settle
  rw [hnone]
  refine ⟨?_, Or.inl hfresh, fun s hs _ => Option.some.inj hs⟩
  rw [clauses_of_heading_unbroken hhead hv, ← clausesAfter_false, clausesAfter_of_unbroken hv]

/-- The value that starts at `first` is `v`, and `c` ends it. -/
structure Ends (text : Text) (first : Nat) (v : Text) (c : Char) (rest : Text) : Prop where
  drop_first : text.drop first = v ++ c :: rest
  unbroken : Unbroken v
  terminator : isTerminator c = true

namespace Ends

variable {text y name v rest : Text} {first : Nat} {c : Char}

theorem findStop_first (h : Ends text first v c rest) :
    findStop text first = first + v.length := by
  rw [findStop, h.drop_first, findIdx_append_cut h.unbroken (cut_cons.mpr h.terminator)]

theorem getElem?_stop (h : Ends text first v c rest) : text[first + v.length]? = some c := by
  rw [← List.getElem?_drop, h.drop_first, List.getElem?_append_right (Nat.le_refl _)]
  simp

theorem drop_stop (h : Ends text first v c rest) : text.drop (first + v.length + 1) = rest := by
  rw [Nat.add_assoc, ← List.drop_drop, h.drop_first]
  simp

/-- Behind a terminator a scan may go on. -/
theorem sound_behind (h : Ends text first v c rest) :
    Sound text ⟨first + v.length + 1, some (first + v.length)⟩ := by
  refine ⟨Or.inl ?_, fun s hs hle => ?_⟩
  · show text[first + v.length]?.any isNameChar = false
    rw [h.getElem?_stop, Option.any_some, not_isNameChar_of_isTerminator h.terminator]
  · rw [← Option.some.inj hs] at hle
    exact absurd hle (Nat.not_succ_le_self _)

/-- Behind a colour comment a scan may go on. -/
theorem sound_behind_comment (h : Ends text first v c rest) {code : Text} {width : Nat}
    (hcomment : colorComment? rest = some (code, width)) :
    Sound text ⟨first + v.length + 1 + width, some (first + v.length)⟩ := by
  obtain ⟨x, more, hrest, -, rfl⟩ := colorComment?_eq_some hcomment
  refine ⟨Or.inl ?_, fun s hs hle => ?_⟩
  · show text[first + v.length + 1 + x.length]?.any isNameChar = false
    rw [← List.getElem?_drop, h.drop_stop, hrest, List.getElem?_append_right (Nat.le_refl _)]
    simp only [Nat.sub_self, List.getElem?_cons_zero, Option.any_some]
    decide
  · rw [← Option.some.inj hs] at hle
    simp only at hle
    omega

/-- A scan may go on at a closing brace. -/
theorem sound_at_brace (h : Ends text first v '}' rest) :
    Sound text ⟨first + v.length, some (first + v.length)⟩ := by
  refine ⟨Or.inr h.getElem?_stop, fun s hs _ => ?_⟩
  rw [← Option.some.inj hs, ← h.findStop_first]
  exact findStop_of_le (le_findStop text first) (Nat.le_refl _)

theorem clauses_eq (h : Ends text first v c rest)
    (hhead : headingAt? false y = some (name, text.drop first)) :
    clauses y =
      (Segment.close? ⟨v, some c, rest⟩ name (Text.strip v)).toList ++ clauses rest := by
  rw [h.drop_first] at hhead
  exact clauses_of_heading hhead h.unbroken h.terminator

theorem passed_reads (h : Ends text first v c rest)
    (hhead : headingAt? false y = some (name, text.drop first))
    (hfresh : nameBefore text first = false)
    (hnone : Segment.close? ⟨v, some c, rest⟩ name (Text.strip v) = none) :
    (Step.passed ⟨first, some (first + v.length)⟩).Reads text y := by
  refine ⟨?_, Or.inl hfresh, fun s hs _ => ?_⟩
  · rw [h.clauses_eq hhead, hnone, h.drop_first,
      clauses_of_close?_eq_none h.unbroken h.terminator hnone]
    rfl
  · rw [h.findStop_first]
    exact Option.some.inj hs

/-- At a terminator, a name is declared if its segment closes it, and else passed over. -/
theorem settle_reads (h : Ends text first v c rest)
    (hhead : headingAt? false y = some (name, text.drop first))
    (hfresh : nameBefore text first = false) :
    (settle text name first (findStop text first)).Reads text y := by
  have hpassed := h.passed_reads hhead hfresh
  have hclauses := h.clauses_eq hhead
  have hterm := h.terminator
  unfold settle
  rw [h.findStop_first, h.getElem?_stop, value?_eq h.drop_first, h.drop_stop]
  simp only [isTerminator, Bool.or_eq_true, beq_iff_eq] at hterm
  by_cases hblank : Text.strip v = []
  · rw [if_pos hblank]
    rcases hterm with (rfl | rfl) | rfl <;> exact hpassed (by simp [Segment.close?, hblank])
  · rw [if_neg hblank]
    simp only [Segment.close?, if_neg hblank] at hclauses
    rcases hterm with (rfl | rfl) | rfl
    · cases hcomment : colorComment? rest with
      | none =>
          rw [hcomment] at hclauses
          exact ⟨by rw [hclauses, h.drop_stop]; rfl, h.sound_behind⟩
      | some found =>
          obtain ⟨code, width⟩ := found
          rw [hcomment] at hclauses
          refine ⟨?_, h.sound_behind_comment hcomment⟩
          rw [← List.drop_drop, h.drop_stop, clauses_drop_colorComment hcomment, hclauses]
          rfl
    · exact hpassed (by simp [Segment.close?])
    · refine ⟨?_, h.sound_at_brace⟩
      have hdrop : text.drop (first + v.length) = '}' :: rest := by
        rw [← List.drop_drop, h.drop_first, List.drop_left]
      rw [hdrop, clauses_terminator (by decide), hclauses]
      rfl

end Ends

/-- Where the next name stands, and that the scan looks for its value behind a colon. -/
theorem next?_eq_some {text name : Text} {c : Cursor} {first : Nat} (hc : c.Sound text)
    (h : c.next? text = some (name, first)) :
    ∃ y, headingAt? false y = some (name, text.drop first) ∧
      clauses (text.drop c.pos) = clauses y ∧ nameBefore text first = false := by
  simp only [next?, Option.map_eq_some_iff, Prod.mk.injEq, Prod.exists] at h
  obtain ⟨i, head, hfound, rfl, rfl⟩ := h
  obtain ⟨x, y, hxy, hi, hhead, hclauses⟩ := clausesAfter_of_search hfound
  rw [hc.clausesAfter_eq] at hclauses
  rw [head?_eq, Option.map_eq_some_iff] at hhead
  obtain ⟨⟨name, value⟩, hheading, rfl⟩ := hhead
  obtain ⟨lead, rfl, -⟩ := headingAt?_eq_some hheading
  -- The value stands behind what precedes the cursor, then `x`, then the heading and its colon.
  have hfirst : i + ((lead ++ ':' :: value).length - value.length) =
      c.pos + (x.length + lead.length) + 1 := by
    simp only [List.length_append, List.length_cons, hi]
    omega
  have hcolon : text.drop (c.pos + (x.length + lead.length)) = ':' :: value := by
    rw [← List.drop_drop, hxy, ← List.drop_drop, List.drop_left, List.drop_left]
  refine ⟨lead ++ ':' :: value, ?_, hclauses, ?_⟩
  · show headingAt? false (lead ++ ':' :: value) = some (name, text.drop _)
    rw [hfirst, ← List.drop_drop, hcolon, hheading]
    rfl
  · show nameBefore text (i + ((lead ++ ':' :: value).length - value.length)) = false
    rw [hfirst]
    show text[c.pos + (x.length + lead.length)]?.any isNameChar = false
    rw [← List.head?_drop, hcolon, List.head?_cons, Option.any_some]
    decide

theorem step_reads {text : Text} {c : Cursor} (hc : c.Sound text) :
    (c.step text).Reads text (text.drop c.pos) := by
  unfold step
  split
  · rename_i hnone
    simp only [next?, Option.map_eq_none_iff] at hnone
    show clauses (text.drop c.pos) = []
    rw [← hc.clausesAfter_eq, clausesAfter_of_search_eq_none hnone]
  · rename_i name first hfound
    obtain ⟨y, hhead, hclauses, hfresh⟩ := next?_eq_some hc hfound
    have hpos : c.pos ≤ first := Nat.le_of_lt (lt_of_next? hfound).1
    have hreads : (settle text name first (findStop text first)).Reads text y := by
      obtain ⟨v, z, hdrop, hv, hz⟩ := exists_unbroken_cut (text.drop first)
      cases z with
      | nil =>
          rw [List.append_nil] at hdrop
          exact settle_reads_of_unbroken hhead hfresh (hdrop ▸ hv)
      | cons d rest => exact Ends.settle_reads ⟨hdrop, hv, cut_cons.mp hz⟩ hhead hfresh
    rw [hc.stopFrom_eq hpos]
    exact hreads.congr hclauses

end Cursor

/-! ### A whole scan -/

/-- As many of the items as the budget allows. -/
def within (budget : Option Nat) (items : List α) : List α :=
  match budget with
  | none => items
  | some n => items.take n

theorem within_nil (budget : Option Nat) : within budget ([] : List α) = [] := by
  cases budget <;> simp [within]

theorem within_cons {budget : Option Nat} (h : budget ≠ some 0) (a : α) (items : List α) :
    within budget (a :: items) = a :: within (budget.map (· - 1)) items := by
  cases budget with
  | none => rfl
  | some n =>
      cases n with
      | zero => exact absurd rfl h
      | succ n => rfl

/-- **From a sound cursor on, a scan makes the definitions of the clauses that are left**, as many
as its budget allows, up to the first error. -/
theorem scanFrom_eq {text : Text} {source : Option Text} {budget : Option Nat} {c : Cursor}
    (hc : c.Sound text) :
    scanFrom text source budget c =
      Scan.ofOutcomes
        ((within budget (clauses (text.drop c.pos))).map (Clause.outcome source)) := by
  fun_induction scanFrom text source budget c with
  | case1 c => rfl
  | case2 budget c hbudget hstep =>
      have hreads := Cursor.step_reads hc
      rw [hstep] at hreads
      have hnil : clauses (text.drop c.pos) = [] := hreads
      rw [hnil, within_nil]
      rfl
  | case3 budget c hbudget next hstep ih =>
      have hreads := Cursor.step_reads hc
      rw [hstep] at hreads
      obtain ⟨hclauses, hnext⟩ := hreads
      rw [hclauses, ih hnext]
  | case4 budget c hbudget name value code next hstep cause hcolor =>
      have hreads := Cursor.step_reads hc
      rw [hstep] at hreads
      obtain ⟨hclauses, -⟩ := hreads
      have herror : Clause.outcome source ⟨name, value, code⟩ = .error cause := by
        simp only [Clause.outcome, hcolor]
        rfl
      rw [hclauses, within_cons hbudget, List.map_cons, herror]
      rfl
  | case5 budget c hbudget name value code next hstep shade hcolor ih =>
      have hreads := Cursor.step_reads hc
      rw [hstep] at hreads
      obtain ⟨hclauses, hnext⟩ := hreads
      have hok : Clause.outcome source ⟨name, value, code⟩ = .ok ⟨name, value, shade, source⟩ := by
        simp only [Clause.outcome, hcolor]
        rfl
      rw [hclauses, within_cons hbudget, List.map_cons, hok, ih hnext]
      rfl

/-- Taken as a whole, a scan is all definitions or the first error. -/
theorem result_ofOutcomes (f : Clause → Except OverlongNumeral Definition) (ks : List Clause) :
    (Scan.ofOutcomes (ks.map f)).result = ks.mapM f := by
  induction ks with
  | nil => rfl
  | cons k rest ih =>
      rw [List.map_cons, List.mapM_cons]
      cases hk : f k with
      | error cause => rfl
      | ok d =>
          show (Scan.ofOutcomes (rest.map f)).result.map (d :: ·) = _
          rw [ih]
          cases rest.mapM f <;> rfl

/-- The part of a text that is scanned is read from its start, within the budget. -/
theorem scan_eq (text : Text) (source : Option Text) (limits : ScanLimits) :
    scan text source limits =
      Scan.ofOutcomes ((within (limits.count.map Int.toNat) (clauses (limits.cut text))).map
        (Clause.outcome source)) :=
  scanFrom_eq (Cursor.sound_start _)

/-- The same of the scan as a whole. -/
theorem parse_eq (text : Text) (source : Option Text) (limits : ScanLimits) :
    parse text source limits =
      (within (limits.count.map Int.toNat) (clauses (limits.cut text))).mapM
        (Clause.outcome source) := by
  rw [parse, scan_eq, result_ofOutcomes]

/--
**A scan finds what the segments of its text declare**, in the order of the text, none missing and
none twice.  It ends with an error exactly at the first clause whose colour is one, and then the
definitions before it have been found.
-/
theorem scan_reads_segments (text : Text) (source : Option Text) :
    scan text source {} = Scan.ofOutcomes ((clauses text).map (Clause.outcome source)) ∧
      parse text source {} = (clauses text).mapM (Clause.outcome source) := by
  have hscan : scan text source {} =
      Scan.ofOutcomes ((clauses text).map (Clause.outcome source)) := scan_eq text source {}
  refine ⟨hscan, ?_⟩
  rw [parse, hscan, result_ofOutcomes]

/-- A selector, a value that a comment colours, and one that the block's end closes. -/
example : clauses "a--b:c\x7b--d:1;/*#abc*/--e:x\x7d".toList =
    [⟨"--d".toList, "1".toList, some "#abc".toList⟩, ⟨"--e".toList, "x".toList, none⟩] := by
  decide

end Declaration

end SwatchIndex
