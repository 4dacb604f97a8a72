/-
A scan searches each part of its text for a terminator once.

The cursor keeps the terminator that was found last, and a step uses it again for as long as it is
not passed.  `iterations` lists the cursors at which a scan goes round its loop, and a scan is what
these iterations declare, one after the other (`scanFrom_eq_declared`).  So what is said about them
is said about the scan.

Two inductions along the loop carry everything.  What a step keeps is true at every iteration if it
is true at the first (`forall_mem_iterations`), and what a step starts and the steps behind it keep
is true of every two iterations (`pairwise_iterations`).  By the first, every cursor is sound, so
the terminator is the right one whether it is searched for or used again.  By the second, the
terminator in hand never moves back (`Carries`).  A search is made only behind the terminator in
hand, so it lies behind all that was searched before.
-/
import SwatchIndex.Proofs.Scanning
import Mathlib.Data.List.Chain

namespace SwatchIndex

namespace Declaration

/-! ### The iterations of a scan -/

/-- The budget and the cursor with which a scan goes on behind an iteration.  It does not go on
behind the last name, nor behind an error of the colour. -/
def onward? (text : Text) (budget : Option Nat) (c : Cursor) : Option (Option Nat × Cursor) :=
  match c.step text with
  | .finished => none
  | .passed next => some (budget, next)
  | .declared _ value code next =>
    match color value code with
    | .error _ => none
    | .ok _ => some (budget.map (· - 1), next)

theorem step_of_onward? {text : Text} {budget left : Option Nat} {c next : Cursor}
    (h : onward? text budget c = some (left, next)) : (c.step text).cursor? = some next := by
  unfold onward? at h
  split at h
  · simp at h
  · rename_i hstep
    simp only [Option.some.injEq, Prod.mk.injEq] at h
    rw [hstep, ← h.2]
    rfl
  · rename_i hstep
    split at h
    · simp at h
    · simp only [Option.some.injEq, Prod.mk.injEq] at h
      rw [hstep, ← h.2]
      rfl

/-- The cursors at which a scan goes round its loop, until its budget is used up. -/
def iterations (text : Text) (budget : Option Nat) (c : Cursor) : List Cursor :=
  if budget = some 0 then []
  else
    match _h : onward? text budget c with
    | none => [c]
    | some (left, next) => c :: iterations text left next
termination_by text.length - c.pos
decreasing_by
  have forward : c.pos < next.pos ∧ c.pos < text.length :=
    Cursor.pos_lt_of_step (step_of_onward? _h)
  omega

theorem iterations_of_last {text : Text} {budget : Option Nat} {c : Cursor}
    (hbudget : budget ≠ some 0) (h : onward? text budget c = none) :
    iterations text budget c = [c] := by
  rw [iterations, if_neg hbudget]
  split
  · rfl
  · rename_i hsome
    simp [h] at hsome

theorem iterations_of_onward {text : Text} {budget left : Option Nat} {c next : Cursor}
    (hbudget : budget ≠ some 0) (h : onward? text budget c = some (left, next)) :
    iterations text budget c = c :: iterations text left next := by
  rw [iterations, if_neg hbudget]
  split
  · rename_i hnone
    simp [h] at hnone
  · rename_i hsome
    simp only [h, Option.some.injEq, Prod.mk.injEq] at hsome
    rw [hsome.1, hsome.2]

/-- What an iteration declares. -/
def Cursor.declared? (text : Text) (source : Option Text) (c : Cursor) :
    Option (Except OverlongNumeral Definition) :=
  match c.step text with
  | .declared name value code _ => some (Clause.outcome source ⟨name, value, code⟩)
  | _ => none

/-- **A scan is what its iterations declare**, one after the other. -/
theorem scanFrom_eq_declared (text : Text) (source : Option Text) (budget : Option Nat)
    (c : Cursor) :
    scanFrom text source budget c =
      Scan.ofOutcomes ((iterations text budget c).filterMap (Cursor.declared? text source)) := by
  fun_induction scanFrom text source budget c with
  | case1 c => rw [iterations, if_pos rfl]; rfl
  | case2 budget c hbudget hstep =>
      have honward : onward? text budget c = none := by simp only [onward?, hstep]
      have hdeclared : c.declared? text source = none := by simp only [Cursor.declared?, hstep]
      rw [iterations_of_last hbudget honward, List.filterMap_cons_none hdeclared]
      rfl
  | case3 budget c hbudget next hstep ih =>
      have honward : onward? text budget c = some (budget, next) := by simp only [onward?, hstep]
      have hdeclared : c.declared? text source = none := by simp only [Cursor.declared?, hstep]
      rw [iterations_of_onward hbudget honward, List.filterMap_cons_none hdeclared, ih]
  | case4 budget c hbudget name value code next hstep cause hcolor =>
      have honward : onward? text budget c = none := by simp only [onward?, hstep, hcolor]
      have hdeclared : c.declared? text source = some (.error cause) := by
        simp only [Cursor.declared?, hstep, Clause.outcome, hcolor]
        rfl
      rw [iterations_of_last hbudget honward, List.filterMap_cons_some hdeclared]
      rfl
  | case5 budget c hbudget name value code next hstep shade hcolor ih =>
      have honward : onward? text budget c = some (budget.map (· - 1), next) := by
        simp only [onward?, hstep, hcolor]
      have hdeclared : c.declared? text source = some (.ok ⟨name, value, shade, source⟩) := by
        simp only [Cursor.declared?, hstep, Clause.outcome, hcolor]
        rfl
      rw [iterations_of_onward hbudget honward, List.filterMap_cons_some hdeclared, ih]
      rfl

/-! ### Along the loop -/

/-- What a step keeps is true at every iteration. -/
theorem forall_mem_iterations {text : Text} {P : Cursor → Prop}
    (hstep : ∀ c next, P c → (c.step text).cursor? = some next → P next) {budget : Option Nat}
    {c : Cursor} (h : P c) : ∀ c' ∈ iterations text budget c, P c' := by
  fun_induction iterations text budget c with
  | case1 c => simp
  | case2 budget c hbudget honward => simpa using h
  | case3 budget c hbudget left next honward ih =>
      intro c' hc'
      rcases List.mem_cons.mp hc' with rfl | hlater
      · exact h
      · exact ih (hstep c next h (step_of_onward? honward)) c' hlater

/-- What a step starts and the steps behind it keep is true of every two iterations. -/
theorem pairwise_iterations {text : Text} {R : Cursor → Cursor → Prop}
    (hnext : ∀ c next, (c.step text).cursor? = some next → R c next)
    (hstep : ∀ c c' next, R c c' → (c'.step text).cursor? = some next → R c next)
    (budget : Option Nat) (c : Cursor) : (iterations text budget c).Pairwise R := by
  fun_induction iterations text budget c with
  | case1 c => exact List.Pairwise.nil
  | case2 budget c hbudget honward => exact List.pairwise_singleton R c
  | case3 budget c hbudget left next honward ih =>
      refine List.pairwise_cons.mpr ⟨?_, ih⟩
      exact forall_mem_iterations (hstep c) (hnext c next (step_of_onward? honward))

theorem head?_iterations (text : Text) (budget : Option Nat) (c : Cursor) :
    ∀ c' ∈ (iterations text budget c).head?, c' = c := by
  intro c' hc'
  rw [iterations] at hc'
  split at hc'
  · simp at hc'
  · split at hc' <;> simpa using hc'.symm

/-- Each iteration starts where the step of the one before it leads. -/
theorem isChain_iterations (text : Text) (budget : Option Nat) (c : Cursor) :
    (iterations text budget c).IsChain fun c next => (c.step text).cursor? = some next := by
  fun_induction iterations text budget c with
  | case1 c => exact List.IsChain.nil
  | case2 budget c hbudget honward => exact List.IsChain.singleton c
  | case3 budget c hbudget left next honward ih =>
      refine ih.cons ?_
      intro c' hc'
      rw [head?_iterations text left next c' hc']
      exact step_of_onward? honward

/-- A scan goes round its loop at most once for each character that is left, and once more. -/
theorem length_iterations_le (text : Text) (budget : Option Nat) (c : Cursor) :
    (iterations text budget c).length ≤ text.length - c.pos + 1 := by
  fun_induction iterations text budget c with
  | case1 c => simp
  | case2 budget c hbudget honward => simp
  | case3 budget c hbudget left next honward ih =>
      have forward := Cursor.pos_lt_of_step (step_of_onward? honward)
      rw [List.length_cons]
      omega

/-- No scan of a text goes on forever, wherever its cursor stands. -/
theorem wellFounded_step (text : Text) :
    WellFounded fun next c : Cursor => (c.step text).cursor? = some next := by
  refine Subrelation.wf ?_ (measure fun c : Cursor => text.length - c.pos).wf
  intro next c hstep
  have forward := Cursor.pos_lt_of_step hstep
  show text.length - next.pos < text.length - c.pos
  omega

namespace Cursor

/-! ### The terminator in hand -/

/-- `stop` is the first place from `first` on where a terminator stands, or the text's end if there
is none. -/
structure IsFirstStop (text : Text) (first stop : Nat) : Prop where
  behind : first ≤ stop
  inside : stop ≤ text.length
  clear : ∀ i c, first ≤ i → i < stop → text[i]? = some c → c ∉ [';', '{', '}']
  ends : stop < text.length → ∃ c ∈ [';', '{', '}'], text[stop]? = some c

theorem mem_terminators_iff {c : Char} : c ∈ [';', '{', '}'] ↔ isTerminator c = true := by
  simp [isTerminator, or_assoc]

theorem isFirstStop_findStop {text : Text} {first : Nat} (h : first ≤ text.length) :
    IsFirstStop text first (findStop text first) := by
  have hlength : (text.drop first).length = text.length - first := List.length_drop
  have hle : (text.drop first).findIdx isTerminator ≤ (text.drop first).length :=
    List.findIdx_le_length
  refine ⟨le_findStop text first, ?_, ?_, ?_⟩
  · unfold findStop
    omega
  · intro i c hfirst hi hc hmem
    have hlt : i - first < (text.drop first).findIdx isTerminator := by
      unfold findStop at hi
      omega
    have hget : (text.drop first)[i - first]? = some c := by
      rw [List.getElem?_drop, Nat.add_sub_cancel' hfirst, hc]
    obtain ⟨hbound, hval⟩ := List.getElem?_eq_some_iff.mp hget
    have hnot := List.not_of_lt_findIdx hlt
    rw [hval, mem_terminators_iff.mp hmem] at hnot
    simp at hnot
  · intro hstop
    have hlt : (text.drop first).findIdx isTerminator < (text.drop first).length := by
      unfold findStop at hstop
      omega
    refine ⟨(text.drop first)[(text.drop first).findIdx isTerminator], ?_, ?_⟩
    · exact mem_terminators_iff.mpr (List.findIdx_getElem)
    · rw [findStop, ← List.getElem?_drop, List.getElem?_eq_getElem hlt]

theorem Sound.step {text : Text} {c next : Cursor} (h : c.Sound text)
    (hstep : (c.step text).cursor? = some next) : next.Sound text := by
  have hreads := step_reads h
  cases hc : c.step text with
  | finished => simp [hc, Step.cursor?] at hstep
  | passed next' =>
      rw [hc] at hreads hstep
      obtain rfl := Option.some.inj hstep
      exact hreads.2
  | declared name value code next' =>
      rw [hc] at hreads hstep
      obtain rfl := Option.some.inj hstep
      exact hreads.2

/-- A step at a name leaves the name's terminator in hand. -/
theorem stop_of_settle {text name : Text} {first stop : Nat} {c : Cursor}
    (h : (settle text name first stop).cursor? = some c) : c.stop = some stop := by
  unfold settle at h
  split at h
  · split at h <;> cases h <;> rfl
  · split at h <;> cases h <;> rfl
  · cases h
    rfl

theorem stop_of_step {text : Text} {c next : Cursor} (h : (c.step text).cursor? = some next) :
    ∃ name first, c.next? text = some (name, first) ∧ next.stop = some (c.stopFrom text first) := by
  unfold Cursor.step at h
  split at h
  · cases h
  · rename_i name first hfound
    exact ⟨name, first, hfound, stop_of_settle h⟩

/-! ### Searches -/

/-- A search for a terminator, from the start of a value to the terminator. -/
structure Search where
  first : Nat
  stop : Nat
deriving DecidableEq, Repr

/-- Whether a search looks at the character at a place. -/
def Search.reads (s : Search) (i : Nat) : Bool := s.first ≤ i && i ≤ s.stop

/-- The search that an iteration makes.  It makes none without a further name, and none if the
terminator in hand is not yet passed. -/
def search? (text : Text) (c : Cursor) : Option Search :=
  (c.next? text).bind fun (_, first) =>
    if c.stop.any (first ≤ ·) then none else some ⟨first, findStop text first⟩

/-- The terminator of a value is searched for behind the one in hand, or it is the one in hand. -/
theorem search?_of_next? {text name : Text} {c : Cursor} {first : Nat}
    (h : c.next? text = some (name, first)) :
    (c.search? text = some ⟨first, c.stopFrom text first⟩ ∧ ∀ s ∈ c.stop, s < first) ∨
      (c.search? text = none ∧ c.stop = some (c.stopFrom text first)) := by
  unfold search? stopFrom
  rw [h, Option.bind_some]
  cases hstop : c.stop with
  | none => left; simp
  | some s =>
      by_cases hs : first ≤ s
      · right; simp [hs]
      · left; simp [hs]; omega

theorem search?_eq_some {text : Text} {c : Cursor} {s : Search} (h : c.search? text = some s) :
    ∃ name, c.next? text = some (name, s.first) ∧ s.stop = c.stopFrom text s.first ∧
      ∀ stop ∈ c.stop, stop < s.first := by
  obtain ⟨⟨name, first⟩, hnext, -⟩ := Option.bind_eq_some_iff.mp h
  rcases search?_of_next? hnext with ⟨hsearch, hbehind⟩ | ⟨hnone, -⟩
  · rw [h, Option.some.injEq] at hsearch
    subst hsearch
    exact ⟨name, hnext, rfl, hbehind⟩
  · rw [h] at hnone
    simp at hnone

/-- The terminator in hand does not move back. -/
theorem le_stopFrom_of_stop {text : Text} {c : Cursor} {stop : Nat} (h : c.stop = some stop)
    (first : Nat) : stop ≤ c.stopFrom text first := by
  have hle := le_stopFrom text c first
  unfold stopFrom at hle ⊢
  simp only [h] at hle ⊢
  split
  · exact Nat.le_refl _
  · rename_i hpassed
    rw [if_neg hpassed] at hle
    omega

/-- The terminator of an iteration, or one behind it, is in hand at a later one. -/
def Carries (text : Text) (c c' : Cursor) : Prop :=
  ∀ name first, c.next? text = some (name, first) →
    ∃ stop, c'.stop = some stop ∧ c.stopFrom text first ≤ stop

theorem carries_of_step {text : Text} {c next : Cursor} (h : (c.step text).cursor? = some next) :
    Carries text c next := by
  intro name first hfound
  obtain ⟨name', first', hfound', hstop⟩ := stop_of_step h
  rw [hfound, Option.some.injEq, Prod.mk.injEq] at hfound'
  exact ⟨_, hstop, by rw [hfound'.2]⟩

theorem Carries.step {text : Text} {c c' next : Cursor} (h : Carries text c c')
    (hstep : (c'.step text).cursor? = some next) : Carries text c next := by
  intro name first hfound
  obtain ⟨stop, hstop, hle⟩ := h name first hfound
  obtain ⟨-, first', -, hnext⟩ := stop_of_step hstep
  exact ⟨_, hnext, Nat.le_trans hle (le_stopFrom_of_stop hstop first')⟩

/-- A later search starts behind the end of an earlier one. -/
theorem Carries.stop_lt_first {text : Text} {c c' : Cursor} {s s' : Search}
    (h : Carries text c c') (hs : c.search? text = some s) (hs' : c'.search? text = some s') :
    s.stop < s'.first := by
  obtain ⟨name, hfound, hstop, -⟩ := search?_eq_some hs
  obtain ⟨-, -, -, hbehind⟩ := search?_eq_some hs'
  obtain ⟨stop, hhand, hle⟩ := h name s.first hfound
  have hlt : stop < s'.first := hbehind stop hhand
  omega

/-- Searches that lie one behind the other look at no character twice. -/
theorem countP_reads_le_one {searches : List Search}
    (h : searches.Pairwise fun s s' => s.stop < s'.first) (i : Nat) :
    searches.countP (fun s => s.reads i) ≤ 1 := by
  induction searches with
  | nil => simp
  | cons s rest ih =>
      obtain ⟨hs, hrest⟩ := List.pairwise_cons.mp h
      by_cases hread : s.reads i = true
      · have hnone : rest.countP (fun s => s.reads i) = 0 := by
          rw [List.countP_eq_zero]
          intro s' hs'
          have hlt := hs s' hs'
          simp only [Search.reads, Bool.and_eq_true, decide_eq_true_eq] at hread ⊢
          omega
        rw [List.countP_cons, hnone, if_pos hread]
      · rw [List.countP_cons, if_neg hread]
        exact ih hrest

end Cursor

/-- The cursors at which the scan of a stylesheet goes round its loop. -/
def loop (text : Text) (limits : ScanLimits) : List Cursor :=
  iterations (limits.cut text) (limits.count.map Int.toNat) .start

open Cursor in
/--
**A scan reads each character at most once to find terminators.**  At every iteration that finds a
name, the terminator in hand is the first one from the value's start on, or the text's end, whether
it was searched for just now or used again.  Places rise from iteration to iteration, so the scan
ends on every text.  And each search starts behind the terminators that were found before, so no two
searches overlap.
-/
theorem terminators_searched_once (text : Text) (source : Option Text) (limits : ScanLimits) :
    scan text source limits =
        Scan.ofOutcomes ((loop text limits).filterMap (declared? (limits.cut text) source)) ∧
      (∀ c ∈ loop text limits, ∀ name first, c.next? (limits.cut text) = some (name, first) →
        IsFirstStop (limits.cut text) first (c.stopFrom (limits.cut text) first) ∧
          ((c.search? (limits.cut text) = some ⟨first, c.stopFrom (limits.cut text) first⟩ ∧
              ∀ stop ∈ c.stop, stop < first) ∨
            (c.search? (limits.cut text) = none ∧
              c.stop = some (c.stopFrom (limits.cut text) first)))) ∧
      ((loop text limits).IsChain fun c next =>
        (c.step (limits.cut text)).cursor? = some next ∧ c.pos < next.pos) ∧
      (loop text limits).length ≤ (limits.cut text).length + 1 ∧
      (WellFounded fun next c : Cursor => (c.step (limits.cut text)).cursor? = some next) ∧
      (((loop text limits).filterMap (search? (limits.cut text))).Pairwise fun s s' =>
        s.stop < s'.first) ∧
      ∀ i, ((loop text limits).filterMap (search? (limits.cut text))).countP
        (fun s => s.reads i) ≤ 1 := by
  unfold loop
  have hscan := scanFrom_eq_declared (limits.cut text) source (limits.count.map Int.toNat) .start
  rw [← scan] at hscan
  generalize limits.cut text = scanned at hscan ⊢
  generalize limits.count.map Int.toNat = budget at hscan ⊢
  have hsound : ∀ c ∈ iterations scanned budget start, c.Sound scanned :=
    forall_mem_iterations (fun _ _ => Sound.step) (sound_start scanned)
  have hcarries : (iterations scanned budget start).Pairwise (Carries scanned) :=
    pairwise_iterations (fun _ _ => carries_of_step) (fun _ _ _ => Carries.step) budget start
  have hapart : ((iterations scanned budget start).filterMap (search? scanned)).Pairwise
      fun s s' => s.stop < s'.first := by
    rw [List.pairwise_filterMap]
    refine hcarries.imp ?_
    intro c c' h s hs s' hs'
    exact h.stop_lt_first hs hs'
  refine ⟨hscan, ?_, ?_, length_iterations_le scanned budget start, wellFounded_step scanned,
    hapart, countP_reads_le_one hapart⟩
  · intro c hc name first hfound
    obtain ⟨hpos, hinside⟩ := lt_of_next? hfound
    refine ⟨?_, search?_of_next? hfound⟩
    rw [(hsound c hc).stopFrom_eq (Nat.le_of_lt hpos)]
    exact isFirstStop_findStop hinside
  · exact (isChain_iterations scanned budget start).imp fun c next hstep =>
      ⟨hstep, (pos_lt_of_step hstep).1⟩

/-- Three names without a terminator behind them take one search. -/
example : (loop "--a:--b:--c:1".toList {}).filterMap (Cursor.search? "--a:--b:--c:1".toList) =
    [⟨4, 13⟩] := by
  cbv

end Declaration

end SwatchIndex
