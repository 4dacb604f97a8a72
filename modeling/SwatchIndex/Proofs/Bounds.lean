/-
What the bounds of a scan leave.

A scan may be bounded in two ways.  A bound on the number of definitions is looked at before each
name, and only definitions count.  So a bounded scan goes through the very steps of the unbounded
one until its budget is used up (`scanFrom_some`): it yields the same definitions, meets the same
error if that comes early enough, and never looks behind its last definition.

A bound on the length cuts the text.  The cut falls into one segment, which then ends at the text's
end and declares nothing.  The segments before it are whole, so they declare what they declared.
Just one thing can be lost: the colour comment behind the last semicolon in front of the cut, if the
cut falls into it.  Such a comment has no terminator in it, so what is left of it declares nothing,
and the declaration that has lost its comment is the last one (`clauses_take`).
-/
import SwatchIndex.Proofs.Joining
import SwatchIndex.Proofs.Outcomes
import SwatchIndex.Proofs.Printing

namespace SwatchIndex

/-! ### A bound on the number of definitions -/

namespace Scan

/-- The error that a scan ends with, if it ends with one. -/
def failure? : Scan → Option OverlongNumeral
  | .finished => none
  | .failed cause => some cause
  | .found _ rest => rest.failure?

/-- A scan that is left after its first `n` definitions. -/
def take : Nat → Scan → Scan
  | 0, _ => .finished
  | _ + 1, .finished => .finished
  | _ + 1, .failed cause => .failed cause
  | n + 1, .found d rest => .found d (rest.take n)

theorem answers_finished (n : Nat) : Scan.finished.answers n = List.replicate n .ended := by
  induction n with
  | zero => rfl
  | succ n ih => rw [answers, ih, List.replicate_succ]

/-- The first requests are answered as before, and all others with the end. -/
theorem answers_take (k n : Nat) (s : Scan) :
    (s.take k).answers n = s.answers (min n k) ++ List.replicate (n - k) .ended := by
  fun_induction take k s generalizing n with
  | case1 s =>
      rw [Nat.min_zero, answers, answers_finished, Nat.sub_zero, List.nil_append]
  | case2 k =>
      rw [answers_finished, answers_finished, List.replicate_append_replicate]
      congr 1
      omega
  | case3 k cause =>
      cases n with
      | zero => simp [answers]
      | succ n =>
          rw [Nat.add_min_add_right, Nat.add_sub_add_right, answers, answers, answers_finished,
            answers_finished, List.cons_append, List.replicate_append_replicate]
          congr 2
          omega
  | case4 k d rest ih =>
      cases n with
      | zero => simp [answers]
      | succ n =>
          rw [Nat.add_min_add_right, Nat.add_sub_add_right, answers, answers, ih, List.cons_append]

theorem definitions_take (k : Nat) (s : Scan) :
    (s.take k).definitions = s.definitions.take k := by
  fun_induction take k s with
  | case1 s => rfl
  | case2 k => rfl
  | case3 k cause => rfl
  | case4 k d rest ih => rw [definitions, definitions, ih, List.take_succ_cons]

/-- The error is met if it comes early enough. -/
theorem failure?_take (k : Nat) (s : Scan) :
    (s.take k).failure? = if s.definitions.length < k then s.failure? else none := by
  fun_induction take k s with
  | case1 s => rw [if_neg (Nat.not_lt_zero _)]; rfl
  | case2 k => simp [failure?]
  | case3 k cause => simp [definitions]
  | case4 k d rest ih => simp [failure?, definitions, ih]

/-- Taken as a whole, a scan is its error if it has one, and else its definitions. -/
theorem result_eq (s : Scan) :
    s.result =
      match s.failure? with
      | some cause => .error cause
      | none => .ok s.definitions := by
  induction s with
  | finished => rfl
  | failed cause => rfl
  | found d rest ih =>
      simp only [result, failure?, definitions, ih]
      cases rest.failure? <;> rfl

end Scan

namespace Declaration

/-- A scan whose budget is used up does not look further. -/
theorem scanFrom_zero (text : Text) (source : Option Text) (c : Cursor) :
    scanFrom text source (some 0) c = .finished := by
  rw [scanFrom, if_pos rfl]

/-- **A budget ends a scan and changes nothing else.** -/
theorem scanFrom_some (text : Text) (source : Option Text) (c : Cursor) :
    ∀ n : Nat, scanFrom text source (some n) c = (scanFrom text source none c).take n := by
  -- The induction follows the unbounded scan, so the budget that it carries is `none` throughout.
  generalize hbudget : (none : Option Nat) = budget
  fun_induction scanFrom text source budget c with
  | case1 c => cases hbudget
  | case2 budget c _ hstep =>
      intro n
      cases n with
      | zero => exact scanFrom_zero text source c
      | succ n => rw [scanFrom, if_neg (by simp), hstep]; rfl
  | case3 budget c _ next hstep ih =>
      intro n
      cases n with
      | zero => exact scanFrom_zero text source c
      | succ n => rw [scanFrom, if_neg (by simp), hstep]; exact ih hbudget (n + 1)
  | case4 budget c _ name value code next hstep cause hcolor =>
      intro n
      cases n with
      | zero => exact scanFrom_zero text source c
      | succ n => rw [scanFrom, if_neg (by simp), hstep]; simp only [hcolor]; rfl
  | case5 budget c _ name value code next hstep shade hcolor ih =>
      intro n
      subst hbudget
      cases n with
      | zero => exact scanFrom_zero text source c
      | succ n =>
          rw [scanFrom, if_neg (by simp), hstep]
          simp only [hcolor]
          exact congrArg (Scan.found _) (ih rfl n)

theorem scan_some (text : Text) (source : Option Text) (length : Option Int) (k : Int) :
    scan text source ⟨length, some k⟩ = (scan text source ⟨length, none⟩).take k.toNat :=
  scanFrom_some _ source .start k.toNat

/--
**A scan bounded to `k` definitions is the unbounded one up to its `k`th definition.**  It answers
the first `k` requests in the same way and all others with the end, so an error is met exactly if
fewer than `k` definitions come before it.  A bound that is not positive leaves nothing.  Taken as a
whole, the bounded scan is the first `k` definitions, or that error.
-/
theorem bounded_scan_agrees (text : Text) (source : Option Text) (length : Option Int) (k : Int) :
    (∀ n, (scan text source ⟨length, some k⟩).answers n =
      (scan text source ⟨length, none⟩).answers (min n k.toNat) ++
        List.replicate (n - k.toNat) .ended) ∧
      (scan text source ⟨length, some k⟩).definitions =
        (scan text source ⟨length, none⟩).definitions.take k.toNat ∧
      (∀ cause, (scan text source ⟨length, some k⟩).failure? = some cause ↔
        (scan text source ⟨length, none⟩).failure? = some cause ∧
          (scan text source ⟨length, none⟩).definitions.length < k.toNat) ∧
      (k ≤ 0 → scan text source ⟨length, some k⟩ = .finished) ∧
      parse text source ⟨length, some k⟩ =
        match (scan text source ⟨length, some k⟩).failure? with
        | some cause => .error cause
        | none => .ok ((scan text source ⟨length, none⟩).definitions.take k.toNat) := by
  have hbounded := scan_some text source length k
  have hdefinitions : (scan text source ⟨length, some k⟩).definitions =
      (scan text source ⟨length, none⟩).definitions.take k.toNat := by
    rw [hbounded, Scan.definitions_take]
  refine ⟨fun n => ?_, hdefinitions, fun cause => ?_, fun hk => ?_, ?_⟩
  · rw [hbounded, Scan.answers_take]
  · rw [hbounded, Scan.failure?_take, Option.ite_none_right_eq_some, and_comm]
  · rw [hbounded, Int.toNat_of_nonpos hk, Scan.take]
  · rw [parse, Scan.result_eq, hdefinitions]

/-! ### A bound on the length of the text -/

/-- A declaration that a cut at `n` deprives of its colour comment.  What is kept of the text ends
with the declaration, its semicolon and a part of the comment, and what is cut off starts with the
rest of the comment. -/
def LosesComment (text : Text) (n : Nat) (name value code : Text) : Prop :=
  ∃ lead gap raw kept lost rest,
    text.take n = lead ++ (name ++ (gap ++ ':' :: (raw ++ ';' :: kept))) ∧
      text.drop n = lost ++ rest ∧ lost ≠ [] ∧ ColorComment (kept ++ lost) code ∧
      (∀ c ∈ gap, isSpace c = true) ∧ Unbroken raw ∧ Text.strip raw = value

/-- What precedes the text does not matter. -/
theorem LosesComment.append {text name value code : Text} {n : Nat}
    (h : LosesComment text n name value code) (x : Text) :
    LosesComment (x ++ text) (x.length + n) name value code := by
  obtain ⟨lead, gap, raw, kept, lost, rest, htake, hdrop, hrest⟩ := h
  refine ⟨x ++ lead, gap, raw, kept, lost, rest, ?_, ?_, hrest⟩
  · rw [List.take_length_add_append, htake, List.append_assoc]
  · rw [List.drop_length_add_append, hdrop]

/-- A cut at `m` falls into the colour comment at the start of a text. -/
structure CutsComment (t : Text) (m : Nat) (code : Text) : Prop where
  gone : (colorComment? (t.take m)).map Prod.fst = none
  there : (colorComment? t).map Prod.fst = some code
  split : ∃ lost rest, t.drop m = lost ++ rest ∧ lost ≠ [] ∧ ColorComment (t.take m ++ lost) code

/-- A cut adds no comment to the start of a text, and removes one only if it falls into it. -/
theorem code_take (t : Text) (m : Nat) :
    (colorComment? (t.take m)).map Prod.fst = (colorComment? t).map Prod.fst ∨
      ∃ code, CutsComment t m code := by
  cases hcut : (colorComment? (t.take m)).map Prod.fst with
  | some code =>
      -- A comment that is kept is a comment of the whole text.
      obtain ⟨comment, rest, hsplit, hcomment⟩ := code_eq_some_iff.mp hcut
      refine Or.inl (Eq.symm (code_eq_some_iff.mpr ⟨comment, rest ++ t.drop m, ?_, hcomment⟩))
      rw [← List.append_assoc, ← hsplit, List.take_append_drop]
  | none =>
      cases hall : (colorComment? t).map Prod.fst with
      | none => exact Or.inl rfl
      | some code =>
          obtain ⟨comment, rest, rfl, hcomment⟩ := code_eq_some_iff.mp hall
          by_cases hm : comment.length ≤ m
          · have hkept : (colorComment? ((comment ++ rest).take m)).map Prod.fst = some code := by
              rw [List.take_append, List.take_of_length_le hm]
              exact code_eq_some_iff.mpr ⟨comment, _, rfl, hcomment⟩
            rw [hkept] at hcut
            cases hcut
          · have hle : m ≤ comment.length := Nat.le_of_not_le hm
            refine Or.inr ⟨code, hcut, hall, comment.drop m, rest, ?_, ?_, ?_⟩
            · rw [List.drop_append_of_le_length hle]
            · rw [ne_eq, List.drop_eq_nil_iff]
              exact hm
            · rw [List.take_append_of_le_length hle, List.take_append_drop]
              exact hcomment

/-- What a cut does to the clauses of a text: some are missing at the end, and the last one that is
left may be without its comment. -/
def Shortened (text : Text) (n : Nat) (cut whole : List Clause) : Prop :=
  cut <+: whole ∨
    ∃ before name value code after, cut = before ++ [⟨name, value, none⟩] ∧
      whole = before ++ ⟨name, value, some code⟩ :: after ∧ LosesComment text n name value code

/-- The same clauses in front change nothing. -/
theorem Shortened.append {text : Text} {n : Nat} {cut whole : List Clause}
    (h : Shortened text n cut whole) (x : Text) (ks : List Clause) :
    Shortened (x ++ text) (x.length + n) (ks ++ cut) (ks ++ whole) := by
  rcases h with hhead | ⟨before, name, value, code, after, rfl, rfl, hloses⟩
  · exact Or.inl ((List.prefix_append_right_inj ks).mpr hhead)
  · refine Or.inr ⟨ks ++ before, name, value, code, after, ?_, ?_, hloses.append x⟩
    · rw [List.append_assoc]
    · rw [List.append_assoc]

/-- A cut that falls into the comment behind a semicolon leaves the comment's clause as the last
one. -/
theorem CutsComment.shortened {x rest code : Text} {m : Nat} (h : CutsComment rest m code)
    (hx : Unbroken x) :
    Shortened (x ++ ';' :: rest) (x.length + (m + 1)) (clauses (x ++ ';' :: rest.take m))
      (clauses (x ++ ';' :: rest)) := by
  obtain ⟨hgone, hthere, lost, more, hdrop, hlost, hcomment⟩ := h
  have hterm : isTerminator ';' = true := by decide
  -- What is left of the comment declares nothing.
  have hkept : clauses (rest.take m) = [] :=
    clauses_of_unbroken (unbroken_append.mp hcomment.unbroken).1
  rw [clauses_append_cons hx hterm, clauses_append_cons hx hterm, hkept, List.append_nil]
  cases hheading : (runs x).findSome? heading? with
  | none => exact Or.inl (by simp [Segment.clause?, hheading])
  | some found =>
      obtain ⟨name, raw⟩ := found
      obtain ⟨-, lead, gap, rfl, hgap⟩ := heading_of_runs hheading
      by_cases hblank : Text.strip raw = []
      · exact Or.inl (by simp [Segment.clause?, hheading, Segment.close?, hblank])
      · refine Or.inr ⟨[], name, Text.strip raw, code, clauses rest, ?_, ?_, ?_⟩
        · simp [Segment.clause?, hheading, Segment.close?, hblank, hgone]
        · simp [Segment.clause?, hheading, Segment.close?, hblank, hthere]
        · refine ⟨lead, gap, raw, rest.take m, lost, more, ?_, ?_, hlost, hcomment, hgap, ?_, rfl⟩
          · rw [List.take_length_add_append, List.take_succ_cons]
            simp
          · rw [List.drop_length_add_append, List.drop_succ_cons, hdrop]
          · exact fun c hc => hx c (by simp [hc])

theorem Unbroken.take {x : Text} (hx : Unbroken x) (n : Nat) : Unbroken (x.take n) :=
  fun c hc => hx c (List.mem_of_mem_take hc)

/-- **A cut leaves the clauses in front of it**, but for the comment that it falls into. -/
theorem clauses_take (t : Text) :
    ∀ n : Nat, Shortened t n (clauses (t.take n)) (clauses t) := by
  induction t using segmentInduction with
  | last x hx =>
      intro n
      rw [clauses_of_unbroken (hx.take n)]
      exact Or.inl List.nil_prefix
  | segment x c rest hx hc ih =>
      intro n
      by_cases hn : n ≤ x.length
      · -- The cut falls into this segment, or right in front of its terminator.
        rw [List.take_append_of_le_length hn, clauses_of_unbroken (hx.take n)]
        exact Or.inl List.nil_prefix
      · obtain ⟨m, rfl⟩ : ∃ m, n = x.length + (m + 1) := ⟨n - x.length - 1, by omega⟩
        rw [List.take_length_add_append, List.take_succ_cons]
        -- If the comment behind this segment is kept, the segment declares what it declared.
        have hsame : (c = ';' → (colorComment? (rest.take m)).map Prod.fst =
              (colorComment? rest).map Prod.fst) →
            Shortened (x ++ c :: rest) (x.length + (m + 1)) (clauses (x ++ c :: rest.take m))
              (clauses (x ++ c :: rest)) := by
          intro hcode
          rw [clauses_append_cons hx hc, clauses_append_cons hx hc, clause?_congr hcode]
          have hlater := (ih m).append (x ++ [c]) (Segment.clause? ⟨x, some c, rest⟩).toList
          rwa [List.append_assoc, List.singleton_append, List.length_append, List.length_singleton,
            Nat.add_assoc, Nat.add_comm 1 m] at hlater
        rcases code_take rest m with hcode | ⟨code, hcuts⟩
        · exact hsame fun _ => hcode
        · by_cases hsemi : c = ';'
          · subst hsemi
            exact hcuts.shortened hx
          · exact hsame fun heq => absurd heq hsemi

/-! ### The definitions that a cut leaves -/

/-- A definition that a cut at `n` has left with the colour of its value, in place of the one that
its comment gives it in the whole text. -/
structure LosesColor (text : Text) (n : Nat) (cut whole : Definition) : Prop where
  name : cut.name = whole.name
  value : cut.value = whole.value
  plain : Color.fromTriplet cut.value = .ok cut.color
  comment : ∃ code, whole.color = some code ∧ LosesComment text n whole.name whole.value code

/-- Of shortened clauses, the definitions are shortened in the same way. -/
theorem Shortened.definitions {text : Text} {source : Option Text} {n : Nat} {ks ls : List Clause}
    {cut whole : List Definition} (h : Shortened text n ks ls)
    (hcut : ks.mapM (Clause.outcome source) = .ok cut)
    (hwhole : ls.mapM (Clause.outcome source) = .ok whole) :
    cut <+: whole ∨
      ∃ before d e after, cut = before ++ [d] ∧ whole = before ++ e :: after ∧
        LosesColor text n d e := by
  rcases h with ⟨later, rfl⟩ | ⟨before, name, value, code, after, rfl, rfl, hloses⟩
  · obtain ⟨first, second, hfirst, -, rfl⟩ := mapM_append_eq_ok hwhole
    rw [hcut] at hfirst
    cases hfirst
    exact Or.inl (List.prefix_append cut second)
  · obtain ⟨first, last, hfirst, hlast, rfl⟩ := mapM_append_eq_ok hcut
    obtain ⟨first', later, hfirst', hlater, rfl⟩ := mapM_append_eq_ok hwhole
    rw [hfirst] at hfirst'
    cases hfirst'
    obtain ⟨d, others, hd, hothers, rfl⟩ := mapM_cons_eq_ok hlast
    obtain ⟨e, rest, he, -, rfl⟩ := mapM_cons_eq_ok hlater
    obtain rfl : [] = others := Except.ok.inj hothers
    obtain ⟨shade, hshade, rfl⟩ := Clause.outcome_eq_ok hd
    obtain ⟨_, hcode, rfl⟩ := Clause.outcome_eq_ok he
    cases hcode
    exact Or.inr ⟨first, _, _, rest, rfl, rfl, rfl, rfl, hshade, code, rfl, hloses⟩

theorem cut_natCast (n : Nat) (text : Text) :
    ScanLimits.cut { length := some (n : Int) } text = text.take n := by
  rw [ScanLimits.cut]
  split
  · rfl
  · rename_i hshort
    simp only [ScanLimits.exceededBy, decide_eq_true_eq, Int.ofNat_eq_natCast, Int.ofNat_lt,
      Nat.not_lt] at hshort
    exact (List.take_of_length_le hshort).symm

/--
**A cut invents nothing.**  Of a text that is cut after `n` characters, the definitions have the
names and values of the first definitions of the whole text, in the same order.  They have the same
colours too, except perhaps the last one: if the cut falls into its colour comment, it has the
colour of its value.
-/
theorem parse_of_cut {text : Text} {source : Option Text} {n : Nat} {cut whole : List Definition}
    (hcut : parse text source { length := some n } = .ok cut)
    (hwhole : parse text source {} = .ok whole) :
    (cut.map fun d => (d.name, d.value)) <+: (whole.map fun d => (d.name, d.value)) ∧
      ∀ i d e, cut[i]? = some d → whole[i]? = some e →
        d.color = e.color ∨ i + 1 = cut.length ∧ LosesColor text n d e := by
  rw [parse_eq, cut_natCast] at hcut
  rw [parse_eq] at hwhole
  rcases (clauses_take text n).definitions hcut hwhole with
    ⟨later, rfl⟩ | ⟨before, d, e, after, rfl, rfl, hloses⟩
  · refine ⟨by simp, fun i d e hd he => Or.inl ?_⟩
    obtain ⟨hi, -⟩ := List.getElem?_eq_some_iff.mp hd
    rw [List.getElem?_append_left hi, hd] at he
    cases he
    rfl
  · refine ⟨⟨after.map fun d => (d.name, d.value), by simp [hloses.name, hloses.value]⟩, ?_⟩
    intro i d' e' hd he
    by_cases hi : i < before.length
    · rw [List.getElem?_append_left hi] at hd he
      rw [hd] at he
      cases he
      exact Or.inl rfl
    · obtain ⟨hlt, -⟩ := List.getElem?_eq_some_iff.mp hd
      obtain rfl : i = before.length := by
        rw [List.length_append, List.length_singleton] at hlt
        omega
      rw [List.getElem?_append_right (Nat.le_refl _), Nat.sub_self] at hd he
      cases hd
      cases he
      exact Or.inr ⟨by simp, hloses⟩

/-- Two triplets, of which the second has a colour comment, and a third declaration. -/
def commented : Text := "--a:1,2,3;--b:4,5,6; /* #abc */--c:x\x7d".toList

/-- Cut within its comment, the second declaration is the last one and has the colour of its
value. -/
theorem parse_of_cut_sample :
    parse commented none { length := some 25 } =
        .ok [⟨"--a".toList, "1,2,3".toList, some "#010203".toList, none⟩,
          ⟨"--b".toList, "4,5,6".toList, some "#040506".toList, none⟩] ∧
      parse commented none {} =
        .ok [⟨"--a".toList, "1,2,3".toList, some "#010203".toList, none⟩,
          ⟨"--b".toList, "4,5,6".toList, some "#abc".toList, none⟩,
          ⟨"--c".toList, "x".toList, none, none⟩] ∧
      LosesColor commented 25 ⟨"--b".toList, "4,5,6".toList, some "#040506".toList, none⟩
        ⟨"--b".toList, "4,5,6".toList, some "#abc".toList, none⟩ := by
  have hcut : parse commented none { length := some (25 : Nat) } =
      .ok [⟨"--a".toList, "1,2,3".toList, some "#010203".toList, none⟩,
        ⟨"--b".toList, "4,5,6".toList, some "#040506".toList, none⟩] := by
    rw [parse_eq]
    rfl
  have hwhole : parse commented none {} =
      .ok [⟨"--a".toList, "1,2,3".toList, some "#010203".toList, none⟩,
        ⟨"--b".toList, "4,5,6".toList, some "#abc".toList, none⟩,
        ⟨"--c".toList, "x".toList, none, none⟩] := by
    rw [parse_eq]
    rfl
  refine ⟨hcut, hwhole, ?_⟩
  rcases (parse_of_cut hcut hwhole).2 1 _ _ rfl rfl with hsame | ⟨-, hloses⟩
  · exact absurd hsame (by decide)
  · exact hloses

end Declaration

end SwatchIndex
