/-
A text read segment by segment.

The scan of `Declaration.lean` walks a cursor and keeps the terminator it found last.  What it finds
can be said without either.  Cut the text at every terminator.  A segment that ends at a semicolon
or at a closing brace declares at most one name: that of the leftmost run of name characters that is
a custom property's name with a colon behind it, and the value is what follows the colon.  Every
other segment declares nothing.  `clauses` is this reading.

That it looks at the right parts of the text is shown below: the runs are exactly the maximal ones
(`mem_runsAfter`), and the segments have no terminator in them (`unbroken_of_mem_segments`).
-/
import SwatchIndex.Proofs.Characters

namespace SwatchIndex

namespace Declaration

/-! ### Runs of name characters -/

/-- The runs of name characters that start in a text, each with what follows it.  `before` says
whether a name character precedes the text: then its first run started earlier. -/
def runsAfter : Bool → Text → List (Text × Text)
  | _, [] => []
  | before, c :: rest =>
    if isNameChar c && !before then
      ((c :: rest).takeWhile isNameChar, (c :: rest).dropWhile isNameChar) :: runsAfter true rest
    else runsAfter (isNameChar c) rest

/-- The maximal runs of name characters of a text, from left to right, each with what follows it. -/
def runs (t : Text) : List (Text × Text) := runsAfter false t

/-- What follows a colon that a text starts with. -/
def behindColon? : Text → Option Text
  | ':' :: value => some value
  | _ => none

/-- The name and what follows the colon, if a run is a name and has a colon behind it.  White space
may stand between the two. -/
def heading? : Text × Text → Option (Text × Text)
  | (run, rest) =>
    if isName run then (behindColon? (rest.dropWhile isSpace)).map fun value => (run, value)
    else none

/-! ### Segments and clauses -/

/-- What stands between two terminators. -/
structure Segment where
  body : Text
  /-- The terminator, or nothing at the text's end. -/
  ending : Option Char
  /-- What follows the terminator. -/
  rest : Text
deriving DecidableEq, Repr

/-- The segments of a text, cut at every terminator. -/
def segments : Text → List Segment
  | [] => [⟨[], none, []⟩]
  | c :: rest =>
    if isTerminator c then ⟨[], some c, rest⟩ :: segments rest
    else (segments rest).modifyHead fun s => { s with body := c :: s.body }

/-- A declaration as it is written: the name, the trimmed value, and the code of the colour comment
if it has one. -/
structure Clause where
  name : Text
  value : Text
  code : Option Text
deriving DecidableEq, Repr

namespace Segment

/-- The clause of a segment with this name and value.  Only behind a semicolon a comment is looked
for. -/
def close? (s : Segment) (name value : Text) : Option Clause :=
  if value = [] then none
  else
    match s.ending with
    | some ';' => some ⟨name, value, (colorComment? s.rest).map Prod.fst⟩
    | some '}' => some ⟨name, value, none⟩
    | _ => none

/-- What a segment declares. -/
def clause? (s : Segment) : Option Clause :=
  ((runs s.body).findSome? heading?).bind fun (name, rest) => s.close? name (Text.strip rest)

end Segment

/-- The declarations of a text, segment by segment. -/
def clauses (t : Text) : List Clause := (segments t).filterMap Segment.clause?

/-- The definition that a clause makes, or the error of its colour. -/
def Clause.outcome (source : Option Text) (k : Clause) : Except OverlongNumeral Definition :=
  (color k.value k.code).map fun shade => ⟨k.name, k.value, shade, source⟩

/-- A clause that makes a definition has a colour, or is known to have none. -/
theorem Clause.outcome_eq_ok {k : Clause} {source : Option Text} {d : Definition}
    (h : k.outcome source = .ok d) :
    ∃ shade, color k.value k.code = .ok shade ∧ d = ⟨k.name, k.value, shade, source⟩ := by
  unfold Clause.outcome at h
  cases hcolor : color k.value k.code with
  | error cause => rw [hcolor] at h; cases h
  | ok shade =>
      rw [hcolor] at h
      exact ⟨shade, rfl, (Except.ok.inj h).symm⟩

end Declaration

/-- The scan that meets these outcomes: definitions up to the first error, which ends it. -/
def Scan.ofOutcomes : List (Except OverlongNumeral Definition) → Scan
  | [] => .finished
  | .error cause :: _ => .failed cause
  | .ok d :: rest => .found d (ofOutcomes rest)

namespace Declaration

/-! ### Terminators -/

/-- A text without a terminator. -/
def Unbroken (t : Text) : Prop := ∀ c ∈ t, isTerminator c = false

/-- A text that starts with a terminator, if with anything. -/
def Cut (t : Text) : Prop := ∀ c ∈ t.head?, isTerminator c = true

theorem unbroken_nil : Unbroken [] := by
  intro c hc
  simp at hc

@[simp] theorem unbroken_cons {c : Char} {t : Text} :
    Unbroken (c :: t) ↔ isTerminator c = false ∧ Unbroken t :=
  List.forall_mem_cons

@[simp] theorem unbroken_append {x y : Text} : Unbroken (x ++ y) ↔ Unbroken x ∧ Unbroken y :=
  List.forall_mem_append

@[simp] theorem cut_cons {c : Char} {t : Text} : Cut (c :: t) ↔ isTerminator c = true := by
  simp [Cut]

/-- Every text goes on without a terminator up to the first one. -/
theorem exists_unbroken_cut (t : Text) : ∃ x y, t = x ++ y ∧ Unbroken x ∧ Cut y := by
  refine ⟨t.takeWhile (!isTerminator ·), t.dropWhile (!isTerminator ·),
    List.takeWhile_append_dropWhile.symm, ?_, ?_⟩
  · intro c hc
    simpa using List.mem_takeWhile_imp hc
  · intro c hc
    simpa using stop_dropWhile (!isTerminator ·) t c hc

/-! ### The runs are the maximal ones, and the segments are the whole text -/

/-- `run` is a maximal run of name characters in a text, and `rest` follows it.  `before` says
whether a name character precedes the text. -/
structure IsRun (before : Bool) (t lead run rest : Text) : Prop where
  split : t = lead ++ (run ++ rest)
  nonempty : run ≠ []
  inside : ∀ c ∈ run, isNameChar c = true
  left : (lead.getLast?.map isNameChar).getD before = false
  right : ∀ c ∈ rest.head?, isNameChar c = false

theorem IsRun.eq_takeWhile {before : Bool} {t run rest : Text} (h : IsRun before t [] run rest) :
    run = t.takeWhile isNameChar ∧ rest = t.dropWhile isNameChar := by
  rw [h.split, List.nil_append, takeWhile_run h.inside h.right, dropWhile_run h.inside h.right]
  exact ⟨rfl, rfl⟩

/-- A run starts here exactly if a name character stands here and none before. -/
theorem isRun_nil_iff {before : Bool} {c : Char} {t run rest : Text} :
    IsRun before (c :: t) [] run rest ↔
      (isNameChar c && !before) = true ∧
        (run, rest) = ((c :: t).takeWhile isNameChar, (c :: t).dropWhile isNameChar) := by
  constructor
  · intro h
    obtain ⟨hrun, hrest⟩ := h.eq_takeWhile
    have hbefore : before = false := h.left
    have hc : isNameChar c = true := by
      by_contra hc
      exact h.nonempty (by rw [hrun, List.takeWhile_cons_of_neg hc])
    exact ⟨by simp [hbefore, hc], Prod.ext hrun hrest⟩
  · rintro ⟨hstart, h⟩
    obtain ⟨rfl, rfl⟩ := Prod.mk.inj h
    obtain ⟨hc, hbefore⟩ : isNameChar c = true ∧ before = false := by simpa using hstart
    exact ⟨List.takeWhile_append_dropWhile.symm, by simp [hc],
      fun d => List.mem_takeWhile_imp, hbefore, stop_dropWhile isNameChar (c :: t)⟩

theorem isRun_cons {before : Bool} {c : Char} {t lead run rest : Text} :
    IsRun before (c :: t) (c :: lead) run rest ↔ IsRun (isNameChar c) t lead run rest := by
  have hleft : ((c :: lead).getLast?.map isNameChar).getD before =
      (lead.getLast?.map isNameChar).getD (isNameChar c) := by
    rw [List.getLast?_cons]
    cases lead.getLast? <;> rfl
  constructor
  · intro h
    exact ⟨(List.cons.inj h.split).2, h.nonempty, h.inside, hleft ▸ h.left, h.right⟩
  · intro h
    exact ⟨by rw [h.split, List.cons_append], h.nonempty, h.inside, hleft ▸ h.left, h.right⟩

/-- **The runs of a text are exactly its maximal runs of name characters.** -/
theorem mem_runsAfter {t run rest : Text} :
    ∀ {before : Bool}, (run, rest) ∈ runsAfter before t ↔ ∃ lead, IsRun before t lead run rest := by
  induction t with
  | nil =>
      intro before
      refine ⟨fun h => by simp [runsAfter] at h, ?_⟩
      rintro ⟨lead, h⟩
      have hsplit := h.split
      simp only [List.nil_eq, List.append_eq_nil_iff] at hsplit
      exact absurd hsplit.2.1 h.nonempty
  | cons c t ih =>
      intro before
      have hcases : (∃ lead, IsRun before (c :: t) lead run rest) ↔
          IsRun before (c :: t) [] run rest ∨ (run, rest) ∈ runsAfter (isNameChar c) t := by
        rw [ih]
        constructor
        · rintro ⟨lead, h⟩
          cases lead with
          | nil => exact Or.inl h
          | cons d lead =>
              obtain rfl : c = d := (List.cons.inj h.split).1
              exact Or.inr ⟨lead, isRun_cons.mp h⟩
        · rintro (h | ⟨lead, h⟩)
          · exact ⟨[], h⟩
          · exact ⟨c :: lead, isRun_cons.mpr h⟩
      rw [hcases, isRun_nil_iff]
      simp only [runsAfter]
      by_cases hstart : (isNameChar c && !before) = true
      · obtain ⟨hc, hbefore⟩ : isNameChar c = true ∧ before = false := by simpa using hstart
        simp [hc, hbefore]
      · simp [hstart]

theorem exists_segments_eq_cons (t : Text) : ∃ s more, segments t = s :: more := by
  induction t with
  | nil => exact ⟨_, _, rfl⟩
  | cons c rest ih =>
      obtain ⟨s, more, hs⟩ := ih
      unfold segments
      split
      · exact ⟨_, _, rfl⟩
      · exact ⟨_, _, by rw [hs, List.modifyHead_cons]⟩

/-- No terminator stands within a segment. -/
theorem unbroken_of_mem_segments {t : Text} : ∀ s ∈ segments t, Unbroken s.body := by
  induction t with
  | nil =>
      intro s hs
      rw [List.mem_singleton.mp hs]
      exact unbroken_nil
  | cons c rest ih =>
      unfold segments
      split
      · intro s hs
        rcases List.mem_cons.mp hs with rfl | hs
        · exact unbroken_nil
        · exact ih s hs
      · rename_i hc
        obtain ⟨s, more, hsegs⟩ := exists_segments_eq_cons rest
        rw [hsegs] at ih ⊢
        intro u hu
        rcases List.mem_cons.mp hu with rfl | hu
        · exact unbroken_cons.mpr ⟨by simpa using hc, ih s (by simp)⟩
        · exact ih u (by simp [hu])

end Declaration

end SwatchIndex
