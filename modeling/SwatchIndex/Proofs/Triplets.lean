/-
When a triplet cannot be read.

A triplet is three numerals with two commas between them, each comma with white space around it or
without.  Since neither a comma nor white space is a digit, a text has this shape in one way at
most, and the reader of `Color.lean` finds it (`numerals?_eq_some_iff`).

Reading can go wrong at one thing only: a numeral that is longer than numerals may be.  So a text
without the shape is never an error, and a text with it is one exactly if one of its numerals is too
long (`fromTriplet_eq_error_iff`).
-/
import SwatchIndex.Proofs.Characters

namespace SwatchIndex

namespace Numeral

/-- The failure at the first of some numerals that is too long. -/
def overlong? (ns : List Text) : Option OverlongNumeral :=
  (ns.find? fun n => maxDigits < n.length).map fun n => ⟨n.length⟩

/-- Numerals are read one after the other, up to the first that is too long. -/
theorem mapM_read_eq_error_iff {ns : List Text} {cause : OverlongNumeral} :
    ns.mapM read = .error cause ↔ overlong? ns = some cause := by
  induction ns with
  | nil => simp [overlong?, pure, Except.pure]
  | cons n rest ih =>
      rw [List.mapM_cons, overlong?, List.find?_cons]
      by_cases hlong : maxDigits < n.length
      · simp [read, hlong, bind, Except.bind]
      · rw [overlong?] at ih
        simp only [read, hlong, if_false, decide_false, ← ih]
        cases rest.mapM read <;> simp [bind, Except.bind, pure, Except.pure]

end Numeral

namespace Color

/-! ### The shape of a triplet -/

/-- A run of ASCII digits that is not empty. -/
def IsNumeral (n : Text) : Prop := n ≠ [] ∧ ∀ c ∈ n, c.isDigit = true

/-- A comma, perhaps with white space around it. -/
def IsComma (t : Text) : Prop :=
  ∃ left right, t = left ++ ',' :: right ∧ (∀ c ∈ left, isSpace c = true) ∧
    ∀ c ∈ right, isSpace c = true

/-- Three numerals with commas between them. -/
def IsTriplet (t red green blue : Text) : Prop :=
  IsNumeral red ∧ IsNumeral green ∧ IsNumeral blue ∧
    ∃ first second, IsComma first ∧ IsComma second ∧
      t = red ++ (first ++ (green ++ (second ++ blue)))

theorem not_isDigit_of_isSpace {c : Char} (h : isSpace c = true) : c.isDigit = false :=
  not_of_isSpace (by decide) h

theorem not_isSpace_of_isDigit {c : Char} (h : c.isDigit = true) : isSpace c = false := by
  cases hspace : isSpace c with
  | false => rfl
  | true =>
      rw [not_isDigit_of_isSpace hspace] at h
      exact h.symm

/-- What follows a comma is not part of its white space if it starts with a numeral. -/
theorem IsNumeral.stop_isSpace {n rest : Text} (h : IsNumeral n) :
    ∀ c ∈ (n ++ rest).head?, isSpace c = false := by
  obtain ⟨hne, hdigits⟩ := h
  obtain ⟨d, more, rfl⟩ := List.exists_cons_of_ne_nil hne
  exact stop_cons (not_isSpace_of_isDigit (hdigits d (by simp)))

/-- A numeral ends where a comma starts. -/
theorem IsComma.stop_isDigit {t rest : Text} (h : IsComma t) :
    ∀ c ∈ (t ++ rest).head?, c.isDigit = false := by
  obtain ⟨left, right, rfl, hleft, -⟩ := h
  cases left with
  | nil => exact stop_cons (by decide)
  | cons c more => exact stop_cons (not_isDigit_of_isSpace (hleft c (by simp)))

/-! ### The reader finds the shape -/

theorem numeral?_append {n rest : Text} (hn : IsNumeral n)
    (hrest : ∀ c ∈ rest.head?, c.isDigit = false) : numeral? (n ++ rest) = some (n, rest) := by
  have hne : n.isEmpty = false := by simpa using hn.1
  simp only [numeral?, takeWhile_run hn.2 hrest, dropWhile_run hn.2 hrest, hne,
    Bool.false_eq_true, if_false]

theorem numeral?_eq_some {t n rest : Text} (h : numeral? t = some (n, rest)) :
    IsNumeral n ∧ t = n ++ rest := by
  simp only [numeral?, Option.ite_none_left_eq_some, List.isEmpty_iff, Option.some.injEq,
    Prod.mk.injEq] at h
  obtain ⟨hne, rfl, rfl⟩ := h
  exact ⟨⟨hne, fun c => List.mem_takeWhile_imp⟩, List.takeWhile_append_dropWhile.symm⟩

theorem comma?_append {t rest : Text} (ht : IsComma t)
    (hrest : ∀ c ∈ rest.head?, isSpace c = false) : comma? (t ++ rest) = some rest := by
  obtain ⟨left, right, rfl, hleft, hright⟩ := ht
  have hcomma : ((left ++ ',' :: right) ++ rest).dropWhile isSpace = ',' :: (right ++ rest) := by
    rw [List.append_assoc, List.cons_append]
    exact dropWhile_run hleft (stop_cons (by decide))
  simp only [comma?, hcomma, dropWhile_run hright hrest]

theorem comma?_eq_some {t rest : Text} (h : comma? t = some rest) :
    ∃ comma, IsComma comma ∧ t = comma ++ rest := by
  unfold comma? at h
  split at h
  · rename_i inner hinner
    obtain ⟨left, rfl, hleft⟩ := exists_run hinner
    obtain ⟨right, rfl, hright⟩ := exists_run (Option.some.inj h)
    exact ⟨left ++ ',' :: right, ⟨left, right, rfl, hleft, hright⟩, by simp⟩
  · cases h

/-- **The reader finds three numerals exactly in a triplet.** -/
theorem numerals?_eq_some_iff {t red green blue : Text} :
    numerals? t = some (red, green, blue) ↔ IsTriplet t red green blue := by
  constructor
  · intro h
    simp only [numerals?, Option.bind_eq_bind, Option.bind_eq_some_iff, Prod.exists,
      Option.ite_none_right_eq_some, Option.some.injEq, Prod.mk.injEq, List.isEmpty_iff] at h
    obtain ⟨r, t₁, hr, t₂, hfirst, g, t₃, hg, t₄, hsecond, b, t₅, hb, rfl, rfl, rfl, rfl⟩ := h
    obtain ⟨hred, rfl⟩ := numeral?_eq_some hr
    obtain ⟨first, hfirst', rfl⟩ := comma?_eq_some hfirst
    obtain ⟨hgreen, rfl⟩ := numeral?_eq_some hg
    obtain ⟨second, hsecond', rfl⟩ := comma?_eq_some hsecond
    obtain ⟨hblue, rfl⟩ := numeral?_eq_some hb
    exact ⟨hred, hgreen, hblue, first, second, hfirst', hsecond', by rw [List.append_nil]⟩
  · rintro ⟨hred, hgreen, hblue, first, second, hfirst, hsecond, rfl⟩
    have hlast : numeral? blue = some (blue, []) := by
      have hstop : ∀ c ∈ ([] : Text).head?, c.isDigit = false := by simp
      simpa using numeral?_append hblue hstop
    have hstop : ∀ c ∈ (blue ++ []).head?, isSpace c = false := hblue.stop_isSpace
    rw [List.append_nil] at hstop
    simp only [numerals?, numeral?_append hred hfirst.stop_isDigit,
      comma?_append hfirst hgreen.stop_isSpace, numeral?_append hgreen hsecond.stop_isDigit,
      comma?_append hsecond hstop, hlast, Option.bind_eq_bind, Option.bind_some, List.isEmpty_nil,
      if_true]

/-! ### What cannot be read -/

/-- A value is a triplet with a numeral that is too long, and `cause` is the failure at the first
such numeral. -/
def IsOverlong (value : Text) (cause : OverlongNumeral) : Prop :=
  ∃ red green blue, IsTriplet (Text.strip value) red green blue ∧
    Numeral.overlong? [red, green, blue] = some cause

/-- **Reading a triplet fails exactly at a numeral that is too long.** -/
theorem readTriplet_eq_error_iff {value : Text} {cause : OverlongNumeral} :
    readTriplet value = .error cause ↔ IsOverlong value cause := by
  unfold readTriplet
  split
  · rename_i hnone
    refine ⟨fun h => (by cases h), ?_⟩
    rintro ⟨red, green, blue, hshape, -⟩
    rw [numerals?_eq_some_iff.mpr hshape] at hnone
    cases hnone
  · rename_i red green blue hsome
    -- The numerals are those of the shape, so it is their list that is read.
    have hiff : IsOverlong value cause ↔ [red, green, blue].mapM Numeral.read = .error cause := by
      rw [Numeral.mapM_read_eq_error_iff]
      constructor
      · rintro ⟨r, g, b, hshape, hlong⟩
        rw [numerals?_eq_some_iff.mpr hshape] at hsome
        cases hsome
        exact hlong
      · exact fun hlong => ⟨red, green, blue, numerals?_eq_some_iff.mp hsome, hlong⟩
    rw [hiff]
    simp only [List.mapM_cons, List.mapM_nil]
    cases Numeral.read red <;> cases Numeral.read green <;> cases Numeral.read blue <;>
      simp [bind, Except.bind, pure, Except.pure]

/-- The same of the normal form that is made of a triplet. -/
theorem fromTriplet_eq_error_iff {value : Text} {cause : OverlongNumeral} :
    fromTriplet value = .error cause ↔ IsOverlong value cause := by
  rw [← readTriplet_eq_error_iff, fromTriplet]
  cases readTriplet value <;> simp [Except.map]

end Color

end SwatchIndex
