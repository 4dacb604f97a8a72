/-
Characters and trimming.

The classes of characters that stylesheets are scanned with keep out of each other's way: no
terminator is a name character or white space, and a hyphen is a name character only.  So a run of
one class ends at the first character of another, whatever follows it.  The name of a custom
property is such a run.  A text that is trimmed to nothing has only blanks in it, and trimming twice
is trimming once.
-/
import SwatchIndex.Declaration.Scan
import Mathlib.Data.List.TakeWhile

namespace SwatchIndex

/-! ### Classes of characters -/

/-- A terminator is not of a class that has none of the three. -/
theorem not_of_isTerminator {p : Char → Bool}
    (hp : [';', '{', '}'].all (fun c => !p c) = true) {c : Char}
    (h : Declaration.isTerminator c = true) : p c = false := by
  have hmem : c ∈ [';', '{', '}'] := by simpa [Declaration.isTerminator, or_assoc] using h
  simpa using List.all_eq_true.mp hp c hmem

theorem not_isNameChar_of_isTerminator {c : Char} (h : Declaration.isTerminator c = true) :
    isNameChar c = false :=
  not_of_isTerminator (by decide) h

theorem not_isSpace_of_isTerminator {c : Char} (h : Declaration.isTerminator c = true) :
    isSpace c = false :=
  not_of_isTerminator (by decide) h

theorem not_isHexDigit_of_isTerminator {c : Char} (h : Declaration.isTerminator c = true) :
    Color.isHexDigit c = false :=
  not_of_isTerminator (by decide) h

theorem ne_hyphen_of_isTerminator {c : Char} (h : Declaration.isTerminator c = true) :
    c ≠ '-' := by
  rintro rfl
  exact absurd h (by decide)

theorem ne_hyphen_of_isSpace {c : Char} (h : isSpace c = true) : c ≠ '-' := by
  rintro rfl
  exact absurd h (by decide)

theorem ne_hyphen_of_isHexDigit {c : Char} (h : Color.isHexDigit c = true) : c ≠ '-' := by
  rintro rfl
  exact absurd h (by decide)

/-- White space is not of a class that has none of its six characters. -/
theorem not_of_isSpace {p : Char → Bool}
    (hp : [' ', '\t', '\n', '\r', '\x0c', '\x0b'].all (fun c => !p c) = true) {c : Char}
    (h : isSpace c = true) : p c = false := by
  have hmem : c ∈ [' ', '\t', '\n', '\r', '\x0c', '\x0b'] := by
    simpa [isSpace, or_assoc] using h
  simpa using List.all_eq_true.mp hp c hmem

theorem not_isNameChar_of_isSpace {c : Char} (h : isSpace c = true) : isNameChar c = false :=
  not_of_isSpace (by decide) h

theorem not_isHexDigit_of_isSpace {c : Char} (h : isSpace c = true) :
    Color.isHexDigit c = false :=
  not_of_isSpace (by decide) h

/-! ### Runs of one class -/

/-- A character that is not of a class stops a run of it, whatever follows. -/
theorem stop_cons {p : Char → Bool} {c : Char} {t : Text} (hc : p c = false) :
    ∀ d ∈ (c :: t).head?, p d = false := by
  intro d hd
  obtain rfl : c = d := by simpa using hd
  exact hc

theorem takeWhile_append_of_stop {p : Char → Bool} {x y : Text}
    (hy : ∀ c ∈ y.head?, p c = false) : (x ++ y).takeWhile p = x.takeWhile p := by
  induction x with
  | nil =>
      cases y with
      | nil => rfl
      | cons c rest => simp [hy c rfl]
  | cons c rest ih =>
      rw [List.cons_append, List.takeWhile_cons, List.takeWhile_cons, ih]

theorem dropWhile_append_of_stop {p : Char → Bool} {x y : Text}
    (hy : ∀ c ∈ y.head?, p c = false) : (x ++ y).dropWhile p = x.dropWhile p ++ y := by
  induction x with
  | nil =>
      cases y with
      | nil => rfl
      | cons c rest => simp [hy c rfl]
  | cons c rest ih =>
      rw [List.cons_append, List.dropWhile_cons, List.dropWhile_cons, ih]
      split <;> rfl

/-- A run of one class ends where another class starts. -/
theorem takeWhile_run {p : Char → Bool} {run rest : Text} (hrun : ∀ c ∈ run, p c = true)
    (hrest : ∀ c ∈ rest.head?, p c = false) : (run ++ rest).takeWhile p = run := by
  rw [takeWhile_append_of_stop hrest, List.takeWhile_eq_self_iff.mpr hrun]

theorem dropWhile_run {p : Char → Bool} {run rest : Text} (hrun : ∀ c ∈ run, p c = true)
    (hrest : ∀ c ∈ rest.head?, p c = false) : (run ++ rest).dropWhile p = rest := by
  rw [dropWhile_append_of_stop hrest, List.dropWhile_eq_nil_iff.mpr hrun, List.nil_append]

/-- What a text starts with and what ends it are clear from the text. -/
theorem run_inj {p : Char → Bool} {x x' y y' : Text} {c c' : Char}
    (h : x ++ c :: y = x' ++ c' :: y') (hx : ∀ d ∈ x, p d = true) (hx' : ∀ d ∈ x', p d = true)
    (hc : p c = false) (hc' : p c' = false) : x = x' ∧ c = c' ∧ y = y' := by
  have hsame : x = x' := by
    rw [← takeWhile_run hx (stop_cons hc), h, takeWhile_run hx' (stop_cons hc')]
  rw [hsame, List.append_cancel_left_eq, List.cons.injEq] at h
  exact ⟨hsame, h⟩

/-- What is left behind a run does not start with a character of the run's class. -/
theorem stop_dropWhile (p : Char → Bool) (t : Text) :
    ∀ c ∈ (t.dropWhile p).head?, p c = false := by
  intro c hc
  have hstop := List.head?_dropWhile_not p t
  rw [Option.mem_def.mp hc] at hstop
  simpa using hstop

/-- What is left behind a run comes after characters of the run's class. -/
theorem exists_run {p : Char → Bool} {t rest : Text} (h : t.dropWhile p = rest) :
    ∃ run, t = run ++ rest ∧ ∀ c ∈ run, p c = true :=
  ⟨t.takeWhile p, by rw [← h, List.takeWhile_append_dropWhile], fun _ => List.mem_takeWhile_imp⟩

/-! ### Names -/

/-- A custom property's name: two hyphens and at least one more name character. -/
def IsPropertyName (name : Text) : Prop :=
  ∃ rest, name = '-' :: '-' :: rest ∧ rest ≠ [] ∧ ∀ c ∈ rest, isNameChar c = true

theorem isName_iff {name : Text} :
    isName name = true ↔ ∃ rest, name = '-' :: '-' :: rest ∧ rest ≠ [] := by
  unfold isName
  split
  · simp
  · rename_i hshape
    refine ⟨fun h => by simp at h, ?_⟩
    rintro ⟨rest, rfl, hne⟩
    obtain ⟨c, more, rfl⟩ := List.exists_cons_of_ne_nil hne
    exact absurd rfl (hshape c more)

theorem isPropertyName_iff {name : Text} :
    IsPropertyName name ↔ isName name = true ∧ ∀ c ∈ name, isNameChar c = true := by
  rw [isName_iff]
  constructor
  · rintro ⟨rest, rfl, hne, hchars⟩
    have hhyphen : isNameChar '-' = true := by decide
    refine ⟨⟨rest, rfl, hne⟩, ?_⟩
    simpa [hhyphen] using hchars
  · rintro ⟨⟨rest, rfl, hne⟩, hchars⟩
    exact ⟨rest, rfl, hne, fun c hc => hchars c (by simp [hc])⟩

instance (name : Text) : Decidable (IsPropertyName name) :=
  decidable_of_iff (isName name = true ∧ name.all isNameChar = true)
    (by rw [isPropertyName_iff, List.all_eq_true])

/-! ### Trimming -/

namespace Text

/-- Only blanks are trimmed to nothing. -/
theorem strip_eq_nil_iff {t : Text} : strip t = [] ↔ ∀ c ∈ t, isBlank c = true := by
  constructor
  · intro h
    have hdrop : ∀ c ∈ t.dropWhile isBlank, isBlank c = true := by
      intro c hc
      simp only [strip, dropEndWhile, List.reverse_eq_nil_iff, List.dropWhile_eq_nil_iff] at h
      exact h c (by simpa using hc)
    rw [← List.dropWhile_eq_nil_iff]
    cases hd : t.dropWhile isBlank with
    | nil => rfl
    | cons c rest =>
        have hc : isBlank c = false := stop_dropWhile isBlank t c (by simp [hd])
        rw [hdrop c (by simp [hd])] at hc
        exact Bool.noConfusion hc
  · intro h
    have hdrop : t.dropWhile isBlank = [] := List.dropWhile_eq_nil_iff.mpr h
    rw [strip, hdrop]
    rfl

/-- A text with no blank at either end is trimmed already. -/
theorem strip_of_ends {t : Text} (hhead : ∀ c ∈ t.head?, isBlank c = false)
    (hlast : ∀ c ∈ t.getLast?, isBlank c = false) : strip t = t := by
  have hfront : ∀ u : Text, (∀ c ∈ u.head?, isBlank c = false) → u.dropWhile isBlank = u := by
    intro u hu
    cases u with
    | nil => rfl
    | cons c rest => rw [List.dropWhile_cons_of_neg (by simp [hu c rfl])]
  rw [strip, dropEndWhile, hfront t hhead, hfront t.reverse (by simpa using hlast),
    List.reverse_reverse]

theorem strip_of_no_blank {t : Text} (h : ∀ c ∈ t, isBlank c = false) : strip t = t :=
  strip_of_ends (fun c hc => h c (List.mem_of_mem_head? hc))
    (fun c hc => h c (List.mem_of_mem_getLast? hc))

/-- What is trimmed at the end comes after what is left. -/
theorem exists_dropWhile_eq_strip_append (t : Text) :
    ∃ y, t.dropWhile isBlank = strip t ++ y ∧ ∀ c ∈ y, isBlank c = true := by
  obtain ⟨y, hy, hblank⟩ := exists_run (rfl : (t.dropWhile isBlank).reverse.dropWhile isBlank = _)
  refine ⟨y.reverse, ?_, fun c hc => hblank c (List.mem_reverse.mp hc)⟩
  rw [strip, dropEndWhile, ← List.reverse_append, ← hy, List.reverse_reverse]

/-- Trimming takes away blanks. -/
theorem exists_around_strip (t : Text) :
    ∃ x y, t = x ++ (strip t ++ y) ∧ (∀ c ∈ x, isBlank c = true) ∧ ∀ c ∈ y, isBlank c = true := by
  obtain ⟨y, hy, hyblank⟩ := exists_dropWhile_eq_strip_append t
  obtain ⟨x, hx, hxblank⟩ := exists_run hy
  exact ⟨x, y, hx, hxblank, hyblank⟩

/-- Trimming takes away the blanks around a text with no blank at either end, and nothing more. -/
theorem strip_around {x t y : Text} (hx : ∀ c ∈ x, isBlank c = true)
    (hy : ∀ c ∈ y, isBlank c = true) (hhead : ∀ c ∈ (t ++ y).head?, isBlank c = false)
    (hlast : ∀ c ∈ t.getLast?, isBlank c = false) : strip (x ++ (t ++ y)) = t := by
  have hend : (t ++ y).reverse.dropWhile isBlank = t.reverse := by
    rw [List.reverse_append]
    refine dropWhile_run (fun c hc => hy c (List.mem_reverse.mp hc)) ?_
    simpa using hlast
  rw [strip, dropWhile_run hx hhead, dropEndWhile, hend, List.reverse_reverse]

theorem mem_of_mem_strip {t : Text} {c : Char} (h : c ∈ strip t) : c ∈ t := by
  obtain ⟨y, hy, -⟩ := exists_dropWhile_eq_strip_append t
  refine (List.dropWhile_sublist isBlank).subset ?_
  rw [hy]
  exact List.mem_append_left y h

/-- Trimming twice is trimming once. -/
theorem strip_strip (t : Text) : strip (strip t) = strip t := by
  refine strip_of_ends ?_ ?_
  · -- The first character that is left is the first one that is no blank.
    intro c hc
    obtain ⟨y, hy, -⟩ := exists_dropWhile_eq_strip_append t
    refine stop_dropWhile isBlank t c ?_
    rw [hy, List.head?_append, Option.mem_def.mp hc]
    rfl
  · intro c hc
    refine stop_dropWhile isBlank (t.dropWhile isBlank).reverse c ?_
    simpa [strip, dropEndWhile] using hc

end Text

end SwatchIndex
