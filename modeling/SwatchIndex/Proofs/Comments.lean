/-
Colour comments.

`ColorComment comment code` says how a comment that gives a colour is written.  The scan finds such
a comment exactly where one is written (`code_eq_some_iff`), and then all of it.  No terminator and
no hyphen can be part of one, so a comment neither crosses the end of a segment (`code_append_cut`)
nor hides a name.
-/
import SwatchIndex.Proofs.Colors
import SwatchIndex.Proofs.Segments

namespace SwatchIndex

namespace Declaration

/-! ### How a comment is read -/

/-- How a colour comment is written: a code between the marks of a comment, with white space in
front of the comment and around the code. -/
inductive ColorComment : Text → Text → Prop
  | mk {gap gap' gap'' code : Text} (hgap : ∀ c ∈ gap, isSpace c = true)
      (hgap' : ∀ c ∈ gap', isSpace c = true) (hgap'' : ∀ c ∈ gap'', isSpace c = true)
      (hcode : Color.IsCode code) :
      ColorComment (gap ++ '/' :: '*' :: (gap' ++ (code ++ (gap'' ++ ['*', '/'])))) code

theorem exists_of_colorComment?_eq_some {t code : Text} {width : Nat}
    (h : colorComment? t = some (code, width)) :
    ∃ comment rest, t = comment ++ rest ∧ ColorComment comment code ∧ width = comment.length := by
  unfold colorComment? at h
  split at h
  · rename_i inner hopen
    split at h
    · rename_i digits hhash
      dsimp only at h
      split at h
      · rename_i hlength
        split at h
        · rename_i rest hclose
          obtain ⟨gap, ht, hgap⟩ := exists_run hopen
          obtain ⟨gap', hinner, hgap'⟩ := exists_run hhash
          obtain ⟨gap'', hrest, hgap''⟩ := exists_run hclose
          have hdigits : digits =
              digits.takeWhile Color.isHexDigit ++ (gap'' ++ '*' :: '/' :: rest) := by
            rw [← hrest, List.takeWhile_append_dropWhile]
          simp only [Option.some.injEq, Prod.mk.injEq] at h
          obtain ⟨rfl, rfl⟩ := h
          have hcode : Color.IsCode ('#' :: digits.takeWhile Color.isHexDigit) :=
            ⟨_, rfl, by simpa using hlength, fun c => List.mem_takeWhile_imp⟩
          refine ⟨_, rest, ?_, .mk hgap hgap' hgap'' hcode, ?_⟩
          · rw [ht, hinner]
            nth_rewrite 1 [hdigits]
            simp
          · rw [ht, hinner]
            nth_rewrite 1 [hdigits]
            simp only [List.length_append, List.length_cons, List.length_nil]
            omega
        · simp at h
      · simp at h
    · simp at h
  · simp at h

/-- A colour comment is found as it is written. -/
theorem colorComment?_append {comment code : Text} (h : ColorComment comment code) (rest : Text) :
    colorComment? (comment ++ rest) = some (code, comment.length) := by
  cases h with
  | @mk gap gap' gap'' _ hgap hgap' hgap'' hcode =>
      obtain ⟨digits, rfl, hlength, hdigits⟩ := hcode
      have hlength' : (digits.length == 3 || digits.length == 6) = true := by simpa using hlength
      have hstop : ∀ c ∈ (gap'' ++ '*' :: '/' :: rest).head?, Color.isHexDigit c = false := by
        cases gap'' with
        | nil => exact stop_cons (by decide)
        | cons d more => exact stop_cons (not_isHexDigit_of_isSpace (hgap'' d (by simp)))
      simp only [List.append_assoc, List.cons_append, List.nil_append]
      have hslash : isSpace '/' = false := by decide
      have hhash : isSpace '#' = false := by decide
      have hstar : isSpace '*' = false := by decide
      simp only [colorComment?, dropWhile_run hgap (stop_cons hslash),
        dropWhile_run hgap' (stop_cons hhash), takeWhile_run hdigits hstop,
        dropWhile_run hdigits hstop, dropWhile_run hgap'' (stop_cons hstar), hlength',
        if_true, Option.some.injEq, Prod.mk.injEq, true_and, List.length_append, List.length_cons,
        List.length_nil]
      omega

/-! ### What a comment is made of -/

/-- What a colour comment is made of. -/
theorem ColorComment.char {comment code : Text} (h : ColorComment comment code) {c : Char}
    (hc : c ∈ comment) : isSpace c = true ∨ Color.isHexDigit c = true ∨ c ∈ ['/', '*', '#'] := by
  cases h with
  | mk hgap hgap' hgap'' hcode =>
      obtain ⟨digits, rfl, -, hdigits⟩ := hcode
      simp only [List.mem_append, List.mem_cons, List.not_mem_nil, or_false] at hc ⊢
      rcases hc with hc | rfl | rfl | hc | (rfl | hc) | hc | rfl | rfl
      · exact Or.inl (hgap c hc)
      · simp
      · simp
      · exact Or.inl (hgap' c hc)
      · simp
      · exact Or.inr (Or.inl (hdigits c hc))
      · exact Or.inl (hgap'' c hc)
      · simp
      · simp

theorem ColorComment.isCode {comment code : Text} (h : ColorComment comment code) :
    Color.IsCode code := by
  cases h with
  | mk _ _ _ hcode => exact hcode

theorem ColorComment.no_hyphen {comment code : Text} (h : ColorComment comment code) :
    '-' ∉ comment := by
  intro hmem
  rcases h.char hmem with hc | hc | hc
  · exact ne_hyphen_of_isSpace hc rfl
  · exact ne_hyphen_of_isHexDigit hc rfl
  · exact absurd hc (by decide)

theorem ColorComment.unbroken {comment code : Text} (h : ColorComment comment code) :
    Unbroken comment := by
  intro c hmem
  by_contra hterm
  simp only [Bool.not_eq_false] at hterm
  rcases h.char hmem with hc | hc | hc
  · exact absurd hc (by simp [not_isSpace_of_isTerminator hterm])
  · exact absurd hc (by simp [not_isHexDigit_of_isTerminator hterm])
  · simp only [List.mem_cons, List.not_mem_nil, or_false] at hc
    rcases hc with rfl | rfl | rfl <;> exact absurd hterm (by decide)

theorem ColorComment.exists_slash {comment code : Text} (h : ColorComment comment code) :
    ∃ x, comment = x ++ ['/'] := by
  cases h with
  | @mk gap gap' gap'' _ =>
      exact ⟨gap ++ '/' :: '*' :: (gap' ++ (code ++ (gap'' ++ ['*']))), by simp⟩

/-- A colour comment has no hyphen in it and ends with a slash. -/
theorem colorComment?_eq_some {t code : Text} {width : Nat}
    (h : colorComment? t = some (code, width)) :
    ∃ x rest, t = x ++ '/' :: rest ∧ '-' ∉ x ∧ width = x.length + 1 := by
  obtain ⟨comment, rest, rfl, hcomment, rfl⟩ := exists_of_colorComment?_eq_some h
  have hhyphen := hcomment.no_hyphen
  obtain ⟨x, rfl⟩ := hcomment.exists_slash
  exact ⟨x, rest, by simp, fun hmem => hhyphen (List.mem_append_left _ hmem), by simp⟩

/-! ### The code of a comment -/

/-- The code that a text gives as a colour comment at its start. -/
theorem code_eq_some_iff {t code : Text} :
    (colorComment? t).map Prod.fst = some code ↔
      ∃ comment rest, t = comment ++ rest ∧ ColorComment comment code := by
  constructor
  · intro h
    obtain ⟨⟨_, width⟩, hfound, rfl⟩ := Option.map_eq_some_iff.mp h
    obtain ⟨comment, rest, ht, hcomment, -⟩ := exists_of_colorComment?_eq_some hfound
    exact ⟨comment, rest, ht, hcomment⟩
  · rintro ⟨comment, rest, rfl, hcomment⟩
    rw [colorComment?_append hcomment]
    rfl

/-- A part without a terminator does not reach behind the first terminator. -/
theorem exists_append_of_unbroken {x y u v : Text} (h : x ++ y = u ++ v) (hu : Unbroken u)
    (hy : Cut y) : ∃ z, x = u ++ z := by
  rcases List.append_eq_append_iff.mp h with ⟨z, hz, hy'⟩ | ⟨z, hz, -⟩
  · cases z with
    | nil => exact ⟨[], by rw [hz, List.append_nil, List.append_nil]⟩
    | cons c more =>
        have hterm : isTerminator c = true := hy c (by rw [hy']; rfl)
        have hfree : isTerminator c = false := hu c (by rw [hz]; simp)
        rw [hterm] at hfree
        exact Bool.noConfusion hfree
  · exact ⟨z, hz⟩

/-- **What stands behind a terminator does not matter to a comment in front of it.** -/
theorem code_append_cut {x y : Text} (hy : Cut y) :
    (colorComment? (x ++ y)).map Prod.fst = (colorComment? x).map Prod.fst := by
  apply Option.ext
  intro code
  rw [code_eq_some_iff, code_eq_some_iff]
  constructor
  · rintro ⟨comment, rest, hsplit, hcomment⟩
    obtain ⟨z, hz⟩ := exists_append_of_unbroken hsplit hcomment.unbroken hy
    exact ⟨comment, z, hz, hcomment⟩
  · rintro ⟨comment, rest, rfl, hcomment⟩
    exact ⟨comment, rest ++ y, List.append_assoc .., hcomment⟩

end Declaration

end SwatchIndex
