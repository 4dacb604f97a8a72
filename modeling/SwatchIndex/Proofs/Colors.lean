/-
Colours in writing.

A code is a hash and three or six digits of base sixteen.  Its normal form has six digits and no
small letters.  Both ways in which a stylesheet gives a colour lead there: what is read off a
triplet is in normal form already (`isNormal_of_fromTriplet`), and a code is never refused when it
is brought to normal form (`IsCode.fromCode`).
-/
import SwatchIndex.Proofs.Characters
import Mathlib.Data.List.Basic

namespace SwatchIndex

namespace Color

/-- A hash and three or six digits of base sixteen, in either case. -/
def IsCode (code : Text) : Prop :=
  ∃ digits, code = '#' :: digits ∧ (digits.length = 3 ∨ digits.length = 6) ∧
    ∀ c ∈ digits, isHexDigit c = true

/-- A digit of base sixteen that is no small letter. -/
def isCapitalDigit (c : Char) : Bool := c.isDigit || ('A' ≤ c && c ≤ 'F')

/-- A hash and six digits of base sixteen without small letters. -/
def IsNormal (code : Text) : Prop :=
  ∃ digits, code = '#' :: digits ∧ digits.length = 6 ∧ ∀ c ∈ digits, isCapitalDigit c = true

/-! ### Codes are recognised -/

theorem codeDigits?_eq_some_iff {code digits : Text} :
    codeDigits? code = some digits ↔
      code = '#' :: digits ∧ (digits.length = 3 ∨ digits.length = 6) ∧
        ∀ c ∈ digits, isHexDigit c = true := by
  unfold codeDigits?
  split
  · rename_i ds
    simp only [Option.ite_none_right_eq_some, Bool.and_eq_true, Bool.or_eq_true, beq_iff_eq,
      List.all_eq_true, Option.some.injEq, List.cons.injEq, true_and]
    constructor
    · rintro ⟨h, rfl⟩
      exact ⟨rfl, h⟩
    · rintro ⟨rfl, h⟩
      exact ⟨h, rfl⟩
  · rename_i hhash
    refine ⟨fun h => by simp at h, ?_⟩
    rintro ⟨rfl, -⟩
    exact absurd rfl (hhash digits)

theorem isCode_iff {code : Text} : IsCode code ↔ (codeDigits? code).isSome = true := by
  simp only [Option.isSome_iff_exists, codeDigits?_eq_some_iff, IsCode]

instance (code : Text) : Decidable (IsCode code) := decidable_of_iff _ isCode_iff.symm

/-! ### Digits -/

/-- A digit of base sixteen is one of twenty-two characters. -/
theorem mem_of_isHexDigit {c : Char} (h : isHexDigit c = true) :
    c ∈ "0123456789abcdefABCDEF".toList := by
  have hsmall : c.toNat < 103 := by
    simp only [isHexDigit, Char.isDigit, Bool.or_eq_true, Bool.and_eq_true, decide_eq_true_eq,
      Char.le_def, UInt32.le_iff_toNat_le] at h
    rcases h with (⟨-, h⟩ | ⟨-, h⟩) | ⟨-, h⟩ <;> exact Nat.lt_of_le_of_lt h (by decide)
  have hall : ∀ n < 103, isHexDigit (Char.ofNat n) = true →
      Char.ofNat n ∈ "0123456789abcdefABCDEF".toList := by decide
  simpa only [Char.ofNat_toNat] using hall c.toNat hsmall (by rwa [Char.ofNat_toNat])

theorem not_isBlank_of_isHexDigit {c : Char} (h : isHexDigit c = true) : isBlank c = false := by
  have hall : "0123456789abcdefABCDEF".toList.all (fun c => !isBlank c) = true := by decide
  simpa using List.all_eq_true.mp hall c (mem_of_isHexDigit h)

theorem isCapitalDigit_toUpper {c : Char} (h : isHexDigit c = true) :
    isCapitalDigit c.toUpper = true := by
  have hall : "0123456789abcdefABCDEF".toList.all (fun c => isCapitalDigit c.toUpper) = true := by
    decide
  exact List.all_eq_true.mp hall c (mem_of_isHexDigit h)

theorem isCapitalDigit_hexDigit : ∀ n, n < 16 → isCapitalDigit (Rgb.hexDigit n) = true := by
  decide

theorem isHexDigit_of_isCapitalDigit {c : Char} (h : isCapitalDigit c = true) :
    isHexDigit c = true := by
  simp only [isCapitalDigit, isHexDigit, Bool.or_eq_true] at h ⊢
  rcases h with h | h
  · exact Or.inl (Or.inl h)
  · exact Or.inr h

/-! ### Normal forms -/

theorem IsNormal.isCode {code : Text} (h : IsNormal code) : IsCode code := by
  obtain ⟨digits, rfl, hlength, hdigits⟩ := h
  exact ⟨digits, rfl, Or.inr hlength, fun c hc => isHexDigit_of_isCapitalDigit (hdigits c hc)⟩

/-- The code of a colour is in normal form. -/
theorem isNormal_code (c : Rgb) : IsNormal c.code := by
  have hchannel : ∀ (n : Fin 256), ∀ d ∈ Rgb.channelCode n, isCapitalDigit d = true := by
    intro n d hd
    simp only [Rgb.channelCode, List.mem_cons, List.not_mem_nil, or_false] at hd
    rcases hd with rfl | rfl
    · exact isCapitalDigit_hexDigit _ (by omega)
    · exact isCapitalDigit_hexDigit _ (by omega)
  refine ⟨_, rfl, rfl, fun d hd => ?_⟩
  rcases List.mem_append.mp hd with hd | hd
  · rcases List.mem_append.mp hd with hd | hd
    · exact hchannel _ d hd
    · exact hchannel _ d hd
  · exact hchannel _ d hd

/-- The normal form of a triplet is written for the colour that is read off it. -/
theorem readTriplet_of_fromTriplet {value code : Text} (h : fromTriplet value = .ok (some code)) :
    ∃ c, readTriplet value = .ok (some c) ∧ code = c.code := by
  unfold fromTriplet at h
  cases hread : readTriplet value with
  | error cause => rw [hread] at h; cases h
  | ok found =>
      rw [hread] at h
      cases found with
      | none => cases h
      | some c =>
          cases h
          exact ⟨c, rfl, rfl⟩

/-- What is read off a triplet is in normal form. -/
theorem isNormal_of_fromTriplet {value code : Text} (h : fromTriplet value = .ok (some code)) :
    IsNormal code := by
  obtain ⟨c, -, rfl⟩ := readTriplet_of_fromTriplet h
  exact isNormal_code c

/-- A code has no blanks in it. -/
theorem IsCode.strip_eq {code : Text} (h : IsCode code) : Text.strip code = code := by
  obtain ⟨digits, rfl, -, hdigits⟩ := h
  refine Text.strip_of_no_blank fun c hc => ?_
  rcases List.mem_cons.mp hc with rfl | hc
  · decide
  · exact not_isBlank_of_isHexDigit (hdigits c hc)

theorem length_lengthen {digits : Text} (h : digits.length = 3 ∨ digits.length = 6) :
    (lengthen digits).length = 6 := by
  unfold lengthen
  split
  · rfl
  · rename_i hshort
    rcases h with h | h
    · obtain ⟨r, g, b, rfl⟩ := List.length_eq_three.mp h
      exact absurd rfl (hshort r g b)
    · exact h

theorem mem_of_mem_lengthen {digits : Text} {c : Char} (h : c ∈ lengthen digits) :
    c ∈ digits := by
  unfold lengthen at h
  split at h
  · simpa using h
  · exact h

/-- **Every code has a normal form.** -/
theorem IsCode.fromCode {code : Text} (h : IsCode code) :
    ∃ normal, fromCode code = some normal ∧ IsNormal normal := by
  have hstrip := h.strip_eq
  obtain ⟨digits, rfl, hlength, hdigits⟩ := h
  have hfound : codeDigits? ('#' :: digits) = some digits :=
    codeDigits?_eq_some_iff.mpr ⟨rfl, hlength, hdigits⟩
  refine ⟨_, by rw [Color.fromCode, hstrip, hfound]; rfl, _, rfl, ?_, ?_⟩
  · rw [List.length_map, length_lengthen hlength]
  · intro c hc
    obtain ⟨d, hd, rfl⟩ := List.mem_map.mp hc
    exact isCapitalDigit_toUpper (hdigits d (mem_of_mem_lengthen hd))

end Color

end SwatchIndex
