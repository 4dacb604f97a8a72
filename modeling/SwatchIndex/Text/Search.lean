/-
Leftmost search.

A pattern is a function that looks at the text from one place on and is told whether a name
character stands just before that place.  `search` tries the places from left to right.
-/
import SwatchIndex.Text.Basic

namespace SwatchIndex

/-- The leftmost place of the text where `accept` succeeds, with its result.  `pos` is the offset of
the text's first character, and `before` says whether a name character precedes it. -/
def search (accept : Bool → Text → Option α) (before : Bool) (pos : Nat) :
    Text → Option (Nat × α)
  | [] => (accept before []).map fun a => (pos, a)
  | c :: rest =>
    match accept before (c :: rest) with
    | some a => some (pos, a)
    | none => search accept (isNameChar c) (pos + 1) rest

/-- A search that succeeds does so at some place of the text. -/
theorem search_eq_some {accept : Bool → Text → Option α} :
    ∀ {t : Text} {before : Bool} {pos i : Nat} {a : α}, search accept before pos t = some (i, a) →
      ∃ b k, i = pos + k ∧ k ≤ t.length ∧ accept b (t.drop k) = some a := by
  intro t
  induction t with
  | nil =>
      intro before pos i a h
      simp only [search, Option.map_eq_some_iff, Prod.mk.injEq] at h
      obtain ⟨x, hx, rfl, rfl⟩ := h
      exact ⟨before, 0, rfl, Nat.le_refl _, hx⟩
  | cons c rest ih =>
      intro before pos i a h
      simp only [search] at h
      split at h
      · rename_i x hx
        simp only [Option.some.injEq, Prod.mk.injEq] at h
        obtain ⟨rfl, rfl⟩ := h
        exact ⟨before, 0, rfl, Nat.zero_le _, hx⟩
      · obtain ⟨b, k, hi, hk, ha⟩ := ih h
        exact ⟨b, k + 1, by omega, by simpa using hk, by simpa using ha⟩

end SwatchIndex
