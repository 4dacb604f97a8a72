/-
Occurrences do not hide each other.

The scan for `var(--name)` goes on behind an occurrence that it has found.  Nothing is lost by that:
no occurrence starts within another one (`length_le_of_overlap`), since the run of name characters
behind an opening parenthesis ends there with a closing one.  So every occurrence in a text is
found, whatever stands before and behind it (`mem_all`).
-/
import SwatchIndex.Proofs.Characters
import SwatchIndex.Usage
import Mathlib.Data.List.Basic

namespace SwatchIndex

namespace Occurrence

/-- What an occurrence of a name looks like. -/
def written (name : Text) : Text := 'v' :: 'a' :: 'r' :: '(' :: (name ++ [')'])

theorem length_written (name : Text) : (written name).length = name.length + 5 := by
  simp [written]

theorem written_append (name rest : Text) :
    written name ++ rest = "var(".toList ++ (name ++ ')' :: rest) := by
  show 'v' :: 'a' :: 'r' :: '(' :: (name ++ [')'] ++ rest) = _
  rw [List.append_assoc]
  rfl

theorem name?_eq_some_iff {t name : Text} :
    name? t = some name ↔ IsPropertyName name ∧ ∃ rest, t = written name ++ rest := by
  rw [isPropertyName_iff]
  constructor
  · intro h
    obtain ⟨inner, hinner, h⟩ := Option.bind_eq_some_iff.mp h
    have ht : "var(".toList ++ inner = t := List.isPrefixOf?_eq_some_iff_append_eq.mp hinner
    dsimp only at h
    split at h
    · rename_i hname
      split at h
      · rename_i rest hparen
        obtain rfl := Option.some.inj h
        refine ⟨⟨hname, fun c => List.mem_takeWhile_imp⟩, rest, ?_⟩
        rw [written_append, ← hparen, List.takeWhile_append_dropWhile, ht]
      · simp at h
    · simp at h
  · rintro ⟨⟨hname, hchars⟩, rest, rfl⟩
    have hstop : ∀ c ∈ (')' :: rest).head?, isNameChar c = false := stop_cons (by decide)
    have hinner : "var(".toList.isPrefixOf? (written name ++ rest) =
        some (name ++ ')' :: rest) := by
      rw [List.isPrefixOf?_eq_some_iff_append_eq, written_append]
    simp only [name?, hinner, Option.bind_eq_bind, Option.bind_some, takeWhile_run hchars hstop,
      dropWhile_run hchars hstop, hname, if_true]

/-- **No occurrence starts within another one.** -/
theorem length_le_of_overlap {u rest rest' name name' : Text} (hname : IsPropertyName name)
    (h : written name ++ rest = u ++ (written name' ++ rest')) (hu : u ≠ []) :
    (written name).length ≤ u.length := by
  obtain ⟨-, hchars⟩ := isPropertyName_iff.mp hname
  by_contra hlt
  obtain ⟨z, hz, hrest⟩ : ∃ z, written name = u ++ z ∧ written name' ++ rest' = z ++ rest := by
    rcases List.append_eq_append_iff.mp h with ⟨z, hz, -⟩ | hinside
    · rw [hz, List.length_append] at hlt
      omega
    · exact hinside
  -- The second occurrence starts in the word, at the parenthesis or in the name of the first.
  rcases u with _ | ⟨a, _ | ⟨b, _ | ⟨c, _ | ⟨d, u⟩⟩⟩⟩
  · exact hu rfl
  · obtain ⟨-, rfl⟩ := List.cons.inj hz
    simp [written] at hrest
  · obtain ⟨-, -, rfl⟩ : 'v' = a ∧ 'a' = b ∧ _ = z := by simpa [written] using hz
    simp [written] at hrest
  · obtain ⟨-, -, -, rfl⟩ : 'v' = a ∧ 'a' = b ∧ 'r' = c ∧ _ = z := by simpa [written] using hz
    simp [written] at hrest
  · have hinner : name ++ [')'] = u ++ z := by
      simp only [written, List.cons_append, List.cons.injEq] at hz
      exact hz.2.2.2.2
    obtain ⟨y, rfl, rfl⟩ : ∃ y, name = u ++ y ∧ z = y ++ [')'] := by
      rcases List.append_eq_append_iff.mp hinner with ⟨y, rfl, hy⟩ | hinside
      · simp only [length_written, List.length_cons, List.length_append] at hlt
        cases y with
        | nil => exact ⟨[], by simp, by simpa using hy.symm⟩
        | cons e more => simp only [List.length_cons] at hlt; omega
      · exact hinside
    have hrun : ['v', 'a', 'r'] ++ '(' :: (name' ++ ')' :: rest') = y ++ ')' :: rest := by
      simpa [written] using hrest
    have hword : ∀ d ∈ ['v', 'a', 'r'], isNameChar d = true := List.all_eq_true.mp (by decide)
    have hparen := run_inj hrun hword (fun d hd => hchars d (List.mem_append_right u hd))
      (by decide) (by decide)
    exact absurd hparen.2.1 (by decide)

/-- Every occurrence that starts where the scan looks for one is found. -/
theorem mem_scan {name : Text} (hname : IsPropertyName name) (rest : Text) :
    ∀ {u : Text} {pos skip : Nat}, skip ≤ u.length →
      ⟨pos + u.length, pos + u.length + name.length + 5, name⟩ ∈
        scan pos skip (u ++ (written name ++ rest)) := by
  have hhere : name? (written name ++ rest) = some name :=
    name?_eq_some_iff.mpr ⟨hname, rest, rfl⟩
  intro u
  induction u with
  | nil =>
      intro pos skip hskip
      obtain rfl : skip = 0 := by simpa using hskip
      obtain ⟨c, more, hcons⟩ : ∃ c more, written name ++ rest = c :: more := ⟨_, _, rfl⟩
      rw [hcons] at hhere
      rw [List.nil_append, hcons, scan, hhere]
      exact List.mem_cons_self
  | cons c u ih =>
      intro pos skip hskip
      have hpos : pos + (c :: u).length = pos + 1 + u.length := by
        rw [List.length_cons]
        omega
      rw [hpos, List.cons_append]
      cases skip with
      | succ skip => exact ih (by simpa using hskip)
      | zero =>
          simp only [scan]
          split
          · rename_i other hother
            obtain ⟨hother, rest', hsplit⟩ := name?_eq_some_iff.mp hother
            have hlength := length_le_of_overlap hother hsplit.symm (List.cons_ne_nil c u)
            rw [length_written, List.length_cons] at hlength
            exact List.mem_cons_of_mem _ (ih (by omega))
          · exact ih (Nat.zero_le _)

/-- **Every occurrence in a text is found.** -/
theorem mem_all {u name : Text} (hname : IsPropertyName name) (rest : Text) :
    ⟨u.length, u.length + name.length + 5, name⟩ ∈ all (u ++ (written name ++ rest)) := by
  have hfound := @mem_scan name hname rest u 0 0 (Nat.zero_le _)
  rwa [Nat.zero_add] at hfound

end Occurrence

end SwatchIndex
