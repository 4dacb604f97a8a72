/-
Which values are aliases.

A value is an alias if it is `var(--name)`, or `var(--name)` inside `rgb()` or `rgba()`, and nothing
else.  Space may stand inside the parentheses, and blanks around the whole.  `IsAlias` says so as a
grammar, and says nothing about a reader.

The reader takes one run after the other: space, name characters, space.  These classes and the
closing parenthesis keep out of each other's way, so each run ends where the grammar says and
nowhere else (`reference?_append`, `isReference_of_reference?`).  A text of the grammar starts with
a letter and ends with a parenthesis, so trimming takes away what is around it and nothing of it
(`IsAlias.strip_around`).
-/
import SwatchIndex.Registry.Alias
import SwatchIndex.Proofs.Characters
import Mathlib.Data.List.Basic

namespace SwatchIndex

namespace Alias

/-! ### The grammar -/

/-- ASCII white space, perhaps none. -/
def IsGap (t : Text) : Prop := ∀ c ∈ t, isSpace c = true

/-- `var(`, a name and `)`, with gaps around the name. -/
def IsReference (name t : Text) : Prop :=
  IsPropertyName name ∧ ∃ left right, IsGap left ∧ IsGap right ∧
    t = "var(".toList ++ (left ++ (name ++ (right ++ [')'])))

/-- A reference alone, or inside a colour function with gaps around it. -/
inductive IsAlias (name : Text) : Text → Prop
  | plain {t : Text} (href : IsReference name t) : IsAlias name t
  | channels {opening left t right : Text} (hopening : opening ∈ ["rgb(".toList, "rgba(".toList])
      (hleft : IsGap left) (href : IsReference name t) (hright : IsGap right) :
      IsAlias name (opening ++ (left ++ (t ++ (right ++ [')']))))

/-! ### Runs and what ends them -/

/-- A gap and the parenthesis behind it end a run of a class that has neither. -/
theorem IsGap.stop {p : Char → Bool} {gap rest : Text} (h : IsGap gap)
    (hspace : ∀ c, isSpace c = true → p c = false) (hparen : p ')' = false) :
    ∀ c ∈ (gap ++ ')' :: rest).head?, p c = false := by
  cases gap with
  | nil => exact stop_cons hparen
  | cons c more => exact stop_cons (hspace c (h c List.mem_cons_self))

/-- A name is not part of the gap before it. -/
theorem stop_isSpace_of_isPropertyName {name rest : Text} (h : IsPropertyName name) :
    ∀ c ∈ (name ++ rest).head?, isSpace c = false := by
  obtain ⟨more, rfl, -, -⟩ := h
  exact stop_cons (by decide)

/-! ### The reader finds the grammar -/

theorem reference?_append {name t rest : Text} (h : IsReference name t) :
    reference? (t ++ rest) = some (name, rest) := by
  obtain ⟨hname, left, right, hleft, hright, rfl⟩ := h
  obtain ⟨hisName, hchars⟩ := isPropertyName_iff.mp hname
  have hsplit : "var(".toList ++ (left ++ (name ++ (right ++ [')']))) ++ rest =
      "var(".toList ++ (left ++ (name ++ (right ++ ')' :: rest))) := by
    simp only [List.append_assoc, List.singleton_append]
  have hopen : "var(".toList.isPrefixOf?
      ("var(".toList ++ (left ++ (name ++ (right ++ ')' :: rest)))) =
        some (left ++ (name ++ (right ++ ')' :: rest))) :=
    List.isPrefixOf?_eq_some_iff_append_eq.mpr rfl
  have hstop : ∀ c ∈ (right ++ ')' :: rest).head?, isNameChar c = false :=
    hright.stop (fun _ => not_isNameChar_of_isSpace) (by decide)
  have hparen : ∀ c ∈ (')' :: rest).head?, isSpace c = false := stop_cons (by decide)
  rw [hsplit]
  simp only [reference?, hopen, Option.bind_eq_bind, Option.bind_some,
    dropWhile_run hleft (stop_isSpace_of_isPropertyName hname), takeWhile_run hchars hstop,
    dropWhile_run hchars hstop, dropWhile_run hright hparen, hisName, if_true]

theorem isReference_of_reference? {t name rest : Text} (h : reference? t = some (name, rest)) :
    ∃ r, IsReference name r ∧ t = r ++ rest := by
  obtain ⟨inner, hinner, h⟩ := Option.bind_eq_some_iff.mp h
  have ht : "var(".toList ++ inner = t := List.isPrefixOf?_eq_some_iff_append_eq.mp hinner
  dsimp only at h
  split at h
  · rename_i hname
    split at h
    · rename_i rest' hparen
      simp only [Option.some.injEq, Prod.mk.injEq] at h
      obtain ⟨rfl, rfl⟩ := h
      obtain ⟨left, hleft, hleftGap⟩ := exists_run (rfl : inner.dropWhile isSpace = _)
      obtain ⟨right, hright, hrightGap⟩ := exists_run hparen
      refine ⟨_, ⟨?_, left, right, hleftGap, hrightGap, rfl⟩, ?_⟩
      · exact isPropertyName_iff.mpr ⟨hname, fun c => List.mem_takeWhile_imp⟩
      · have hinside : inner.dropWhile isSpace =
            (inner.dropWhile isSpace).takeWhile isNameChar ++ (right ++ ')' :: rest') := by
          rw [← hright, List.takeWhile_append_dropWhile]
        rw [← ht]
        nth_rewrite 1 [hleft]
        nth_rewrite 1 [hinside]
        simp only [List.append_assoc, List.singleton_append]
    · simp at h
  · simp at h

theorem plain?_eq_some_iff {t name : Text} : plain? t = some name ↔ IsReference name t := by
  constructor
  · intro h
    unfold plain? at h
    split at h
    · rename_i found hread
      obtain rfl := Option.some.inj h
      obtain ⟨r, href, rfl⟩ := isReference_of_reference? hread
      rwa [List.append_nil]
    · simp at h
  · intro h
    have hread : reference? (t ++ []) = some (name, []) := reference?_append h
    rw [List.append_nil] at hread
    simp only [plain?, hread]

/-- A reference is not part of the gap before it. -/
theorem IsReference.stop_isSpace {name t rest : Text} (h : IsReference name t) :
    ∀ c ∈ (t ++ rest).head?, isSpace c = false := by
  obtain ⟨-, left, right, -, -, rfl⟩ := h
  exact stop_cons (by decide)

/-- What follows the opening of a colour function. -/
theorem opening_eq_some_iff {t inner : Text} :
    ("rgb(".toList.isPrefixOf? t).or ("rgba(".toList.isPrefixOf? t) = some inner ↔
      ∃ opening ∈ ["rgb(".toList, "rgba(".toList], t = opening ++ inner := by
  constructor
  · intro h
    rcases Option.or_eq_some_iff.mp h with h | ⟨-, h⟩
    · exact ⟨_, by simp, (List.isPrefixOf?_eq_some_iff_append_eq.mp h).symm⟩
    · exact ⟨_, by simp, (List.isPrefixOf?_eq_some_iff_append_eq.mp h).symm⟩
  · rintro ⟨opening, hopening, rfl⟩
    simp only [List.mem_cons, List.not_mem_nil, or_false] at hopening
    rcases hopening with rfl | rfl <;> rfl

theorem channels?_eq_some_iff {t name : Text} :
    channels? t = some name ↔
      ∃ opening ∈ ["rgb(".toList, "rgba(".toList], ∃ left r right, IsGap left ∧ IsReference name r ∧
        IsGap right ∧ t = opening ++ (left ++ (r ++ (right ++ [')']))) := by
  constructor
  · intro h
    simp only [channels?, Option.bind_eq_bind, Option.bind_eq_some_iff, Prod.exists,
      Option.ite_none_right_eq_some, Option.some.injEq] at h
    obtain ⟨inner, hinner, name', rest, hread, hrest, rfl⟩ := h
    obtain ⟨opening, hopening, rfl⟩ := opening_eq_some_iff.mp hinner
    obtain ⟨r, href, hinside⟩ := isReference_of_reference? hread
    obtain ⟨left, hleft, hleftGap⟩ := exists_run hinside
    obtain ⟨right, hright, hrightGap⟩ := exists_run hrest
    refine ⟨opening, hopening, left, r, right, hleftGap, href, hrightGap, ?_⟩
    rw [hleft, hright]
  · rintro ⟨opening, hopening, left, r, right, hleft, href, hright, rfl⟩
    have hinner := opening_eq_some_iff.mpr
      ⟨opening, hopening, (rfl : opening ++ (left ++ (r ++ (right ++ [')']))) = _)⟩
    have hparen : ∀ c ∈ ([')'] : Text).head?, isSpace c = false := stop_cons (by decide)
    simp only [channels?, hinner, Option.bind_eq_bind, Option.bind_some,
      dropWhile_run hleft href.stop_isSpace, reference?_append href, dropWhile_run hright hparen,
      if_true]

/-- A reference starts with a letter, and the functions start with another one. -/
theorem plain?_opening {opening t : Text} (h : opening ∈ ["rgb(".toList, "rgba(".toList]) :
    plain? (opening ++ t) = none := by
  simp only [List.mem_cons, List.not_mem_nil, or_false] at h
  rcases h with rfl | rfl <;> rfl

/-- **A trimmed value is read as an alias exactly if it is one.** -/
theorem target?_eq_some_iff {value name : Text} :
    target? value = some name ↔ IsAlias name (Text.strip value) := by
  show (plain? (Text.strip value)).or (channels? (Text.strip value)) = some name ↔ _
  generalize Text.strip value = t
  constructor
  · intro h
    rcases Option.or_eq_some_iff.mp h with hplain | ⟨-, hchannels⟩
    · exact .plain (plain?_eq_some_iff.mp hplain)
    · obtain ⟨opening, hopening, left, r, right, hleft, href, hright, rfl⟩ :=
        channels?_eq_some_iff.mp hchannels
      exact .channels hopening hleft href hright
  · intro h
    cases h with
    | plain href => rw [plain?_eq_some_iff.mpr href, Option.some_or]
    | channels hopening hleft href hright =>
        rw [plain?_opening hopening, Option.none_or]
        exact channels?_eq_some_iff.mpr ⟨_, hopening, _, _, _, hleft, href, hright, rfl⟩

/-! ### Around an alias -/

/-- An alias has no blank at either end. -/
theorem IsAlias.ends {name t : Text} (h : IsAlias name t) :
    (∀ rest, ∀ c ∈ (t ++ rest).head?, isBlank c = false) ∧ ∀ c ∈ t.getLast?, isBlank c = false := by
  have hparen : ∀ x : Text, ∀ c ∈ (x ++ [')']).getLast?, isBlank c = false := by
    intro x c hc
    obtain rfl : ')' = c := by simpa using hc
    decide
  cases h with
  | plain href =>
      obtain ⟨-, left, right, -, -, rfl⟩ := href
      refine ⟨fun rest => stop_cons (by decide), ?_⟩
      simp only [← List.append_assoc]
      exact hparen _
  | channels hopening =>
      simp only [List.mem_cons, List.not_mem_nil, or_false] at hopening
      refine ⟨fun rest => ?_, ?_⟩
      · rcases hopening with rfl | rfl <;> exact stop_cons (by decide)
      · simp only [← List.append_assoc]
        exact hparen _

/-- Blanks around an alias are trimmed, and nothing of it is. -/
theorem IsAlias.strip_around {name x t y : Text} (h : IsAlias name t)
    (hx : ∀ c ∈ x, isBlank c = true) (hy : ∀ c ∈ y, isBlank c = true) :
    Text.strip (x ++ (t ++ y)) = t :=
  Text.strip_around hx hy (h.ends.1 y) h.ends.2

/--
**A value is taken for an alias exactly if it is one.**  It is `var(--name)`, alone or inside
`rgb()` or `rgba()`, with white space of ASCII inside the parentheses and any blanks around the
whole.  The name is the only one that the value can be read with, and every other value is no alias.
-/
theorem target_iff_isAlias (value : Text) :
    (∀ name, target? value = some name ↔ IsAlias name (Text.strip value)) ∧
      (∀ name, target? value = some name ↔
        ∃ x t y, value = x ++ (t ++ y) ∧ (∀ c ∈ x, isBlank c = true) ∧
          (∀ c ∈ y, isBlank c = true) ∧ IsAlias name t) ∧
      (∀ name name', IsAlias name (Text.strip value) → IsAlias name' (Text.strip value) →
        name = name') ∧
      (target? value = none ↔ ∀ name, ¬ IsAlias name (Text.strip value)) := by
  refine ⟨fun name => target?_eq_some_iff, fun name => ?_, ?_, ?_⟩
  · rw [target?_eq_some_iff]
    constructor
    · intro h
      obtain ⟨x, y, hvalue, hx, hy⟩ := Text.exists_around_strip value
      exact ⟨x, Text.strip value, y, hvalue, hx, hy, h⟩
    · rintro ⟨x, t, y, rfl, hx, hy, h⟩
      rwa [h.strip_around hx hy]
  · intro name name' h h'
    exact Option.some.inj ((target?_eq_some_iff.mpr h).symm.trans (target?_eq_some_iff.mpr h'))
  · rw [Option.eq_none_iff_forall_ne_some]
    exact forall_congr' fun name => not_congr target?_eq_some_iff

/-- A value to fall back to makes a reference something else than an alias. -/
example : target? " rgba( var(\t--a ) )\n".toList = some "--a".toList ∧
    target? "var(--a, #fff)".toList = none := by
  decide

end Alias

end SwatchIndex
