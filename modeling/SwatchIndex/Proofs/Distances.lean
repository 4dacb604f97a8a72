/-
Distances of texts, and texts that occur in others.

The table that `common` fills has a row for each head of the first text and a column for each head
of the second.  Every cell is the length of the longest common subsequence of the two heads: a
character at the end of both adds one, and else one of the two ends can be left out.  Each new row
keeps this (`isRow_nextRow`), so the last cell of the last row is right for the whole texts
(`longest_common`).  From there the distance is what it is meant to be, the least number of
insertions and deletions that lead from one text to the other (`edits_distance`, `le_of_edits`).

Counted in exact fractions, a score is full where the distance to some window is nothing, and
nowhere else.  So two texts have the full score exactly if one occurs in the other
(`score_exact`).
-/
import SwatchIndex.Ranking.Similarity
import Mathlib.Algebra.Order.Field.Rat
import Mathlib.Data.List.Basic
import Mathlib.Tactic.Linarith

namespace SwatchIndex.Similarity

/-! ### Longest common subsequences -/

/-- The longest common subsequence of two texts has the length `n`. -/
structure Longest (x y : Text) (n : Nat) : Prop where
  attained : ∃ z : Text, z.Sublist x ∧ z.Sublist y ∧ z.length = n
  largest : ∀ z : Text, z.Sublist x → z.Sublist y → z.length ≤ n

theorem longest_nil_left (y : Text) : Longest [] y 0 := by
  refine ⟨⟨[], List.nil_sublist _, List.nil_sublist _, rfl⟩, fun z hz _ => ?_⟩
  rw [List.sublist_nil.mp hz, List.length_nil]

theorem longest_nil_right (x : Text) : Longest x [] 0 := by
  refine ⟨⟨[], List.nil_sublist _, List.nil_sublist _, rfl⟩, fun z _ hz => ?_⟩
  rw [List.sublist_nil.mp hz, List.length_nil]

/-- A subsequence of a text with `c` at its end does without this `c`, or ends with it. -/
theorem sublist_concat_iff {z x : Text} {c : Char} :
    z.Sublist (x ++ [c]) ↔ z.Sublist x ∨ ∃ w : Text, z = w ++ [c] ∧ w.Sublist x := by
  rw [List.sublist_append_iff]
  constructor
  · rintro ⟨w, tail, rfl, hw, htail⟩
    rcases List.sublist_singleton.mp htail with rfl | rfl
    · exact Or.inl (by rwa [List.append_nil])
    · exact Or.inr ⟨w, rfl, hw⟩
  · rintro (hz | ⟨w, rfl, hw⟩)
    · exact ⟨z, [], (List.append_nil z).symm, hz, List.nil_sublist _⟩
    · exact ⟨w, [c], rfl, hw, List.Sublist.refl _⟩

/-- Without its last character, a subsequence does without the text's last character. -/
theorem dropLast_sublist_of_concat {z x : Text} {c : Char} (h : z.Sublist (x ++ [c])) :
    z.dropLast.Sublist x := by
  rcases sublist_concat_iff.mp h with hz | ⟨w, rfl, hw⟩
  · exact (List.dropLast_sublist z).trans hz
  · rwa [List.dropLast_concat]

/-- A character at the end of both texts adds one. -/
theorem Longest.concat_self {x y : Text} {n : Nat} (h : Longest x y n) (c : Char) :
    Longest (x ++ [c]) (y ++ [c]) (n + 1) := by
  constructor
  · obtain ⟨z, hx, hy, rfl⟩ := h.attained
    exact ⟨z ++ [c], hx.append_right [c], hy.append_right [c], by simp⟩
  · intro z hx hy
    have hz := h.largest z.dropLast (dropLast_sublist_of_concat hx)
      (dropLast_sublist_of_concat hy)
    rw [List.length_dropLast] at hz
    omega

/-- Of two different characters at the ends, one can be left out. -/
theorem Longest.concat_of_ne {x y : Text} {c d : Char} {above left : Nat} (hne : c ≠ d)
    (habove : Longest x (y ++ [d]) above) (hleft : Longest (x ++ [c]) y left) :
    Longest (x ++ [c]) (y ++ [d]) (max above left) := by
  constructor
  · rcases Nat.le_total above left with hle | hle
    · obtain ⟨z, hx, hy, hz⟩ := hleft.attained
      exact ⟨z, hx, hy.trans (List.sublist_append_left y [d]), by omega⟩
    · obtain ⟨z, hx, hy, hz⟩ := habove.attained
      exact ⟨z, hx.trans (List.sublist_append_left x [c]), hy, by omega⟩
  · intro z hx hy
    rcases sublist_concat_iff.mp hx with hz | ⟨w, rfl, -⟩
    · exact Nat.le_trans (habove.largest z hz hy) (Nat.le_max_left ..)
    · -- It ends with `c`, so it does without the `d` at the end of the other text.
      rcases sublist_concat_iff.mp hy with hz | ⟨w', hw', -⟩
      · exact Nat.le_trans (hleft.largest _ hx hz) (Nat.le_max_right ..)
      · exact absurd (List.append_inj_right' hw' rfl) (by simpa using hne)

/-! ### The table -/

/-- The cells of a row: the longest common subsequences of `x` with `done` and ever more characters
of a text. -/
def IsRow (x done : Text) : Text → List Nat → Prop
  | [], [] => True
  | c :: rest, cell :: row => Longest x (done ++ [c]) cell ∧ IsRow x (done ++ [c]) rest row
  | _, _ => False

theorem isRow_replicate (y : Text) :
    ∀ done : Text, IsRow [] done y (List.replicate y.length 0) := by
  induction y with
  | nil => intro done; trivial
  | cons c rest ih => intro done; exact ⟨longest_nil_left _, ih _⟩

/-- **A new row is made from the one above it.** -/
theorem isRow_nextRow {x y : Text} {c : Char} :
    ∀ {done : Text} {row : List Nat} {left corner : Nat}, IsRow x done y row →
      Longest (x ++ [c]) done left → Longest x done corner →
      IsRow (x ++ [c]) done y (nextRow c left corner y row) := by
  induction y with
  | nil => intro done row left corner _ _ _; trivial
  | cons d rest ih =>
      intro done row left corner hrow hleft hcorner
      cases row with
      | nil => exact hrow.elim
      | cons above row =>
          obtain ⟨habove, hrow⟩ := hrow
          have hcell : Longest (x ++ [c]) (done ++ [d])
              (if c == d then corner + 1 else max above left) := by
            by_cases hcd : c = d
            · subst hcd
              rw [if_pos (by simp)]
              exact hcorner.concat_self c
            · rw [if_neg (by simpa using hcd)]
              exact Longest.concat_of_ne hcd habove hleft
          exact ⟨hcell, ih hrow hcell habove⟩

theorem isRow_foldl {y : Text} (x : Text) : ∀ {done : Text} {row : List Nat}, IsRow done [] y row →
    IsRow (done ++ x) [] y (x.foldl (fun row c => nextRow c 0 0 y row) row) := by
  induction x with
  | nil => intro done row h; rwa [List.append_nil]
  | cons c rest ih =>
      intro done row h
      rw [List.foldl_cons, ← List.singleton_append, ← List.append_assoc]
      exact ih (isRow_nextRow h (longest_nil_right _) (longest_nil_right _))

/-- The last cell of a row is about the whole text. -/
theorem IsRow.longest_getLastD {x y : Text} : ∀ {done : Text} {row : List Nat} {n : Nat},
    IsRow x done y row → Longest x done n → Longest x (done ++ y) (row.getLastD n) := by
  induction y with
  | nil =>
      intro done row n hrow h
      cases row with
      | nil => rwa [List.append_nil]
      | cons cell row => exact hrow.elim
  | cons c rest ih =>
      intro done row n hrow h
      cases row with
      | nil => exact hrow.elim
      | cons cell row =>
          rw [← List.singleton_append, ← List.append_assoc, List.getLastD_cons]
          exact ih hrow.2 hrow.1

/-- **The table gives the length of the longest common subsequence.** -/
theorem longest_common (x y : Text) : Longest x y (common x y) :=
  (isRow_foldl x (isRow_replicate y [])).longest_getLastD (longest_nil_right x)

theorem common_le (x y : Text) : common x y ≤ x.length ∧ common x y ≤ y.length := by
  obtain ⟨z, hx, hy, hz⟩ := (longest_common x y).attained
  rw [← hz]
  exact ⟨hx.length_le, hy.length_le⟩

/-! ### Insertions and deletions -/

/-- A text becomes another one by `n` insertions and deletions of single characters. -/
inductive Edits : Text → Text → Nat → Prop
  | none (x : Text) : Edits x x 0
  | delete {u v y : Text} {n : Nat} (c : Char) (h : Edits (u ++ v) y n) :
      Edits (u ++ c :: v) y (n + 1)
  | insert {u v y : Text} {n : Nat} (c : Char) (h : Edits (u ++ c :: v) y n) :
      Edits (u ++ v) y (n + 1)

theorem Edits.trans {x y z : Text} {m n : Nat} (h : Edits x y m) (h' : Edits y z n) :
    Edits x z (m + n) := by
  induction h with
  | none x => rwa [Nat.zero_add]
  | delete c _ ih => rw [Nat.add_right_comm]; exact .delete c (ih h')
  | insert c _ ih => rw [Nat.add_right_comm]; exact .insert c (ih h')

theorem Edits.cons {x y : Text} {n : Nat} (h : Edits x y n) (a : Char) :
    Edits (a :: x) (a :: y) n := by
  induction h with
  | none x => exact .none _
  | @delete u v _ _ c _ ih => exact .delete (u := a :: u) c ih
  | @insert u v _ _ c _ ih => exact .insert (u := a :: u) c ih

/-- A subsequence is reached by deletions, and left by insertions. -/
theorem edits_of_sublist {z x : Text} (h : z.Sublist x) :
    Edits x z (x.length - z.length) ∧ Edits z x (x.length - z.length) := by
  induction h with
  | slnil => exact ⟨.none _, .none _⟩
  | @cons z x a hz ih =>
      have hle := hz.length_le
      rw [List.length_cons, Nat.succ_sub hle]
      exact ⟨.delete (u := []) a ih.1, .insert (u := []) a (ih.2.cons a)⟩
  | @cons_cons z x a hz ih =>
      rw [List.length_cons, List.length_cons, Nat.add_sub_add_right]
      exact ⟨ih.1.cons a, ih.2.cons a⟩

/-- The distance is a number of insertions and deletions that do. -/
theorem edits_distance (x y : Text) : Edits x y (distance x y) := by
  obtain ⟨z, hx, hy, hz⟩ := (longest_common x y).attained
  have hle := common_le x y
  have hsum : distance x y = (x.length - z.length) + (y.length - z.length) := by
    rw [distance, hz]
    omega
  rw [hsum]
  exact (edits_of_sublist hx).1.trans (edits_of_sublist hy).2

/-- One more character in a text adds at most one to what it has in common with another. -/
theorem common_insert (u v y : Text) (c : Char) :
    common (u ++ v) y ≤ common (u ++ c :: v) y ∧
      common (u ++ c :: v) y ≤ common (u ++ v) y + 1 := by
  constructor
  · obtain ⟨z, hx, hy, hz⟩ := (longest_common (u ++ v) y).attained
    rw [← hz]
    refine (longest_common _ y).largest z (hx.trans ?_) hy
    exact (List.sublist_cons_self c v).append_left u
  · obtain ⟨z, hx, hy, hz⟩ := (longest_common (u ++ c :: v) y).attained
    obtain ⟨front, back, rfl, hfront, hback⟩ := List.sublist_append_iff.mp hx
    have hshort : (front ++ back.tail).length ≤ common (u ++ v) y := by
      refine (longest_common _ y).largest _ (hfront.append hback.tail) (List.Sublist.trans ?_ hy)
      exact (List.tail_sublist back).append_left front
    rw [List.length_append, List.length_tail] at hshort
    rw [List.length_append] at hz
    omega

/-- **No fewer insertions and deletions do.** -/
theorem le_of_edits {x y : Text} {n : Nat} (h : Edits x y n) : distance x y ≤ n := by
  induction h with
  | none x =>
      have hall := (longest_common x x).largest x (List.Sublist.refl x) (List.Sublist.refl x)
      rw [distance]
      omega
  | @delete u v y n c _ ih =>
      have hcommon := common_insert u v y c
      have hle := common_le (u ++ v) y
      simp only [distance, List.length_append, List.length_cons] at ih hle ⊢
      omega
  | @insert u v y n c _ ih =>
      have hcommon := common_insert u v y c
      have hle := common_le (u ++ c :: v) y
      simp only [distance, List.length_append, List.length_cons] at ih hle ⊢
      omega

example : distance "abcd".toList "bcxd".toList = 2 := by decide

theorem distance_eq_zero_iff {x y : Text} : distance x y = 0 ↔ x = y := by
  constructor
  · intro h
    have hedits := edits_distance x y
    rw [h] at hedits
    cases hedits
    rfl
  · rintro rfl
    exact Nat.le_zero.mp (le_of_edits (.none x))

/-! ### Windows -/

/-- A window is a part of the text. -/
theorem isInfix_of_mem_windows {n : Nat} {long w : Text} (h : w ∈ windows n long) :
    w <:+: long := by
  simp only [windows, List.mem_append, List.mem_map] at h
  rcases h with (⟨i, -, rfl⟩ | ⟨i, -, rfl⟩) | ⟨i, -, rfl⟩
  · exact (List.take_prefix i long).isInfix
  · exact ((List.take_prefix n _).isInfix).trans (List.drop_suffix i long).isInfix
  · exact (List.drop_suffix i long).isInfix

/-- Every part of the given length is a window. -/
theorem mem_windows_of_isInfix {short long : Text} (h : short <:+: long) :
    short ∈ windows short.length long := by
  obtain ⟨u, v, rfl⟩ := h
  simp only [windows, List.mem_append, List.mem_map, List.mem_range]
  refine Or.inl (Or.inr ⟨u.length, ?_, ?_⟩)
  · simp only [List.length_append]
    omega
  · rw [List.append_assoc, List.drop_left, List.take_left]

/-! ### Exact scores -/

/-- Scores from 0 to 100 in exact fractions. -/
def Scale.exact : Scale ℚ where
  full := 100
  nothing := 0
  ratio d total := (1 - d / total) * 100
  atMost a b := a ≤ b

/-- The scores in exact fractions. -/
def Measure.exact : Measure ℚ := Scale.exact.measure

theorem max_exact (a b : ℚ) : Scale.exact.max a b = max a b := by
  by_cases h : a ≤ b
  · rw [max_eq_right h, Scale.max, if_pos (by simpa [Scale.exact] using h)]
  · rw [max_eq_left (le_of_not_ge h), Scale.max, if_neg (by simpa [Scale.exact] using h)]

/-- A distance of nothing has the full score, and every other one less. -/
theorem ratio_exact (d : Nat) {total : Nat} (htotal : 0 < total) :
    Scale.exact.ratio d total ≤ 100 ∧ (Scale.exact.ratio d total < 100 ↔ d ≠ 0) := by
  have hpos : (0 : ℚ) < total := Nat.cast_pos.mpr htotal
  have hnonneg : (0 : ℚ) ≤ (d : ℚ) / total := div_nonneg (Nat.cast_nonneg d) hpos.le
  show (1 - (d : ℚ) / total) * 100 ≤ 100 ∧ ((1 - (d : ℚ) / total) * 100 < 100 ↔ d ≠ 0)
  refine ⟨by linarith, ?_, fun hd => ?_⟩
  · rintro hlt rfl
    simp at hlt
  · have hpart : (0 : ℚ) < (d : ℚ) / total :=
      div_pos (Nat.cast_pos.mpr (Nat.pos_of_ne_zero hd)) hpos
    linarith

theorem foldl_max_lt_iff {α : Type} {f : α → ℚ} {l : List α} {b : ℚ} :
    ∀ {a : ℚ}, l.foldl (fun s w => Scale.exact.max s (f w)) a < b ↔ a < b ∧ ∀ w ∈ l, f w < b := by
  induction l with
  | nil => intro a; simp
  | cons w rest ih =>
      intro a
      rw [List.foldl_cons, ih, max_exact, max_lt_iff, List.forall_mem_cons, and_assoc]

theorem foldl_max_le_iff {α : Type} {f : α → ℚ} {l : List α} {b : ℚ} :
    ∀ {a : ℚ}, l.foldl (fun s w => Scale.exact.max s (f w)) a ≤ b ↔ a ≤ b ∧ ∀ w ∈ l, f w ≤ b := by
  induction l with
  | nil => intro a; simp
  | cons w rest ih =>
      intro a
      rw [List.foldl_cons, ih, max_exact, max_le_iff, List.forall_mem_cons, and_assoc]

/-- The best score of a text that is not empty is full exactly if the text occurs in the other. -/
theorem best_exact {short : Text} (hshort : short ≠ []) (long : Text) :
    best Scale.exact short long ≤ 100 ∧
      (best Scale.exact short long = 100 ↔ short <:+: long) := by
  have htotal : ∀ w : Text, 0 < short.length + w.length := fun w =>
    Nat.add_pos_left (List.length_pos_iff.mpr hshort) _
  have hle : best Scale.exact short long ≤ 100 := by
    rw [best, foldl_max_le_iff]
    exact ⟨by norm_num [Scale.exact], fun w _ => (ratio_exact _ (htotal w)).1⟩
  have hlt : best Scale.exact short long < 100 ↔ ∀ w ∈ windows short.length long, short ≠ w := by
    have hstart : Scale.exact.nothing < 100 := by norm_num [Scale.exact]
    rw [best, foldl_max_lt_iff, and_iff_right hstart]
    refine forall₂_congr fun w _ => ?_
    rw [(ratio_exact _ (htotal w)).2, ne_eq, distance_eq_zero_iff]
  refine ⟨hle, ?_⟩
  rw [← not_iff_not, ← ne_eq, ← hle.lt_iff_ne, hlt]
  constructor
  · exact fun h hinside => h short (mem_windows_of_isInfix hinside) rfl
  · rintro h w hw rfl
    exact h (isInfix_of_mem_windows hw)

/-- One of the texts occurs in the other, and the second is not empty. -/
def Related (needle name : Text) : Prop :=
  name ≠ [] ∧ (needle <:+: name ∨ name <:+: needle)

instance (needle name : Text) : Decidable (Related needle name) :=
  inferInstanceAs (Decidable (_ ∧ _))

/-- **The score of two texts is full exactly if one occurs in the other.** -/
theorem score_exact {needle name : Text} (hneedle : needle ≠ []) :
    score Scale.exact needle name ≤ 100 ∧
      (score Scale.exact needle name = 100 ↔ Related needle name) := by
  have hempty : needle.isEmpty = false := by simpa using hneedle
  by_cases hname : name = []
  · subst hname
    have hscore : score Scale.exact needle [] = 0 := by simp [score, hempty, Scale.exact]
    rw [hscore]
    norm_num [Related]
  · have hempty' : name.isEmpty = false := by simpa using hname
    rw [Related, and_iff_right hname]
    simp only [score, hempty, hempty', Bool.and_self, Bool.or_self, Bool.false_eq_true, if_false]
    split
    · rename_i hlt
      have hnot : ¬ name <:+: needle := fun h => Nat.not_lt.mpr h.length_le hlt
      rw [or_iff_left hnot]
      exact best_exact hneedle name
    · split
      · rename_i hlt
        have hnot : ¬ needle <:+: name := fun h => Nat.not_lt.mpr h.length_le hlt
        rw [or_iff_right hnot]
        exact best_exact hname needle
      · obtain ⟨hle, hfull⟩ := best_exact hneedle name
        obtain ⟨hle', hfull'⟩ := best_exact hname needle
        rw [max_exact]
        refine ⟨max_le hle hle', ?_⟩
        rw [← hfull, ← hfull']
        constructor
        · intro h
          rcases max_choice (best Scale.exact needle name) (best Scale.exact name needle) with
            hmax | hmax
          · exact Or.inl (hmax ▸ h)
          · exact Or.inr (hmax ▸ h)
        · rintro (h | h)
          · exact le_antisymm (max_le hle hle') (h ▸ le_max_left _ _)
          · exact le_antisymm (max_le hle hle') (h ▸ le_max_right _ _)

end SwatchIndex.Similarity
