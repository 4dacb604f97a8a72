/-
Ranked candidates in their order.

The candidates that fit a typed name are sorted by how well they fit.  The sort is stable: of the
items with one score, none overtakes another (`filter_descending`).  This decides the place of every
candidate, also of one that is listed twice, if items are told apart by where they stand in the
input (`exists_order`).  And items with the highest of all scores come first, in the order in which
they came in (`descending_eq_top_append`).

Counted in exact fractions, the highest score is that of a name that contains the typed one or is
contained in it, so no other name is listed before one of these.
-/
import SwatchIndex.Ranking
import SwatchIndex.Proofs.Aliases
import SwatchIndex.Proofs.Distances
import Mathlib.Data.List.FinRange

namespace SwatchIndex

/-! ### Sorting by decreasing scores -/

section Sorting

variable {α β σ : Type} [LinearOrder σ] {score : α → σ} {l : List α}

/-- The items with the highest scores first. -/
def descending (score : α → σ) (l : List α) : List α :=
  l.mergeSort fun a b => decide (score b ≤ score a)

theorem descending_perm (score : α → σ) (l : List α) : (descending score l).Perm l :=
  List.mergeSort_perm l _

theorem descending_map (f : β → α) (l : List β) :
    descending score (l.map f) = (descending (fun b => score (f b)) l).map f := by
  rw [descending, descending, List.map_mergeSort]
  intro a _ b _
  rfl

/-- The comparison of scores is transitive. -/
theorem descending_trans (score : α → σ) (a b c : α) (hab : decide (score b ≤ score a) = true)
    (hbc : decide (score c ≤ score b) = true) : decide (score c ≤ score a) = true :=
  decide_eq_true (le_trans (of_decide_eq_true hbc) (of_decide_eq_true hab))

/-- Any two scores compare. -/
theorem descending_total (score : α → σ) (a b : α) :
    (decide (score b ≤ score a) || decide (score a ≤ score b)) = true := by
  rw [Bool.or_eq_true, decide_eq_true_eq, decide_eq_true_eq]
  exact le_total _ _

theorem pairwise_descending (score : α → σ) (l : List α) :
    (descending score l).Pairwise fun a b => score b ≤ score a :=
  (List.pairwise_mergeSort (descending_trans score) (descending_total score) l).imp
    of_decide_eq_true

/-- **Items of one score keep their order.** -/
theorem filter_descending {p : α → Bool}
    (h : ∀ a ∈ l, ∀ b ∈ l, p a = true → p b = true → score b ≤ score a) :
    (descending score l).filter p = l.filter p := by
  have hsorted : (l.filter p).Pairwise fun a b => decide (score b ≤ score a) = true := by
    refine List.pairwise_of_forall_mem_list fun a ha b hb => decide_eq_true ?_
    rw [List.mem_filter] at ha hb
    exact h a ha.1 b hb.1 ha.2 hb.2
  have hsub : (l.filter p).Sublist (descending score l) :=
    List.sublist_mergeSort (descending_trans score) (descending_total score) hsorted
      List.filter_sublist
  -- What is left of the sorted list has the same items, so the subsequence is all of it.
  have hkept : (l.filter p).Sublist ((descending score l).filter p) := by
    simpa using hsub.filter p
  exact (hkept.eq_of_length ((descending_perm score l).filter p).length_eq.symm).symm

/-- Where what holds of an item holds of those before it, these items come first. -/
theorem eq_filter_append_filter_not {p : α → Bool}
    (h : l.Pairwise fun a b => p b = true → p a = true) :
    l = l.filter p ++ l.filter fun a => !p a := by
  induction l with
  | nil => rfl
  | cons a rest ih =>
      obtain ⟨ha, hrest⟩ := List.pairwise_cons.mp h
      cases hp : p a with
      | true =>
          rw [List.filter_cons_of_pos hp, List.filter_cons_of_neg (by simp [hp]), List.cons_append,
            ← ih hrest]
      | false =>
          have hnone : ∀ b ∈ rest, p b = false := by
            intro b hb
            by_contra hpb
            rw [ha b hb (by simpa using hpb)] at hp
            cases hp
          have hnil : rest.filter p = [] := List.filter_eq_nil_iff.mpr (by simpa using hnone)
          have hall : rest.filter (fun b => !p b) = rest :=
            List.filter_eq_self.mpr (by simpa using hnone)
          rw [List.filter_cons_of_neg (by simp [hp]), List.filter_cons_of_pos (by simp [hp]), hnil,
            hall, List.nil_append]

/-- **Items with the highest score come first, in their order.** -/
theorem descending_eq_top_append {top : σ} (h : ∀ a ∈ l, score a ≤ top) :
    descending score l =
      l.filter (fun a => score a = top) ++
        (descending score l).filter fun a => !decide (score a = top) := by
  have hties : (descending score l).filter (fun a => score a = top) =
      l.filter fun a => score a = top := by
    refine filter_descending fun a _ b _ ha hb => ?_
    rw [of_decide_eq_true ha, of_decide_eq_true hb]
  have hfirst : (descending score l).Pairwise fun a b =>
      decide (score b = top) = true → decide (score a = top) = true := by
    refine (pairwise_descending score l).imp_of_mem fun {a b} ha _ hba hb => decide_eq_true ?_
    rw [of_decide_eq_true hb] at hba
    exact le_antisymm (h a ((descending_perm score l).mem_iff.mp ha)) hba
  rw [← hties]
  exact eq_filter_append_filter_not hfirst

/-- What relates the items of a list in order still relates those of one score. -/
theorem pairwise_descending_of_pairwise {r : α → α → Prop} (h : l.Pairwise r) :
    (descending score l).Pairwise fun a b => score b < score a ∨ score b = score a ∧ r a b := by
  rw [List.pairwise_iff_forall_sublist]
  intro a b hab
  have hle : score b ≤ score a :=
    List.pairwise_iff_forall_sublist.mp (pairwise_descending score l) hab
  rcases lt_or_eq_of_le hle with hlt | heq
  · exact Or.inl hlt
  · -- The two have one score, so they stand as they stood before.
    have hties : (descending score l).filter (fun c => score c = score a) =
        l.filter fun c => score c = score a := by
      refine filter_descending fun c _ d _ hc hd => ?_
      rw [of_decide_eq_true hc, of_decide_eq_true hd]
    have hpair := hab.filter fun c => score c = score a
    rw [hties, List.filter_cons_of_pos (by simp), List.filter_cons_of_pos (by simpa using heq),
      List.filter_nil] at hpair
    have hl : [a, b].Sublist l := hpair.trans List.filter_sublist
    exact Or.inr ⟨heq, List.pairwise_iff_forall_sublist.mp h hl⟩

/-- **Sorting what is chosen from a list puts places in order**: those with the higher scores first,
and of those with one score the earlier first. -/
theorem exists_order (score : α → σ) (p : α → Bool) (l : List α) :
    ∃ order : List (Fin l.length), descending score (l.filter p) = order.map l.get ∧
      (∀ i, i ∈ order ↔ p (l.get i) = true) ∧
      order.Pairwise fun i j => score (l.get j) < score (l.get i) ∨
        score (l.get j) = score (l.get i) ∧ i < j := by
  have hplaces : l.filter p =
      ((List.finRange l.length).filter fun i => p (l.get i)).map l.get := by
    conv_lhs => rw [← List.map_get_finRange l, List.filter_map]
    rfl
  refine ⟨_, by rw [hplaces, descending_map], fun i => ?_, ?_⟩
  · rw [(descending_perm _ _).mem_iff, List.mem_filter, and_iff_right (List.mem_finRange i)]
  · exact pairwise_descending_of_pairwise
      ((List.pairwise_lt_finRange l.length).sublist List.filter_sublist)

end Sorting

/-! ### The order of a ranking -/

/-- Definitions whose names start with the given text are found in the order of their names. -/
theorem Registry.Keyed.startingWith_eq {r : Registry} (h : r.Keyed) (head : Text) :
    r.startingWith head = r.definitions.filter fun d => head <+: d.name := by
  show (r.table.entries.filter _).map Prod.snd = (r.table.entries.map Prod.snd).filter _
  rw [List.filter_map]
  congr 1
  refine List.filter_congr fun e he => ?_
  rw [Function.comp_apply, ← h e he, Bool.eq_iff_iff, decide_eq_true_eq,
    List.isPrefixOf_iff_prefix]

/-- The measure of a function that scores texts in a linear order. -/
def Similarity.Measure.ofScore {σ : Type} [LinearOrder σ] (score : Text → Text → σ) :
    Similarity.Measure σ :=
  ⟨score, fun a b => decide (a ≤ b)⟩

namespace Ranking

variable {σ : Type} [LinearOrder σ] {score : Text → Text → σ} {cutoff : σ} {typed : Text}
  {pool : List Definition}

/-- How well a definition fits a typed name: the score of the two names without their leading
hyphens. -/
def fit (score : Text → Text → σ) (typed : Text) (d : Definition) : σ :=
  score (bare typed) (bare d.name)

/-- The name does not start with the typed one, and fits well enough. -/
def isHit (score : Text → Text → σ) (cutoff : σ) (typed : Text) (d : Definition) : Bool :=
  decide (¬ typed <+: d.name ∧ cutoff ≤ fit score typed d)

theorem bare_eq_nil_iff : bare typed = [] ↔ typed = [] ∨ typed = ['-', '-'] := by
  unfold bare
  split
  · simp
  · rename_i hname
    constructor
    · exact Or.inl
    · rintro (h | h)
      · exact h
      · exact absurd h (hname [])

theorem scored_eq : scored (.ofScore score) cutoff typed pool =
    (pool.filter (isHit score cutoff typed)).map fun d => (fit score typed d, d) := by
  unfold scored
  rw [List.filterMap_filter, ← List.filterMap_eq_map, List.filterMap_filter]
  refine List.filterMap_congr fun d _ => ?_
  by_cases hhead : typed <+: d.name
  · simp [isHit, hhead]
  · by_cases hcutoff : cutoff ≤ fit score typed d
    · have hscore : cutoff ≤ score (bare typed) (bare d.name) := hcutoff
      simp [isHit, hhead, Similarity.Measure.ofScore, fit, hscore]
    · have hscore : ¬ cutoff ≤ score (bare typed) (bare d.name) := hcutoff
      simp [isHit, hhead, Similarity.Measure.ofScore, fit, hscore]

theorem similar_eq : (Ranking.of (.ofScore score) cutoff typed pool).similar =
    descending (fit score typed) (pool.filter (isHit score cutoff typed)) := by
  show (descending Prod.fst (scored _ cutoff typed pool)).map Prod.snd = _
  rw [scored_eq, descending_map, List.map_map]
  exact List.map_id _

/-- A ranking is the names that start with the typed one, and then the hits. -/
theorem rank_eq (h : bare typed ≠ []) : rank (.ofScore score) cutoff typed pool none =
    pool.filter (fun d => typed <+: d.name) ++
      descending (fit score typed) (pool.filter (isHit score cutoff typed)) := by
  have hleading : pool.filter (fun d => typed.isPrefixOf d.name) =
      pool.filter fun d => typed <+: d.name := by
    refine List.filter_congr fun d _ => ?_
    rw [Bool.eq_iff_iff, decide_eq_true_eq, List.isPrefixOf_iff_prefix]
  rw [rank, if_neg (by simpa using h), ← similar_eq, ← hleading]
  rfl

/-- A bound that is not negative keeps so many items, and a negative one drops so many. -/
theorem clip_eq {α : Type} (k : Int) (xs : List α) :
    clip k xs = xs.take (if 0 ≤ k then k else xs.length + k).toNat := by
  cases k with
  | ofNat n => simp [clip]
  | negSucc n =>
      rw [if_neg (by omega), clip]
      congr 1
      omega

/-- A bound cuts the ranking that there is without it. -/
theorem rank_some (k : Int) :
    rank (.ofScore score) cutoff typed pool (some k) =
      clip k (rank (.ofScore score) cutoff typed pool none) := by
  unfold rank
  split <;> rfl

/--
**A ranking lists the names that start with the typed one and then the others that fit well
enough.**  The first are in the order in which they came in, which for the names of a registry is
the order in which the registry finds them.  The others are listed by their places in the input,
none twice: the better fit first, and of equally good ones the earlier.  If nothing is typed behind
the hyphens, all is listed as it came in.  A bound cuts the list, from the end if it is negative.
-/
theorem rank_orders_places (score : Text → Text → σ) (cutoff : σ) (typed : Text)
    (pool : List Definition) :
    (bare typed ≠ [] →
      ∃ order : List (Fin pool.length),
        rank (.ofScore score) cutoff typed pool none =
          pool.filter (fun d => typed <+: d.name) ++ order.map pool.get ∧
        (∀ i, i ∈ order ↔
          ¬ typed <+: (pool.get i).name ∧ cutoff ≤ fit score typed (pool.get i)) ∧
        order.Nodup ∧
        order.Pairwise fun i j =>
          fit score typed (pool.get j) < fit score typed (pool.get i) ∨
            fit score typed (pool.get j) = fit score typed (pool.get i) ∧ i < j) ∧
      (typed = [] ∨ typed = ['-', '-'] → rank (.ofScore score) cutoff typed pool none = pool) ∧
      (∀ units version, pool = (Registry.build units version).definitions →
        pool.filter (fun d => typed <+: d.name) =
          (Registry.build units version).startingWith typed) ∧
      ∀ k : Int,
        rank (.ofScore score) cutoff typed pool (some k) =
          (rank (.ofScore score) cutoff typed pool none).take
            (if 0 ≤ k then k
              else (rank (.ofScore score) cutoff typed pool none).length + k).toNat ∧
        (0 ≤ k → (rank (.ofScore score) cutoff typed pool (some k)).length ≤ k) := by
  refine ⟨fun htyped => ?_, fun htyped => ?_, fun units version hpool => ?_, fun k => ?_⟩
  · obtain ⟨order, hsorted, hmem, horder⟩ :=
      exists_order (fit score typed) (isHit score cutoff typed) pool
    refine ⟨order, by rw [rank_eq htyped, hsorted], fun i => ?_, ?_, horder⟩
    · rw [hmem, isHit, decide_eq_true_eq]
    · refine horder.imp fun {i j} hij => ?_
      rintro rfl
      rcases hij with hlt | ⟨-, hlt⟩ <;> exact lt_irrefl _ hlt
  · rw [rank, if_pos (by simpa using bare_eq_nil_iff.mpr htyped)]
    rfl
  · rw [hpool, (Registry.keyed_build units version).startingWith_eq]
  · rw [rank_some, clip_eq]
    refine ⟨rfl, fun hk => ?_⟩
    rw [if_pos hk, List.length_take]
    omega

/-! ### Names that contain the typed one -/

open Similarity (Related)

/-- The names that do not start with the typed one, but contain it or are contained in it, both
without their leading hyphens. -/
def related (typed : Text) (pool : List Definition) : List Definition :=
  pool.filter fun d => ¬ typed <+: d.name ∧ Related (bare typed) (bare d.name)

/-- The other names that fit well enough. -/
def unrelated (cutoff : ℚ) (typed : Text) (pool : List Definition) : List Definition :=
  pool.filter fun d => ¬ typed <+: d.name ∧ ¬ Related (bare typed) (bare d.name) ∧
    cutoff ≤ fit (Similarity.score .exact) typed d

/-- A name has the full score exactly if it is related to the typed one. -/
theorem fit_exact (htyped : bare typed ≠ []) (d : Definition) :
    fit (Similarity.score .exact) typed d ≤ 100 ∧
      (fit (Similarity.score .exact) typed d = 100 ↔ Related (bare typed) (bare d.name)) :=
  Similarity.score_exact htyped

theorem hits_full {cutoff : ℚ} (hcutoff : cutoff ≤ 100) (htyped : bare typed ≠ []) :
    (pool.filter (isHit (Similarity.score .exact) cutoff typed)).filter
      (fun d => fit (Similarity.score .exact) typed d = 100) = related typed pool := by
  rw [List.filter_filter]
  refine List.filter_congr fun d _ => ?_
  rw [Bool.eq_iff_iff, Bool.and_eq_true, isHit, decide_eq_true_eq, decide_eq_true_eq,
    decide_eq_true_eq, (fit_exact htyped d).2]
  constructor
  · rintro ⟨hrelated, hnot, -⟩
    exact ⟨hnot, hrelated⟩
  · rintro ⟨hnot, hrelated⟩
    refine ⟨hrelated, hnot, ?_⟩
    rwa [(fit_exact htyped d).2.mpr hrelated]

theorem hits_not_full {cutoff : ℚ} (htyped : bare typed ≠ []) :
    (pool.filter (isHit (Similarity.score .exact) cutoff typed)).filter
      (fun d => !decide (fit (Similarity.score .exact) typed d = 100)) =
        unrelated cutoff typed pool := by
  rw [List.filter_filter]
  refine List.filter_congr fun d _ => ?_
  rw [Bool.eq_iff_iff, Bool.and_eq_true, isHit, Bool.not_eq_true', decide_eq_false_iff_not,
    decide_eq_true_eq, decide_eq_true_eq, (fit_exact htyped d).2, and_left_comm]

/--
**Names that contain the typed one come before all that are only similar.**  Behind the names that
start with the typed one are listed, in the order in which they came in, all those that contain it
or are contained in it, both without their two leading hyphens, and then the others that fit well
enough.  So no name that contains the typed one in this sense is left out.
-/
theorem rank_related_first {cutoff : ℚ} (hcutoff : cutoff ≤ 100) {typed : Text}
    (htyped : bare typed ≠ []) (pool : List Definition) :
    (∃ others : List Definition,
      rank .exact cutoff typed pool none =
        pool.filter (fun d => typed <+: d.name) ++ (related typed pool ++ others) ∧
      others.Perm (unrelated cutoff typed pool)) ∧
      ∀ d ∈ pool, bare typed <:+: bare d.name → d ∈ rank .exact cutoff typed pool none := by
  have hrank : rank .exact cutoff typed pool none =
      pool.filter (fun d => typed <+: d.name) ++
        descending (fit (Similarity.score .exact) typed)
          (pool.filter (isHit (Similarity.score .exact) cutoff typed)) :=
    rank_eq htyped
  rw [descending_eq_top_append fun d _ => (fit_exact htyped d).1, hits_full hcutoff htyped] at hrank
  refine ⟨⟨_, hrank, ?_⟩, fun d hd hinside => ?_⟩
  · rw [← hits_not_full htyped]
    exact (descending_perm _ _).filter _
  · rw [hrank]
    by_cases hhead : typed <+: d.name
    · exact List.mem_append_left _ (List.mem_filter.mpr ⟨hd, decide_eq_true hhead⟩)
    · have hname : bare d.name ≠ [] := by
        intro hnil
        rw [hnil, List.infix_nil] at hinside
        exact htyped hinside
      have hrelated : d ∈ related typed pool :=
        List.mem_filter.mpr ⟨hd, decide_eq_true ⟨hhead, hname, Or.inl hinside⟩⟩
      exact List.mem_append_right _ (List.mem_append_left _ hrelated)

/-- Candidates that start with `--ab`, contain it, are contained in it, or come close. -/
def samplePool : List Definition :=
  ["--acb", "--xaby", "--ab-c", "--", "--b", "--xyz"].map fun name => ⟨name.toList, [], none, none⟩

/-- The name that comes close is listed last, though it came in first. -/
theorem rank_related_first_sample :
    (60 : ℚ) ≤ 100 ∧ bare "--ab".toList ≠ [] ∧
      ∃ others : List Definition,
        rank .exact 60 "--ab".toList samplePool none =
          [⟨"--ab-c".toList, [], none, none⟩] ++
            ([⟨"--xaby".toList, [], none, none⟩, ⟨"--b".toList, [], none, none⟩] ++ others) ∧
        others.Perm [⟨"--acb".toList, [], none, none⟩] := by
  have hcutoff : (60 : ℚ) ≤ 100 := by norm_num
  have htyped : bare "--ab".toList ≠ [] := by decide
  have hleading : samplePool.filter (fun d => "--ab".toList <+: d.name) =
      [⟨"--ab-c".toList, [], none, none⟩] := by decide
  have hrelated : related "--ab".toList samplePool =
      [⟨"--xaby".toList, [], none, none⟩, ⟨"--b".toList, [], none, none⟩] := by decide
  have hunrelated : unrelated 60 "--ab".toList samplePool =
      [⟨"--acb".toList, [], none, none⟩] := by decide +kernel
  obtain ⟨others, hrank, hothers⟩ := (rank_related_first hcutoff htyped samplePool).1
  rw [hleading, hrelated] at hrank
  rw [hunrelated] at hothers
  exact ⟨hcutoff, htyped, others, hrank, hothers⟩

/-- A name can be left out though it contains what was typed.  A lone hyphen counts as a part of the
typed name, but the two in front of a name do not count as a part of it. -/
theorem rank_leaves_out_containing :
    bare "-a".toList ≠ [] ∧ "-a".toList <:+: "--abc".toList ∧
      rank .exact (70 : ℚ) "-a".toList [⟨"--abc".toList, [], none, none⟩] none = [] := by
  refine ⟨by decide, by decide, ?_⟩
  decide +kernel

end Ranking

end SwatchIndex
