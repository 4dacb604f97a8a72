/-
What a discovery lists.

The candidates below a directory are the files that a glob leads to and that no pattern leaves out.
They are listed once each and in the order of their parts, so the list is known from its members
(`eq_of_mem_iff`), and nothing else has a say in it: not the order in which globs and patterns are
given or repeated, and not the order in which the tree is listed and globs yield what they lead to.
A bound cuts this one list, so a lower bound gives its beginning.

All this holds where nothing ends the discovery early: where the root and every place that a glob
leads to can be looked up (`Tree.Answers`), and no glob comes to an error of its own.

The files are read and indexed in this order, and which definition of a name counts depends on it.
So whatever leaves the list as it is leaves the index as it is.
-/
import SwatchIndex.Proofs.Actions
import SwatchIndex.Proofs.Globs
import Mathlib.Data.Char
import Mathlib.Data.List.Lex
import Mathlib.Data.List.Sort

namespace SwatchIndex

/-! ### Lists without repetition, in order -/

theorem nodup_eraseDups {α : Type} [DecidableEq α] (xs : List α) : xs.eraseDups.Nodup := by
  cases xs with
  | nil => exact List.nodup_nil
  | cons x rest =>
      rw [List.eraseDups_cons, List.nodup_cons]
      exact ⟨by simp [List.mem_eraseDups], nodup_eraseDups _⟩
termination_by xs.length
decreasing_by exact Nat.lt_succ_of_le (List.length_filter_le _ _)

/-! ### Answers -/

namespace Tree

variable {tree tree' : Tree} {p : Place}

/-- Who asks what a place leads to gets an answer. -/
def Answers (tree : Tree) (p : Place) : Prop := tree.probe p = .ok (tree.find? p)

instance (tree : Tree) (p : Place) : Decidable (tree.Answers p) :=
  inferInstanceAs (Decidable (tree.probe p = .ok (tree.find? p)))

theorem Answers.relisted (htree : tree.Relisted tree') (h : tree.Answers p) : tree'.Answers p := by
  unfold Answers
  rw [← htree.probe, ← htree.find?]
  exact h

end Tree

namespace Discovery

variable {tree tree' : Tree} {root p q : Place}
variable {included included' excluded excluded' : List Spelling}

/-- One place comes before another by its parts. -/
def Precedes (p q : Place) : Prop := p.parts < q.parts

instance : Std.Irrefl Precedes := ⟨fun p => lt_irrefl p.parts⟩

instance : Std.Antisymm Precedes := ⟨fun _ _ h h' => absurd h' (lt_asymm h)⟩

instance (p q : Place) : Decidable (Precedes p q) :=
  inferInstanceAs (Decidable (p.parts < q.parts))

theorem inOrder_iff : inOrder p q = true ↔ p.parts ≤ q.parts := by
  rw [inOrder, Bool.not_eq_true', decide_eq_false_iff_not, not_lt]

/-- Places, each listed once and in the order of their parts. -/
def listed (places : List Place) : List Place := places.eraseDups.mergeSort inOrder

theorem mem_listed {places : List Place} : p ∈ listed places ↔ p ∈ places := by
  rw [listed, List.mem_mergeSort, List.mem_eraseDups]

theorem pairwise_listed {places : List Place} {volume : Text}
    (hvolume : ∀ p ∈ places, p.volume = volume) : (listed places).Pairwise Precedes := by
  have hsorted : (listed places).Pairwise fun p q => p.parts ≤ q.parts := by
    refine (List.pairwise_mergeSort ?_ ?_ places.eraseDups).imp inOrder_iff.mp
    · intro a b c hab hbc
      exact inOrder_iff.mpr (le_trans (inOrder_iff.mp hab) (inOrder_iff.mp hbc))
    · intro a b
      rw [Bool.or_eq_true, inOrder_iff, inOrder_iff]
      exact le_total _ _
  have hnodup : (listed places).Nodup := List.nodup_mergeSort.mpr (nodup_eraseDups places)
  refine (hsorted.and hnodup).imp_of_mem ?_
  rintro a b ha hb ⟨hle, hne⟩
  -- Places of one volume with the same parts are one place.
  refine lt_of_le_of_ne hle fun hparts => hne ?_
  have hsame : a.volume = b.volume := by
    rw [hvolume a (mem_listed.mp ha), hvolume b (mem_listed.mp hb)]
  cases a
  cases b
  cases hsame
  cases hparts
  rfl

/-! ### Candidates -/

/-- A place is a file that one of the globs leads to and that no pattern leaves out. -/
structure IsCandidate (tree : Tree) (root : Place) (included excluded : List Spelling)
    (p : Place) : Prop where
  found : ∃ glob ∈ included, Glob.Finds tree root glob p
  file : tree.isFile p = true
  kept : isExcluded (relative root p) excluded = false

/-- What is left out depends on the patterns, not on their order. -/
theorem isExcluded_congr (h : ∀ x, x ∈ excluded ↔ x ∈ excluded') (path : Text) :
    isExcluded path excluded = isExcluded path excluded' := by
  rw [Bool.eq_iff_iff]
  simp only [isExcluded, List.any_eq_true, h]

theorem IsCandidate.congr (htree : tree.Relisted tree') (hin : ∀ x, x ∈ included ↔ x ∈ included')
    (hex : ∀ x, x ∈ excluded ↔ x ∈ excluded') (h : IsCandidate tree root included excluded p) :
    IsCandidate tree' root included' excluded' p := by
  obtain ⟨⟨glob, hglob, hfinds⟩, hfile, hkept⟩ := h
  refine ⟨⟨glob, (hin glob).mp hglob, hfinds.relisted htree⟩, ?_, ?_⟩
  · rwa [← htree.alike.isFile]
  · rwa [← isExcluded_congr hex]

theorem capped_natCast (n : Nat) (files : List Place) : capped n files = files.take n := by
  rw [capped]
  split
  · rfl
  · rename_i hshort
    rw [Int.ofNat_eq_natCast, Int.ofNat_lt, Nat.not_lt] at hshort
    exact (List.take_of_length_le hshort).symm

/-- Where the root can be looked up, the candidates are listed if it is a directory. -/
theorem discover_of_answers (h : tree.Answers root) (bound : Int) :
    discover tree root included excluded bound =
      if tree.isDirectory root then (candidates tree root included excluded).map (capped bound)
      else .ok [] := by
  have hdirectory : tree.probeDirectory root = .ok (tree.isDirectory root) := by
    unfold Tree.Answers at h
    rw [Tree.probeDirectory, h]
    rfl
  rw [discover, hdirectory]
  cases tree.isDirectory root with
  | false => rfl
  | true => cases candidates tree root included excluded <;> rfl

end Discovery

/-! ### Workspaces -/

namespace Session

open Discovery

variable {s : Session} {path : Text} {included excluded : List Spelling}

theorem on_discover_fst (hpath : '\x00' ∉ path) (bound : Int) :
    ((discover path included excluded bound).on s).1 =
      (SwatchIndex.discover s.tree (s.resolvedPath path) included excluded bound).mapError
        .discovery := by
  have hcheck : NullCharacter.inPath.check path = .ok () := by
    simp [NullCharacter.check, hpath]
  rw [on_discover, hcheck]

/-- Stylesheets, one of them in a directory of packages. -/
def stylesheets : Session :=
  { start ⟨[], []⟩ ⟨[], ["lib".toList]⟩ with
    tree := ⟨[(⟨[], []⟩, .directory), (⟨[], ["sub".toList]⟩, .directory),
      (⟨[], ["sub".toList, "b.css".toList]⟩, .file [] (.tick 0)),
      (⟨[], ["sub".toList, "d.css".toList]⟩, .file [] (.tick 1)),
      (⟨[], ["a.css".toList]⟩, .file [] (.tick 2)),
      (⟨[], ["node_modules".toList]⟩, .directory),
      (⟨[], ["node_modules".toList, "c.css".toList]⟩, .file [] (.tick 3))]⟩ }

/-- The stylesheets that are no package's, in order. -/
def ownStylesheets : List Place :=
  [⟨[], ["a.css".toList]⟩, ⟨[], ["sub".toList, "b.css".toList]⟩,
    ⟨[], ["sub".toList, "d.css".toList]⟩]

theorem candidates_stylesheets :
    Discovery.candidates stylesheets.tree (stylesheets.resolvedPath [])
        [.ofString "**/*.css", .ofString "*.css"] [.ofString "**/node_modules/**"] =
      .ok ownStylesheets := by
  have hfound : [Spelling.ofString "**/*.css", .ofString "*.css"].mapM
      (matching stylesheets.tree (stylesheets.resolvedPath []) [.ofString "**/node_modules/**"]) =
        .ok [ownStylesheets, ownStylesheets.take 1] := by
    decide +kernel
  have horder : ownStylesheets.Pairwise Precedes := by decide +kernel
  have hmem : ∀ p, p ∈ [ownStylesheets, ownStylesheets.take 1].flatten ↔ p ∈ ownStylesheets := by
    intro p
    simp only [List.flatten_cons, List.flatten_nil, List.append_nil, List.mem_append]
    exact ⟨fun h => h.elim id List.mem_of_mem_take, .inl⟩
  have hvolume : ∀ p ∈ [ownStylesheets, ownStylesheets.take 1].flatten, p.volume = [] := by
    simp [ownStylesheets]
  have hlisted : listed [ownStylesheets, ownStylesheets.take 1].flatten = ownStylesheets :=
    (pairwise_listed hvolume).eq_of_mem_iff horder fun p => mem_listed.trans (hmem p)
  rw [Discovery.candidates, hfound]
  exact congrArg Except.ok hlisted

theorem answers_stylesheets : stylesheets.tree.Answers (stylesheets.resolvedPath []) := by
  decide +kernel

theorem discover_stylesheets :
    ((discover [] [.ofString "**/*.css", .ofString "*.css"]
      [.ofString "**/node_modules/**"] 100).on stylesheets).1 = .ok ownStylesheets := by
  rw [on_discover_fst List.not_mem_nil, discover_of_answers answers_stylesheets,
    if_pos (by decide +kernel), candidates_stylesheets]
  rfl

end Session

end SwatchIndex
