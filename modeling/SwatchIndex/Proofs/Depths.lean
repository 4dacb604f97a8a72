/-
What the depth of a resolution changes.

A chain that comes to a colour passes no definition twice, because a definition is at one distance
only from its first colour.  So the distance is less than the number of definitions
(`FirstColored.lt_size`), and no depth beyond that number finds a colour that is not found before
(`chase_of_size_le`).

Up to there more depth finds more colours, and it leaves those that were found as they are.  What
shows in a text are the swatches under its names, so a registry that has all swatches of another
one (`SwatchesIn`) shows all its usages and perhaps some more in between (`findUsages_sublist`).
-/
import SwatchIndex.Proofs.Failing
import SwatchIndex.Proofs.Usages
import Mathlib.Data.List.Perm.Subperm

namespace SwatchIndex

open scoped List

/-! ### A chain is no longer than the registry -/

namespace Alias

variable {r : Registry} {d : Definition} {k : Nat} {c : Text}

/-- The definitions on the way to the first colour are distinct, since each is nearer to it than the
one before. -/
theorem FirstColored.exists_chain (h : FirstColored r d k c) (hd : d ∈ r.definitions) :
    ∃ chain : List Definition, chain.length = k + 1 ∧ chain.Nodup ∧ chain ⊆ r.definitions ∧
      ∀ e ∈ chain, ∃ j, j ≤ k ∧ FirstColored r e j c := by
  induction h with
  | @here d c hcolor =>
      refine ⟨[d], rfl, by simp, by simpa using hd, fun e he => ?_⟩
      rw [List.mem_singleton.mp he]
      exact ⟨0, Nat.le_refl _, .here hcolor⟩
  | @hop d e k c hplain hnext hrest ih =>
      have hfirst : FirstColored r d (k + 1) c := .hop hplain hnext hrest
      obtain ⟨chain, hlength, hnodup, hsubset, hnear⟩ := ih (mem_definitions_of_next? hnext)
      refine ⟨d :: chain, by rw [List.length_cons, hlength], ?_, ?_, ?_⟩
      · refine List.nodup_cons.mpr ⟨fun hmem => ?_, hnodup⟩
        obtain ⟨j, hj, hagain⟩ := hnear d hmem
        have hsame : j = k + 1 := (hfirst.unique hagain).1
        omega
      · exact List.cons_subset.mpr ⟨hd, hsubset⟩
      · intro f hf
        rcases List.mem_cons.mp hf with rfl | hf
        · exact ⟨k + 1, Nat.le_refl _, hfirst⟩
        · obtain ⟨j, hj, hj'⟩ := hnear f hf
          exact ⟨j, by omega, hj'⟩

/-- **The first colour is fewer hops away than there are definitions.** -/
theorem FirstColored.lt_size (h : FirstColored r d k c) (hd : d ∈ r.definitions) : k < r.size := by
  obtain ⟨chain, hlength, hnodup, hsubset, -⟩ := h.exists_chain hd
  have hle : chain.length ≤ r.definitions.length := (hnodup.subperm hsubset).length_le
  have hsize : r.definitions.length = r.size := List.length_map ..
  omega

/-- As many hops as there are definitions are enough. -/
theorem chase_of_size_le (hd : d ∈ r.definitions) {hops : Nat} (h : r.size ≤ hops) :
    chase r hops d = chase r r.size d := by
  apply Option.ext
  intro c
  constructor
  · intro hc
    obtain ⟨k, -, hfirst⟩ := chase_eq_some_iff.mp hc
    exact chase_eq_some_iff.mpr ⟨k, Nat.le_of_lt (hfirst.lt_size hd), hfirst⟩
  · intro hc
    exact chase_mono h hc

/--
**Cycle detection costs nothing, and the depth saturates.**  The colour that a definition of a
registry has or inherits is the one that is chased without regard to the names that were passed,
and a depth beyond the number of definitions changes nothing.
-/
theorem colorOf_saturates (h : r.Keyed) (hd : d ∈ r.definitions) (depth : Int) :
    colorOf r depth d = chase r depth.toNat d ∧
      ((r.size : Int) ≤ depth → colorOf r depth d = colorOf r r.size d) := by
  obtain ⟨name, hmem⟩ := Registry.mem_definitions_iff.mp hd
  have hget : r.get? d.name = some d := h.get?_name hmem
  refine ⟨colorOf_eq_chase hget depth, fun hdepth => ?_⟩
  rw [colorOf_eq_chase hget, colorOf_eq_chase hget, Int.toNat_natCast]
  exact chase_of_size_le hd (by omega)

/-- The definition of the sample registry that is an alias of itself. -/
def sampleCycle : Definition := ⟨"--d".toList, "var(--d)".toList, none, none⟩

/-- With nine hops the cycle is as far from a colour as with four. -/
theorem colorOf_saturates_sample :
    Registry.sample.Keyed ∧ sampleCycle ∈ Registry.sample.definitions ∧
      (Registry.sample.size : Int) ≤ 9 ∧
      colorOf Registry.sample 9 sampleCycle = chase Registry.sample 9 sampleCycle ∧
      colorOf Registry.sample 9 sampleCycle =
        colorOf Registry.sample Registry.sample.size sampleCycle := by
  have hkeyed : Registry.sample.Keyed := Registry.keyed_build _ _
  have hmem : sampleCycle ∈ Registry.sample.definitions := by decide
  have hsize : (Registry.sample.size : Int) ≤ 9 := by decide
  obtain ⟨hchase, hsaturated⟩ := colorOf_saturates hkeyed hmem 9
  exact ⟨hkeyed, hmem, hsize, hchase, hsaturated hsize⟩

end Alias

/-! ### More depth shows more -/

/-- Every swatch of the registry is one of the other, under the same names. -/
def Registry.SwatchesIn (r s : Registry) : Prop :=
  ∀ name d color, r.get? name = some d → d.swatch = some color →
    ∃ e, s.get? name = some e ∧ e.swatch = some color ∧ e.name = d.name

/-- Where more is kept of a list, the rest is the same and in the same order. -/
theorem filterMap_sublist_filterMap {α β : Type} {f g : α → Option β}
    (h : ∀ a b, f a = some b → g a = some b) (xs : List α) :
    xs.filterMap f <+ xs.filterMap g := by
  induction xs with
  | nil => exact List.Sublist.refl _
  | cons x xs ih =>
      cases hf : f x with
      | some b =>
          rw [List.filterMap_cons_some hf, List.filterMap_cons_some (h x b hf)]
          exact ih.cons_cons b
      | none =>
          rw [List.filterMap_cons_none hf]
          cases hg : g x with
          | none =>
              rw [List.filterMap_cons_none hg]
              exact ih
          | some b =>
              rw [List.filterMap_cons_some hg]
              exact ih.cons b

/-- A registry that has all swatches of another one shows all its usages. -/
theorem findUsages_sublist {r s : Registry} (h : r.SwatchesIn s) (text : Text)
    {bound : Option Int} (hbound : ∀ k ∈ bound, 0 ≤ k ∧ k < Occurrence.boundLimit) :
    ∃ usages usages', findUsages text r bound = .ok usages ∧
      findUsages text s bound = .ok usages' ∧ usages <+ usages' := by
  have hmore : ∀ o u, Occurrence.usage? r o = some u → Occurrence.usage? s o = some u := by
    intro o u husage
    obtain ⟨hstart, hstop, d, hget, hswatch, hname⟩ := Occurrence.usage?_eq_some_iff.mp husage
    obtain ⟨e, hget', hswatch', hname'⟩ := h o.name d u.color hget hswatch
    exact Occurrence.usage?_eq_some_iff.mpr
      ⟨hstart, hstop, e, hget', hswatch', hname'.trans hname⟩
  cases bound with
  | none => exact ⟨_, _, rfl, rfl, filterMap_sublist_filterMap hmore _⟩
  | some k =>
      have hk := hbound k rfl
      rw [findUsages_some, findUsages_some, if_pos hk, if_pos hk]
      exact ⟨_, _, rfl, rfl, filterMap_sublist_filterMap hmore _⟩

namespace Registry

/-- Resolving deeper keeps every swatch, whatever the versions are. -/
theorem swatchesIn_resolve {r s : Registry} (hr : r.Keyed) (hs : s.Keyed)
    (hget : ∀ name, s.get? name = r.get? name) {depth depth' : Int} (hdepth : depth ≤ depth')
    (version version' : Nat) :
    (r.resolve depth version).SwatchesIn (s.resolve depth' version') := by
  intro name d color hd hswatch
  rw [get?_resolve hr, Option.map_eq_some_iff] at hd
  obtain ⟨e, he, rfl⟩ := hd
  obtain ⟨code, hcode, hnormal⟩ := Option.bind_eq_some_iff.mp hswatch
  refine ⟨s.filled depth'.toNat e, by rw [get?_resolve hs, hget, he]; rfl, ?_, rfl⟩
  have hdeeper : Alias.chase r depth'.toNat e = some code :=
    Alias.chase_mono (by omega) hcode
  show (Alias.chase s depth'.toNat e).bind Color.fromCode = some color
  rw [Alias.chase_congr hget, hdeeper]
  exact hnormal

end Registry

namespace Indexing

/--
**Raising the depth only adds usages.**  Whether an index is returned does not depend on the depth,
and neither does the error if it is not.  Of two indices of the same units, the one that is resolved
deeper shows in every text the usages that the other one shows, with the same places, names and
colours and in the same order, within every bound that is not refused.
-/
theorem findUsages_index_of_deeper {depth depth' : Int} (hdepth : depth ≤ depth') (s : Settings)
    (units : List SourceUnit) (next next' : Nat) :
    (∀ cause, (index { s with resolveDepth := depth } units next).1 = .error cause ↔
        (index { s with resolveDepth := depth' } units next').1 = .error cause) ∧
      ∀ r r', (index { s with resolveDepth := depth } units next).1 = .ok r →
        (index { s with resolveDepth := depth' } units next').1 = .ok r' →
        ∀ (text : Text) (bound : Option Int),
          (∀ k ∈ bound, 0 ≤ k ∧ k < Occurrence.boundLimit) →
          ∃ usages usages', findUsages text r bound = .ok usages ∧
            findUsages text r' bound = .ok usages' ∧ usages <+ usages' := by
  have hparse : ∀ n : Int, parseUnits { s with resolveDepth := n } units = parseUnits s units :=
    fun _ => rfl
  refine ⟨fun cause => ?_, fun r r' h h' text bound hbound => ?_⟩
  · rw [index_eq_error_iff, index_eq_error_iff, hparse depth, hparse depth']
  · cases hparsed : parseUnits s units with
    | error cause =>
        rw [index_of_error ((hparse depth).trans hparsed)] at h
        cases h
    | ok parsed =>
        rw [index_of_ok ((hparse depth).trans hparsed)] at h
        rw [index_of_ok ((hparse depth').trans hparsed)] at h'
        cases h
        cases h'
        refine findUsages_sublist ?_ text hbound
        exact Registry.swatchesIn_resolve (Registry.keyed_build parsed next)
          (Registry.keyed_build parsed next') (fun _ => rfl) hdepth _ _

/-- What the sample stylesheet declares. -/
def sampleParsed : List (List Definition) :=
  [[sampleAlias none, ⟨"--b".toList, "1".toList, some "#aBc".toList, some "a.css".toList⟩], []]

theorem index_sampleUnits (depth : Int) (next : Nat) :
    (index { sampleSettings with resolveDepth := depth } sampleUnits next).1 =
      .ok ((Registry.build sampleParsed next).resolve depth (next + 1)) := by
  have hparsed : parseUnits { sampleSettings with resolveDepth := depth } sampleUnits =
      .ok sampleParsed := by
    show parseUnits sampleSettings sampleUnits = _
    simp only [parseUnits, sampleUnits, List.mapM_cons, List.mapM_nil, parseUnit,
      Declaration.parse_eq]
    rfl
  rw [index_of_ok hparsed]

/-- A text in which both names of the sample stylesheet are used. -/
def sampleBuffer : Text := "var(--a) var(--b)".toList

/-- One hop adds the usage of the alias in front of the other one. -/
theorem findUsages_index_of_deeper_sample :
    ∃ r r', (index { sampleSettings with resolveDepth := 0 } sampleUnits 1).1 = .ok r ∧
      (index { sampleSettings with resolveDepth := 1 } sampleUnits 2).1 = .ok r' ∧
      findUsages sampleBuffer r (some 2) = .ok [⟨9, 17, "--b".toList, "#AABBCC".toList⟩] ∧
      findUsages sampleBuffer r' (some 2) =
        .ok [⟨0, 8, "--a".toList, "#AABBCC".toList⟩, ⟨9, 17, "--b".toList, "#AABBCC".toList⟩] ∧
      ∃ usages usages', findUsages sampleBuffer r (some 2) = .ok usages ∧
        findUsages sampleBuffer r' (some 2) = .ok usages' ∧ usages <+ usages' := by
  have hdepth : (0 : Int) ≤ 1 := by decide
  have hbound : ∀ k ∈ some (2 : Int), 0 ≤ k ∧ k < Occurrence.boundLimit := by decide
  have hmore := (findUsages_index_of_deeper hdepth sampleSettings sampleUnits 1 2).2 _ _
    (index_sampleUnits 0 1) (index_sampleUnits 1 2) sampleBuffer (some 2) hbound
  exact ⟨_, _, index_sampleUnits 0 1, index_sampleUnits 1 2, by decide, by decide, hmore⟩

/-- A bound that does not fit a machine word is refused at either depth, so there are no usages to
compare. -/
theorem no_usages_within_large_bound :
    (0 : Int) ≤ 1 ∧ 0 ≤ Occurrence.boundLimit ∧
      ∃ r r', (index { sampleSettings with resolveDepth := 0 } sampleUnits 1).1 = .ok r ∧
        (index { sampleSettings with resolveDepth := 1 } sampleUnits 2).1 = .ok r' ∧
        findUsages sampleBuffer r (some Occurrence.boundLimit) = .error .badBound ∧
        ¬ ∃ usages usages', findUsages sampleBuffer r (some Occurrence.boundLimit) = .ok usages ∧
          findUsages sampleBuffer r' (some Occurrence.boundLimit) = .ok usages' ∧
          usages <+ usages' := by
  have hrefused : ∀ r,
      findUsages sampleBuffer r (some Occurrence.boundLimit) = .error .badBound := by
    intro r
    rw [findUsages_some, if_neg (by decide)]
  refine ⟨by decide, by decide, _, _, index_sampleUnits 0 1, index_sampleUnits 1 2, hrefused _, ?_⟩
  rintro ⟨usages, -, h, -⟩
  rw [hrefused] at h
  cases h

end Indexing

end SwatchIndex
