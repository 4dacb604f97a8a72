/-
The usages in a text are all that there are.

`Occurs` says of a pair of offsets that `var(--name)` stands between them, and says nothing about a
scan.  `StandsIn` says the same about what is left of a text in the middle of a scan, behind the
characters that are to be skipped.  A scan finds exactly what stands there (`mem_scan_iff`), so what
is found in a text is what occurs in it (`mem_all_iff`).  It is found in order and apart, because
what is skipped behind an occurrence is the occurrence itself (`pairwise_scan`).

A usage is an occurrence whose name has a swatch, so the usages are in order and apart as well.  A
bound cuts the occurrences and not the usages: what is left are the usages at the first occurrences
(`filterMap_take`).
-/
import SwatchIndex.Proofs.Occurrences

namespace SwatchIndex

namespace Occurrence

/-! ### What stands in a text -/

/-- `var(--name)` stands between the two offsets. -/
structure Occurs (text : Text) (o : Occurrence) : Prop where
  name : IsPropertyName o.name
  inside : o.stop ≤ text.length
  reads : text.extract o.start o.stop = written o.name

/-- The occurrence stands in a text whose first character has the offset `pos`, behind `skip`
characters or more. -/
def StandsIn (pos skip : Nat) (t : Text) (o : Occurrence) : Prop :=
  IsPropertyName o.name ∧ ∃ u rest, t = u ++ (written o.name ++ rest) ∧ skip ≤ u.length ∧
    o.start = pos + u.length ∧ o.stop = o.start + o.name.length + 5

/-- An occurrence is as long as what is written there. -/
theorem Occurs.stop_eq {text : Text} {o : Occurrence} (h : Occurs text o) :
    o.stop = o.start + o.name.length + 5 := by
  have hlength : (text.extract o.start o.stop).length = o.name.length + 5 := by
    rw [h.reads, length_written]
  have hinside := h.inside
  rw [List.extract_eq_take_drop, List.length_take, List.length_drop] at hlength
  omega

/-- An occurrence divides the text into what stands before it, itself and what follows. -/
theorem occurs_iff_standsIn {text : Text} {o : Occurrence} :
    Occurs text o ↔ StandsIn 0 0 text o := by
  constructor
  · intro h
    have hstop := h.stop_eq
    have hinside := h.inside
    have hlength : (text.take o.start).length = o.start := by
      rw [List.length_take]
      omega
    refine ⟨h.name, text.take o.start, (text.drop o.start).drop (o.stop - o.start), ?_,
      Nat.zero_le _, ?_, hstop⟩
    · rw [← h.reads, List.extract_eq_take_drop, List.take_append_drop, List.take_append_drop]
    · rw [hlength, Nat.zero_add]
  · rintro ⟨hname, u, rest, rfl, -, hstart, hstop⟩
    rw [Nat.zero_add] at hstart
    have hlength : o.stop - o.start = (written o.name).length := by
      rw [length_written]
      omega
    refine ⟨hname, ?_, ?_⟩
    · rw [List.length_append, List.length_append, length_written]
      omega
    · rw [List.extract_eq_take_drop, hlength, hstart, List.drop_left, List.take_left]

/-! ### What a scan finds -/

/-- What stands behind the first character stands in the whole text. -/
theorem StandsIn.cons {pos skip skip' : Nat} {t : Text} {o : Occurrence}
    (h : StandsIn (pos + 1) skip' t o) (hskip : skip ≤ skip' + 1) (c : Char) :
    StandsIn pos skip (c :: t) o := by
  obtain ⟨hname, u, rest, rfl, hu, hstart, hstop⟩ := h
  refine ⟨hname, c :: u, rest, rfl, ?_, ?_, hstop⟩
  · rw [List.length_cons]
    omega
  · rw [List.length_cons]
    omega

theorem standsIn_of_mem_scan {o : Occurrence} {t : Text} :
    ∀ {pos skip : Nat}, o ∈ scan pos skip t → StandsIn pos skip t o := by
  induction t with
  | nil =>
      intro pos skip h
      simp [scan] at h
  | cons c t ih =>
      intro pos skip h
      cases skip with
      | succ skip => exact (ih h).cons (Nat.le_refl _) c
      | zero =>
          simp only [scan] at h
          split at h
          · rename_i name hname
            rcases List.mem_cons.mp h with rfl | h
            · obtain ⟨hname, rest, hwritten⟩ := name?_eq_some_iff.mp hname
              exact ⟨hname, [], rest, hwritten, Nat.le_refl _, rfl, rfl⟩
            · exact (ih h).cons (Nat.zero_le _) c
          · exact (ih h).cons (Nat.zero_le _) c

/-- **A scan finds exactly what stands behind the characters that it skips.** -/
theorem mem_scan_iff {o : Occurrence} {t : Text} {pos skip : Nat} :
    o ∈ scan pos skip t ↔ StandsIn pos skip t o := by
  refine ⟨standsIn_of_mem_scan, ?_⟩
  rintro ⟨hname, u, rest, rfl, hskip, hstart, hstop⟩
  obtain ⟨start, stop, name⟩ := o
  obtain rfl : start = pos + u.length := hstart
  obtain rfl : stop = pos + u.length + name.length + 5 := hstop
  exact mem_scan hname rest hskip

/-- What a scan finds is in order and apart. -/
theorem pairwise_scan (t : Text) : ∀ (pos skip : Nat),
    (scan pos skip t).Pairwise fun o p => o.stop ≤ p.start := by
  induction t with
  | nil =>
      intro pos skip
      exact List.Pairwise.nil
  | cons c t ih =>
      intro pos skip
      cases skip with
      | succ skip => exact ih (pos + 1) skip
      | zero =>
          simp only [scan]
          split
          · rename_i name _
            refine List.pairwise_cons.mpr ⟨fun p hp => ?_, ih _ _⟩
            obtain ⟨-, u, -, -, hskip, hstart, -⟩ := standsIn_of_mem_scan hp
            show pos + name.length + 5 ≤ p.start
            omega
          · exact ih _ _

/-- **What is found in a text is what occurs in it.** -/
theorem mem_all_iff {text : Text} {o : Occurrence} : o ∈ all text ↔ Occurs text o :=
  mem_scan_iff.trans occurs_iff_standsIn.symm

/-- What occurs is found in order, and apart. -/
theorem pairwise_all (text : Text) :
    (all text).Pairwise fun o p => o.start < p.start ∧ o.stop ≤ p.start := by
  refine (pairwise_scan text 0 0).imp_of_mem fun {o p} ho _ happart => ?_
  have hstop := (mem_all_iff.mp ho).stop_eq
  exact ⟨by omega, happart⟩

example : all "var(var(--a) var(--) var(--b)".toList =
    [⟨4, 12, "--a".toList⟩, ⟨21, 29, "--b".toList⟩] := by decide

/-! ### Usages -/

theorem usage?_eq_some_iff {r : Registry} {o : Occurrence} {u : Usage} :
    usage? r o = some u ↔ o.start = u.start ∧ o.stop = u.stop ∧
      ∃ d, r.get? o.name = some d ∧ d.swatch = some u.color ∧ d.name = u.name := by
  simp only [usage?, Option.bind_eq_bind, Option.bind_eq_some_iff, Option.pure_def,
    Option.some.injEq]
  constructor
  · rintro ⟨d, hget, color, hswatch, rfl⟩
    exact ⟨rfl, rfl, d, hget, hswatch, rfl⟩
  · rintro ⟨hstart, hstop, d, hget, hswatch, hname⟩
    refine ⟨d, hget, u.color, hswatch, ?_⟩
    rw [hstart, hstop, hname]

/-- Cutting a list of occurrences that are in order leaves the usages that start where one of the
kept occurrences does. -/
theorem filterMap_take {r : Registry} {os : List Occurrence}
    (h : os.Pairwise fun o p => o.start < p.start) (n : Nat) :
    (os.take n).filterMap (usage? r) =
      (os.filterMap (usage? r)).filter fun u => u.start ∈ (os.take n).map (·.start) := by
  have hstart : ∀ {xs : List Occurrence} {u : Usage}, u ∈ xs.filterMap (usage? r) →
      ∃ o ∈ xs, o.start = u.start := by
    intro xs u hu
    obtain ⟨o, ho, husage⟩ := List.mem_filterMap.mp hu
    exact ⟨o, ho, (usage?_eq_some_iff.mp husage).1⟩
  have hkept : ∀ u ∈ (os.take n).filterMap (usage? r),
      decide (u.start ∈ (os.take n).map (·.start)) = true := by
    intro u hu
    obtain ⟨o, ho, hou⟩ := hstart hu
    exact decide_eq_true (List.mem_map.mpr ⟨o, ho, hou⟩)
  have hcut : ∀ u ∈ (os.drop n).filterMap (usage? r),
      ¬ decide (u.start ∈ (os.take n).map (·.start)) = true := by
    intro u hu hmem
    obtain ⟨p, hp, hpu⟩ := hstart hu
    obtain ⟨o, ho, hou⟩ := List.mem_map.mp (of_decide_eq_true hmem)
    rw [← List.take_append_drop n os] at h
    have hlt := (List.pairwise_append.mp h).2.2 o ho p hp
    omega
  conv_rhs => rw [← List.take_append_drop n os, List.filterMap_append, List.filter_append]
  rw [List.take_append_drop, List.filter_eq_self.mpr hkept, List.filter_eq_nil_iff.mpr hcut,
    List.append_nil]

end Occurrence

/-- A bound is refused, or cuts the occurrences that are looked at. -/
theorem findUsages_some (text : Text) (r : Registry) (k : Int) :
    findUsages text r (some k) =
      if 0 ≤ k ∧ k < Occurrence.boundLimit then
        .ok (((Occurrence.all text).take k.toNat).filterMap (Occurrence.usage? r))
      else .error .badBound := by
  simp only [findUsages, Occurrence.bounded]
  split <;> rfl

/-- A usage shows an occurrence of a name whose definition has a swatch. -/
def Usage.Shows (r : Registry) (text : Text) (u : Usage) : Prop :=
  ∃ name d, Occurrence.Occurs text ⟨u.start, u.stop, name⟩ ∧ r.get? name = some d ∧
    d.swatch = some u.color ∧ d.name = u.name

/--
**The usages in a text are all that there are**, in order and apart.  A bound is refused if it is
negative or does not fit a machine word.  Any other bound leaves the usages at that many first
occurrences, whether the names of these are known or not.
-/
theorem findUsages_shows_all (text : Text) (r : Registry) :
    ∃ usages, findUsages text r none = .ok usages ∧
      (∀ u, u ∈ usages ↔ u.Shows r text) ∧
      (usages.Pairwise fun u v => u.start < v.start ∧ u.stop ≤ v.start) ∧
      ∃ occurrences : List Occurrence,
        (∀ o, o ∈ occurrences ↔ Occurrence.Occurs text o) ∧
        (occurrences.Pairwise fun o p => o.start < p.start ∧ o.stop ≤ p.start) ∧
        ∀ k : Int, findUsages text r (some k) =
          if 0 ≤ k ∧ k < Occurrence.boundLimit then
            .ok (usages.filter fun u => u.start ∈ (occurrences.take k.toNat).map (·.start))
          else .error .badBound := by
  refine ⟨(Occurrence.all text).filterMap (Occurrence.usage? r), rfl, ?_, ?_,
    Occurrence.all text, fun o => Occurrence.mem_all_iff, Occurrence.pairwise_all text, ?_⟩
  · intro u
    rw [List.mem_filterMap]
    constructor
    · rintro ⟨⟨start, stop, name⟩, ho, husage⟩
      obtain ⟨rfl, rfl, d, hd⟩ := Occurrence.usage?_eq_some_iff.mp husage
      exact ⟨name, d, Occurrence.mem_all_iff.mp ho, hd⟩
    · rintro ⟨name, d, ho, hd⟩
      exact ⟨⟨u.start, u.stop, name⟩, Occurrence.mem_all_iff.mpr ho,
        Occurrence.usage?_eq_some_iff.mpr ⟨rfl, rfl, d, hd⟩⟩
  · refine (Occurrence.pairwise_all text).filterMap _ fun o p hop u hu v hv => ?_
    obtain ⟨hstart, hstop, -⟩ := Occurrence.usage?_eq_some_iff.mp hu
    obtain ⟨hstart', -⟩ := Occurrence.usage?_eq_some_iff.mp hv
    rwa [hstart, hstop, hstart'] at hop
  · intro k
    rw [findUsages_some, Occurrence.filterMap_take ((Occurrence.pairwise_all text).imp And.left)]

end SwatchIndex
