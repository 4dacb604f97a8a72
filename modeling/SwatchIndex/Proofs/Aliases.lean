/-
What colour a definition inherits.

`FirstColored r d k c` says that the alias chain of `d` comes to a definition with the colour `c`
after `k` hops, and to none with a colour before.  There is at most one such `k`, and that alone
shows that cycle detection costs nothing: a chain that comes back to a name it has passed would be
as far from a colour as it was, and farther by the way round.  So following a chain with the passed
names in hand, as `follow` does, is the same as chasing it for the given number of hops (`chase`).

Resolving a registry changes nothing but colours, and every definition gets the colour that `chase`
finds in the registry as it was (`entries_resolve`).  In the resolved registry chains run through
the same names, each as much nearer to its colour as there were hops (`chase_resolve`), so hops of
two resolutions add up.
-/
import SwatchIndex.Registry.Alias
import SwatchIndex.Proofs.Merging

namespace SwatchIndex

open scoped List

/-- Every definition stands under its own name. -/
def Registry.Keyed (r : Registry) : Prop := ∀ e ∈ r.table.entries, e.1 = e.2.name

instance (r : Registry) : Decidable r.Keyed :=
  inferInstanceAs (Decidable (∀ e ∈ r.table.entries, e.1 = e.2.name))

theorem Registry.Keyed.get?_name {r : Registry} (h : r.Keyed) {e : Text × Definition}
    (he : e ∈ r.table.entries) : r.get? e.2.name = some e.2 := by
  rw [← h e he]
  exact Table.get?_eq_some_iff.mpr he

namespace Alias

/-! ### The chain of a definition -/

/-- The definition that a definition is an alias of. -/
def next? (r : Registry) (d : Definition) : Option Definition := (target? d.value).bind r.get?

/-- The alias chain of a definition comes to the colour `c` after `k` hops, and to none before. -/
inductive FirstColored (r : Registry) : Definition → Nat → Text → Prop
  | here {d : Definition} {c : Text} (hcolor : d.color = some c) : FirstColored r d 0 c
  | hop {d e : Definition} {k : Nat} {c : Text} (hplain : d.color = none)
      (hnext : next? r d = some e) (hrest : FirstColored r e k c) : FirstColored r d (k + 1) c

/-- Chases the chain for a number of hops, up to the first colour. -/
def chase (r : Registry) : Nat → Definition → Option Text
  | 0, d => d.color
  | hops + 1, d => d.color.or ((next? r d).bind (chase r hops))

namespace FirstColored

variable {r : Registry} {d e : Definition} {k : Nat} {c : Text}

theorem of_color (hcolor : d.color = some c) {k' : Nat} {c' : Text}
    (h : FirstColored r d k' c') : k' = 0 ∧ c' = c := by
  cases h with
  | here h' => exact ⟨rfl, Option.some.inj (h'.symm.trans hcolor)⟩
  | hop hplain => exact absurd (hplain.symm.trans hcolor) (by simp)

/-- From a definition without a colour, the first colour is one hop farther than from the next. -/
theorem iff_of_next (hplain : d.color = none) (hnext : next? r d = some e) :
    FirstColored r d k c ↔ ∃ k', k = k' + 1 ∧ FirstColored r e k' c := by
  constructor
  · intro h
    cases h with
    | here hcolor => exact absurd (hplain.symm.trans hcolor) (by simp)
    | hop _ hnext' hrest =>
        obtain rfl := Option.some.inj (hnext'.symm.trans hnext)
        exact ⟨_, rfl, hrest⟩
  · rintro ⟨k', rfl, h⟩
    exact hop hplain hnext h

theorem not_of_next_eq_none (hplain : d.color = none) (hnext : next? r d = none) :
    ¬ FirstColored r d k c := by
  intro h
  cases h with
  | here hcolor => exact absurd (hplain.symm.trans hcolor) (by simp)
  | hop _ hnext' => exact absurd (hnext'.symm.trans hnext) (by simp)

/-- The first colour of a chain is at one distance only. -/
theorem unique (h : FirstColored r d k c) :
    ∀ {k' : Nat} {c' : Text}, FirstColored r d k' c' → k' = k ∧ c' = c := by
  induction h with
  | here hcolor => intro k' c' h'; exact of_color hcolor h'
  | hop hplain hnext _ ih =>
      intro k' c' h'
      obtain ⟨j, rfl, hj⟩ := (iff_of_next hplain hnext).mp h'
      obtain ⟨rfl, rfl⟩ := ih hj
      exact ⟨rfl, rfl⟩

end FirstColored

theorem chase_of_color {r : Registry} {d : Definition} {c : Text} (hcolor : d.color = some c)
    (hops : Nat) : chase r hops d = some c := by
  cases hops with
  | zero => exact hcolor
  | succ hops => rw [chase, hcolor, Option.some_or]

/-- Chasing a chain finds its first colour, if the hops suffice. -/
theorem chase_eq_some_iff {r : Registry} {c : Text} : ∀ {hops : Nat} {d : Definition},
    chase r hops d = some c ↔ ∃ k, k ≤ hops ∧ FirstColored r d k c := by
  intro hops
  induction hops with
  | zero =>
      intro d
      constructor
      · intro h
        exact ⟨0, Nat.le_refl _, .here h⟩
      · rintro ⟨k, hk, h⟩
        obtain rfl : k = 0 := by omega
        cases h with
        | here hcolor => exact hcolor
  | succ hops ih =>
      intro d
      cases hcolor : d.color with
      | some own =>
          rw [chase, hcolor, Option.some_or]
          constructor
          · intro h
            exact ⟨0, Nat.zero_le _, .here (hcolor.trans h)⟩
          · rintro ⟨k, -, h⟩
            rw [(FirstColored.of_color hcolor h).2]
      | none =>
          rw [chase, hcolor, Option.none_or]
          cases hnext : next? r d with
          | none =>
              refine ⟨fun h => by simp at h, ?_⟩
              rintro ⟨k, -, h⟩
              exact absurd h (FirstColored.not_of_next_eq_none hcolor hnext)
          | some e =>
              rw [Option.bind_some, ih]
              constructor
              · rintro ⟨k, hk, h⟩
                exact ⟨k + 1, by omega, .hop hcolor hnext h⟩
              · rintro ⟨k, hk, h⟩
                obtain ⟨k', rfl, h'⟩ := (FirstColored.iff_of_next hcolor hnext).mp h
                exact ⟨k', by omega, h'⟩

/-- More hops keep a colour that is found. -/
theorem chase_mono {r : Registry} {d : Definition} {c : Text} {m n : Nat} (hmn : m ≤ n)
    (h : chase r m d = some c) : chase r n d = some c := by
  obtain ⟨k, hk, hfirst⟩ := chase_eq_some_iff.mp h
  exact chase_eq_some_iff.mpr ⟨k, by omega, hfirst⟩

/-- A chain depends on what names stand for, and on nothing else of a registry. -/
theorem chase_congr {r s : Registry} (h : ∀ name, s.get? name = r.get? name) :
    ∀ (hops : Nat) (d : Definition), chase s hops d = chase r hops d := by
  intro hops
  induction hops with
  | zero => intro d; rfl
  | succ hops ih =>
      intro d
      have hnext : next? s d = next? r d := by rw [next?, next?, funext h]
      rw [chase, chase, hnext, funext ih]

/-! ### Cycle detection costs nothing -/

/-- The definition of a name is on the way to `current`: it is farther from the first colour by the
same number of hops, whatever the colour. -/
def Behind (r : Registry) (current : Definition) (name : Text) : Prop :=
  ∃ e j, r.get? name = some e ∧
    ∀ k c, FirstColored r current k c → FirstColored r e (k + j) c

theorem behind_self {r : Registry} {d : Definition} {name : Text} (h : r.get? name = some d) :
    Behind r d name :=
  ⟨d, 0, h, fun _ _ hfirst => hfirst⟩

/-- What is behind a definition is behind the next one. -/
theorem Behind.hop {r : Registry} {current target : Definition} {name : Text}
    (h : Behind r current name) (hplain : current.color = none)
    (hnext : next? r current = some target) : Behind r target name := by
  obtain ⟨e, j, hget, hdistance⟩ := h
  refine ⟨e, j + 1, hget, fun k c hfirst => ?_⟩
  rw [← Nat.add_assoc, Nat.add_right_comm]
  exact hdistance (k + 1) c (.hop hplain hnext hfirst)

/-- A chain that comes back to what is behind it comes to no colour: the first colour would be
nearer from there than from here, and farther too. -/
theorem Behind.chase_eq_none {r : Registry} {current : Definition} {name : Text}
    (h : Behind r current name) (hplain : current.color = none)
    (hback : next? r current = r.get? name) (hops : Nat) : chase r hops current = none := by
  obtain ⟨e, j, hget, hdistance⟩ := h
  rw [Option.eq_none_iff_forall_ne_some]
  intro c hc
  obtain ⟨k, -, hfirst⟩ := chase_eq_some_iff.mp hc
  obtain ⟨k', rfl, hnear⟩ := (FirstColored.iff_of_next hplain (hback.trans hget)).mp hfirst
  have hfar : FirstColored r e (k' + 1 + j) c := hdistance (k' + 1) c hfirst
  have hsame : k' + 1 + j = k' := (hnear.unique hfar).1
  omega

/-- **Following a chain with the passed names in hand is chasing it.** -/
theorem follow_color? {r : Registry} :
    ∀ {hops : Nat} {seen : List Text} {current : Definition}, current.color = none →
      (∀ name ∈ seen, Behind r current name) →
      (follow r seen current hops).color? = chase r hops current := by
  intro hops
  induction hops with
  | zero => intro seen current hplain _; exact hplain.symm
  | succ hops ih =>
      intro seen current hplain hseen
      rw [follow, chase, hplain, Option.none_or]
      cases htarget : target? current.value with
      | none => simp [next?, htarget, Ending.color?]
      | some name =>
          have hnext : next? r current = r.get? name := by rw [next?, htarget, Option.bind_some]
          by_cases hmem : name ∈ seen
          · -- The next definition is one that the chain has passed: there is no colour ahead.
            have hdead := (hseen name hmem).chase_eq_none hplain hnext (hops + 1)
            rw [chase, hplain, Option.none_or] at hdead
            simp [hmem, Ending.color?, hdead]
          · simp only [hmem, if_false, hnext]
            cases hget : r.get? name with
            | none => rfl
            | some target =>
                cases hcolor : target.color with
                | some color =>
                    simp only [hcolor, Option.bind_some, chase_of_color hcolor]
                    rfl
                | none =>
                    simp only [hcolor, Option.bind_some]
                    refine ih hcolor fun n hn => ?_
                    rcases List.mem_cons.mp hn with rfl | hn
                    · exact behind_self hget
                    · exact (hseen n hn).hop hplain (hnext.trans hget)

/-- The colour that a definition of a registry has or inherits is the one that is chased. -/
theorem colorOf_eq_chase {r : Registry} {d : Definition} (h : r.get? d.name = some d)
    (depth : Int) : colorOf r depth d = chase r depth.toNat d := by
  unfold colorOf ending
  cases hcolor : d.color with
  | some color => exact (chase_of_color hcolor _).symm
  | none =>
      refine follow_color? hcolor fun name hname => ?_
      rw [List.mem_singleton.mp hname]
      exact behind_self h

end Alias

/-! ### Resolving changes only colours -/

namespace Registry

open Alias

/-- The definition with the first colour within `hops` hops. -/
def filled (r : Registry) (hops : Nat) (d : Definition) : Definition :=
  { d with color := chase r hops d }

theorem filled_zero (r : Registry) (d : Definition) : r.filled 0 d = d := rfl

theorem settled_eq_filled {r : Registry} {d : Definition} (h : r.get? d.name = some d)
    (depth : Int) : settled r depth d = r.filled depth.toNat d := by
  unfold settled filled
  cases hcolor : d.color with
  | some color =>
      show d = { d with color := chase r depth.toNat d }
      rw [chase_of_color hcolor, ← hcolor]
  | none => rw [colorOf_eq_chase h]

/-- **Resolving fills in the colours that are chased in the registry as it was.** -/
theorem entries_resolve {r : Registry} (h : r.Keyed) (depth : Int) (version : Nat) :
    (r.resolve depth version).table.entries =
      r.table.entries.map fun e => (e.1, r.filled depth.toNat e.2) := by
  unfold resolve
  by_cases hdepth : depth ≤ 0
  · have hzero : depth.toNat = 0 := by omega
    rw [if_pos hdepth, hzero]
    simp [filled_zero]
  · have hentries : ((r.definitions.map (settled r depth)).map fun d => (d.name, d)) =
        r.table.entries.map fun e => (e.1, r.filled depth.toNat e.2) := by
      simp only [definitions, Table.values, List.map_map]
      refine List.map_congr_left fun e he => ?_
      have hfilled := settled_eq_filled (h.get?_name he) depth
      simp only [Function.comp_apply, hfilled, filled, h e he]
    rw [if_neg hdepth]
    show (Table.ofEntries _).entries = _
    rw [hentries]
    refine Table.entries_ofEntries ?_
    simpa [List.map_map, Function.comp_def] using r.table.distinct

theorem collisions_resolve (r : Registry) (depth : Int) (version : Nat) :
    (r.resolve depth version).collisions = r.collisions := by
  unfold resolve
  split <;> rfl

theorem names_resolve {r : Registry} (h : r.Keyed) (depth : Int) (version : Nat) :
    (r.resolve depth version).names = r.names := by
  simp [names, Table.keys, entries_resolve h, Function.comp_def]

theorem get?_resolve {r : Registry} (h : r.Keyed) (depth : Int) (version : Nat) (name : Text) :
    (r.resolve depth version).get? name = (r.get? name).map (r.filled depth.toNat) := by
  simp only [get?, Table.get?, entries_resolve h]
  exact Table.lookup_map_snd (fun _ => r.filled depth.toNat) name r.table.entries

theorem Keyed.resolve {r : Registry} (h : r.Keyed) (depth : Int) (version : Nat) :
    (r.resolve depth version).Keyed := by
  intro e he
  rw [entries_resolve h, List.mem_map] at he
  obtain ⟨e', he', rfl⟩ := he
  exact h e' he'

theorem keyed_build (units : List (List Definition)) (version : Nat) :
    (build units version).Keyed :=
  fun _ => name_eq_of_mem_build

/--
**Resolving gives every definition the first colour on its alias chain**, as the chain is in the
registry that is resolved, if that many hops are allowed.  A definition with a colour keeps it, and
one whose chain ends, runs into a cycle or is too long has none.  Nothing else changes, and the
order of the definitions does not matter to the colours.
-/
theorem resolve_fills_first_color {r : Registry} (h : r.Keyed) {depth : Int} (hdepth : 1 ≤ depth)
    (version : Nat) :
    (r.resolve depth version).names = r.names ∧
      (r.resolve depth version).collisions = r.collisions ∧
      (∀ name d, r.get? name = some d →
        ∃ d', (r.resolve depth version).get? name = some d' ∧ d'.name = d.name ∧
          d'.value = d.value ∧ d'.source = d.source ∧
          ∀ c, d'.color = some c ↔ ∃ k : Nat, (k : Int) ≤ depth ∧ FirstColored r d k c) ∧
      (∀ s : Registry, s.table.entries ~ r.table.entries → ∀ name,
        (s.resolve depth version).get? name = (r.resolve depth version).get? name) ∧
      ∀ units v, (build units v).Keyed := by
  refine ⟨names_resolve h depth version, collisions_resolve r depth version, ?_, ?_, keyed_build⟩
  · intro name d hget
    refine ⟨r.filled depth.toNat d, by rw [get?_resolve h, hget]; rfl, rfl, rfl, rfl, ?_⟩
    intro c
    rw [show (r.filled depth.toNat d).color = chase r depth.toNat d from rfl, chase_eq_some_iff]
    refine exists_congr fun k => and_congr_left fun _ => ?_
    omega
  · intro s hperm name
    have hkeyed : s.Keyed := fun e he => h e (hperm.mem_iff.mp he)
    have hget : ∀ name, s.get? name = r.get? name := Table.get?_eq_of_perm hperm
    have hfilled : s.filled depth.toNat = r.filled depth.toNat := by
      funext d
      simp only [filled, chase_congr hget]
    rw [get?_resolve hkeyed, get?_resolve h, hget, hfilled]

/-- Three definitions, the first an alias of the second and that one of the third, beside one that
is an alias of itself. -/
def sample : Registry :=
  build [[⟨"--a".toList, "var(--b)".toList, none, none⟩,
    ⟨"--b".toList, "rgb(var( --c ))".toList, none, none⟩,
    ⟨"--c".toList, "0, 0, 0".toList, some "#000000".toList, none⟩,
    ⟨"--d".toList, "var(--d)".toList, none, none⟩]] 1

/-- Two hops bring the colour of the third definition to the first. -/
theorem resolve_fills_first_color_sample :
    sample.Keyed ∧ (1 : Int) ≤ 2 ∧
      ∃ d, (sample.resolve 2 2).get? "--a".toList = some d ∧ d.color = some "#000000".toList := by
  obtain ⟨-, -, hcolors, -⟩ :=
    resolve_fills_first_color (keyed_build _ _ : sample.Keyed) (show (1 : Int) ≤ 2 by decide) 2
  obtain ⟨d, hget, -, -, -, hcolor⟩ := hcolors "--a".toList _ rfl
  exact ⟨keyed_build _ _, by decide, d, hget,
    (hcolor _).mpr ⟨2, by decide, .hop rfl rfl (.hop rfl rfl (.here rfl))⟩⟩

/-! ### Hops add up -/

/-- In the resolved registry, a chain runs through the same definitions, filled. -/
theorem next?_resolve {r : Registry} (h : r.Keyed) (hops version : Nat) (d : Definition) :
    next? (r.resolve hops version) (r.filled hops d) = (next? r d).map (r.filled hops) := by
  have hvalue : (r.filled hops d).value = d.value := rfl
  simp only [next?, hvalue]
  cases target? d.value with
  | none => rfl
  | some name => simp only [Option.bind_some, get?_resolve h, Int.toNat_natCast]

/-- A definition that is filled already has its colour, or the next one has it one hop nearer. -/
theorem chase_or_next (r : Registry) (m n : Nat) (d : Definition) :
    (chase r m d).or ((next? r d).bind (chase r (m + n))) = chase r (m + n + 1) d := by
  cases hfound : chase r m d with
  | some c => rw [Option.some_or, chase_mono (by omega) hfound]
  | none =>
      have hplain : d.color = none := by
        cases hcolor : d.color with
        | none => rfl
        | some c => exact absurd (hfound.symm.trans (chase_of_color hcolor m)) (by simp)
      rw [Option.none_or, chase, hplain, Option.none_or]

/-- **Chasing in the resolved registry goes on where resolving stopped.** -/
theorem chase_resolve {r : Registry} (h : r.Keyed) (m version : Nat) :
    ∀ (n : Nat) (d : Definition),
      chase (r.resolve m version) n (r.filled m d) = chase r (m + n) d := by
  intro n
  induction n with
  | zero => intro d; rfl
  | succ n ih =>
      intro d
      have hcolor : (r.filled m d).color = chase r m d := rfl
      have hrest : ((next? r d).map (r.filled m)).bind (chase (r.resolve m version) n) =
          (next? r d).bind (chase r (m + n)) := by
        cases next? r d with
        | none => rfl
        | some e => exact ih e
      rw [chase, hcolor, next?_resolve h, hrest, chase_or_next]
      rfl

/-- **Depths add up.**  Resolving a resolved registry further is resolving it once with both depths,
whatever cycles and dangling references there are.  Depth zero changes nothing. -/
theorem resolve_resolve {r : Registry} (h : r.Keyed) (m n v v' v'' : Nat) :
    ((r.resolve m v).resolve n v').table = (r.resolve (m + n : Nat) v'').table ∧
      ((r.resolve m v).resolve n v').collisions = (r.resolve (m + n : Nat) v'').collisions ∧
      r.resolve 0 v = r := by
  refine ⟨Table.eq_of_entries ?_, by simp only [collisions_resolve], rfl⟩
  rw [entries_resolve (h.resolve m v), entries_resolve h, entries_resolve h, List.map_map]
  refine List.map_congr_left fun e _ => ?_
  simp only [Function.comp_apply, Int.toNat_natCast, Prod.mk.injEq, true_and]
  show { r.filled m e.2 with color := chase (r.resolve m v) n (r.filled m e.2) } =
    r.filled (m + n) e.2
  rw [chase_resolve h]
  rfl

/-- One hop and then another bring the colour as far as two hops do. -/
theorem resolve_resolve_sample :
    sample.Keyed ∧
      ((sample.resolve (1 : Nat) 2).resolve (1 : Nat) 3).table =
        (sample.resolve (2 : Nat) 4).table :=
  ⟨keyed_build _ _, (resolve_resolve (keyed_build _ _) 1 1 2 3 4).1⟩

end Registry

end SwatchIndex
