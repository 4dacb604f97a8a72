/-
What an index holds.

A definition comes to an index by four stages: it is read off a text, merged with the others,
perhaps given the colour of another one, and then stored under its name.  `Accounted` says what
holds of it all the way: its name and value are well formed, its colour is a code, and some unit
declares it.

Reading establishes this (`accounted_of_mem_parseUnits`), because clauses are well formed and
colours come from comments or triplets only.  Merging stores nothing but what was read
(`mem_flatten_of_mem_build`).  Resolving changes colours only, and takes them from the registry
itself (`mem_resolve`, `FirstColored.exists_colored`).  So no stage makes a colour that has no
normal form, whatever the settings are.
-/
import SwatchIndex.Indexing
import SwatchIndex.Proofs.Aliases
import SwatchIndex.Proofs.Outcomes
import SwatchIndex.Proofs.Printing

namespace SwatchIndex

/-! ### Reading -/

namespace Declaration

theorem mem_of_mem_within {α : Type} {budget : Option Nat} {items : List α} {a : α}
    (h : a ∈ within budget items) : a ∈ items := by
  cases budget with
  | none => exact h
  | some n => exact List.mem_of_mem_take h

/-- The colour of a declaration is a code, whether a comment gives it or the value does. -/
theorem isCode_of_color {value code : Text} {comment : Option Text}
    (h : color value comment = .ok (some code)) (hcomment : ∀ c ∈ comment, Color.IsCode c) :
    Color.IsCode code := by
  cases comment with
  | some c =>
      cases h
      exact hcomment code rfl
  | none => exact (Color.isNormal_of_fromTriplet h).isCode

/-- Every definition of a parse is made from a well-formed clause. -/
theorem wellFormed_of_mem_parse {text : Text} {source : Option Text} {limits : ScanLimits}
    {ds : List Definition} (h : parse text source limits = .ok ds) {d : Definition} (hd : d ∈ ds) :
    IsPropertyName d.name ∧ IsValue d.value ∧ (∀ code ∈ d.color, Color.IsCode code) ∧
      d.source = source := by
  rw [parse_eq] at h
  obtain ⟨k, hk, houtcome⟩ := (mem_mapM_iff h).mp hd
  have hvalid : k.WellFormed := wellFormed_of_mem_clauses (mem_of_mem_within hk)
  obtain ⟨shade, hcolor, rfl⟩ := Clause.outcome_eq_ok houtcome
  refine ⟨hvalid.name, hvalid.value, fun code hcode => ?_, rfl⟩
  have hshade : shade = some code := hcode
  exact isCode_of_color (hshade ▸ hcolor) hvalid.code

end Declaration

namespace Indexing

/-- What holds of every definition of an index. -/
structure Accounted (s : Settings) (units : List SourceUnit) (d : Definition) : Prop where
  name : IsPropertyName d.name
  value : Declaration.IsValue d.value
  color : ∀ code ∈ d.color, Color.IsCode code
  /-- A unit with a text declares the name with the value, under these settings. -/
  origin : ∃ u ∈ units, ∃ text ds, u.text = some text ∧ d.source = some u.path ∧
    parse text (some u.path) s.limits = .ok ds ∧ ∃ e ∈ ds, e.name = d.name ∧ e.value = d.value

/-- A definition stays accounted for when its colour changes to another code. -/
theorem Accounted.recolor {s : Settings} {units : List SourceUnit} {d : Definition}
    (h : Accounted s units d) {shade : Option Text} (hshade : ∀ code ∈ shade, Color.IsCode code) :
    Accounted s units { d with color := shade } :=
  ⟨h.name, h.value, hshade, h.origin⟩

theorem accounted_of_mem_parseUnits {s : Settings} {units : List SourceUnit}
    {parsed : List (List Definition)} (h : parseUnits s units = .ok parsed) {d : Definition}
    (hd : d ∈ parsed.flatten) : Accounted s units d := by
  obtain ⟨ds, hds, hmem⟩ := List.mem_flatten.mp hd
  obtain ⟨u, hu, hparse⟩ := (mem_mapM_iff h).mp hds
  unfold parseUnit at hparse
  cases htext : u.text with
  | none =>
      rw [htext] at hparse
      cases hparse
      simp at hmem
  | some text =>
      rw [htext] at hparse
      obtain ⟨hname, hvalue, hcolor, hsource⟩ := Declaration.wellFormed_of_mem_parse hparse hmem
      exact ⟨hname, hvalue, hcolor, u, hu, text, ds, htext, hsource, hparse, d, hmem, rfl, rfl⟩

end Indexing

/-! ### Merging and resolving -/

namespace Registry

theorem mem_definitions_iff {r : Registry} {d : Definition} :
    d ∈ r.definitions ↔ ∃ name, (name, d) ∈ r.table.entries := by
  simp [definitions, Table.values]

/-- A registry stores nothing but what was merged. -/
theorem mem_flatten_of_mem_build {units : List (List Definition)} {version : Nat} {d : Definition}
    (h : d ∈ (build units version).definitions) : d ∈ units.flatten := by
  rw [build_eq] at h
  exact (perm_merged units.flatten).mem_iff.mpr (List.mem_append_left _ h)

/-- Where definitions stand under their names, the names are theirs. -/
theorem Keyed.map_name {r : Registry} (h : r.Keyed) : r.definitions.map (·.name) = r.names := by
  simp only [definitions, Table.values, names, Table.keys, List.map_map]
  exact List.map_congr_left fun e he => (h e he).symm

/-- Resolving keeps the definitions and changes only their colours. -/
theorem mem_resolve {r : Registry} (h : r.Keyed) {depth : Int} {version : Nat} {d : Definition}
    (hd : d ∈ (r.resolve depth version).definitions) :
    ∃ e ∈ r.definitions, d = r.filled depth.toNat e := by
  obtain ⟨name, hmem⟩ := mem_definitions_iff.mp hd
  rw [entries_resolve h, List.mem_map] at hmem
  obtain ⟨e, he, heq⟩ := hmem
  exact ⟨e.2, mem_definitions_iff.mpr ⟨e.1, he⟩, (Prod.mk.inj heq).2.symm⟩

end Registry

/-- A chain stays in the registry. -/
theorem Alias.mem_definitions_of_next? {r : Registry} {d e : Definition}
    (h : Alias.next? r d = some e) : e ∈ r.definitions := by
  obtain ⟨name, -, hget⟩ := Option.bind_eq_some_iff.mp h
  exact Registry.mem_definitions_iff.mpr ⟨name, Table.get?_eq_some_iff.mp hget⟩

/-- The first colour of a chain is that of a definition in the registry. -/
theorem Alias.FirstColored.exists_colored {r : Registry} {d : Definition} {k : Nat} {c : Text}
    (h : Alias.FirstColored r d k c) (hd : d ∈ r.definitions) :
    ∃ e ∈ r.definitions, e.color = some c := by
  induction h with
  | here hcolor => exact ⟨_, hd, hcolor⟩
  | hop _ hnext _ ih => exact ih (mem_definitions_of_next? hnext)

/-! ### The whole way -/

/-- The swatch of a definition is there if its colour is, and is in normal form. -/
theorem Definition.swatch_of_isCode {d : Definition}
    (h : ∀ code ∈ d.color, Color.IsCode code) :
    (d.swatch = none ↔ d.color = none) ∧ ∀ code ∈ d.swatch, Color.IsNormal code := by
  unfold Definition.swatch
  cases hcolor : d.color with
  | none => simp
  | some code =>
      obtain ⟨normal, hnormal, hform⟩ := (h code hcolor).fromCode
      simp [hnormal, hform]

namespace Indexing

/-- An index is a merge of what was parsed, resolved to the depth of the settings. -/
theorem index_eq_ok {s : Settings} {units : List SourceUnit} {next next' : Nat} {r : Registry}
    (h : index s units next = (.ok r, next')) :
    ∃ parsed, parseUnits s units = .ok parsed ∧
      r = (Registry.build parsed next).resolve s.resolveDepth (next + 1) := by
  unfold index at h
  split at h
  · simp at h
  · rename_i parsed hparsed
    refine ⟨parsed, hparsed, ?_⟩
    split at h
    · rename_i hdepth
      cases h
      rw [Registry.resolve, if_pos hdepth]
    · cases h
      rfl

theorem accounted_of_mem_index {s : Settings} {units : List SourceUnit} {next next' : Nat}
    {r : Registry} (h : index s units next = (.ok r, next')) {d : Definition}
    (hd : d ∈ r.definitions) : Accounted s units d := by
  obtain ⟨parsed, hparsed, rfl⟩ := index_eq_ok h
  have hmerged : ∀ e ∈ (Registry.build parsed next).definitions, Accounted s units e :=
    fun e he => accounted_of_mem_parseUnits hparsed (Registry.mem_flatten_of_mem_build he)
  obtain ⟨e, he, rfl⟩ := Registry.mem_resolve (Registry.keyed_build parsed next) hd
  refine (hmerged e he).recolor fun code hcode => ?_
  obtain ⟨k, -, hfirst⟩ := Alias.chase_eq_some_iff.mp (Option.mem_def.mp hcode)
  obtain ⟨colored, hmem, hcolor⟩ := hfirst.exists_colored he
  exact (hmerged colored hmem).color code hcolor

/--
**Every definition of an index is accounted for**, whatever the units and the settings are: it
stands under its own name, the name and the value are well formed, a unit with a text declares the
two, and the colour is a code.  So every colour has a swatch, and it is in normal form.  No name
occurs twice.
-/
theorem index_accounted {s : Settings} {units : List SourceUnit} {next next' : Nat} {r : Registry}
    (h : index s units next = (.ok r, next')) :
    (∀ e ∈ r.table.entries, e.1 = e.2.name) ∧ (r.definitions.map (·.name)).Nodup ∧
      ∀ d ∈ r.definitions, Accounted s units d ∧ (d.swatch = none ↔ d.color = none) ∧
        ∀ code ∈ d.swatch, Color.IsNormal code := by
  have hkeyed : r.Keyed := by
    obtain ⟨parsed, -, rfl⟩ := index_eq_ok h
    exact (Registry.keyed_build parsed next).resolve _ _
  refine ⟨hkeyed, ?_, fun d hd => ?_⟩
  · rw [hkeyed.map_name]
    exact r.table.distinct
  · have hd' : Accounted s units d := accounted_of_mem_index h hd
    exact ⟨hd', Definition.swatch_of_isCode hd'.color⟩

/-- A stylesheet with an alias of a definition whose colour a comment gives. -/
def sampleText : Text := "--a: var(--b);--b:1;/*#aBc*/".toList

/-- The stylesheet and a unit without a text. -/
def sampleUnits : List SourceUnit :=
  [⟨"a.css".toList, some sampleText⟩, ⟨"b.css".toList, none⟩]

/-- Settings that follow aliases for one hop. -/
def sampleSettings : Settings := { resolveDepth := 1 }

/-- The alias, with a colour or without one. -/
def sampleAlias (color : Option Text) : Definition :=
  ⟨"--a".toList, "var(--b)".toList, color, some "a.css".toList⟩

/-- With one hop allowed, the colour of the second definition reaches the first. -/
theorem index_accounted_sample :
    ∃ r, index sampleSettings sampleUnits 1 = (.ok r, 3) ∧
      sampleAlias (some "#aBc".toList) ∈ r.definitions ∧
      Accounted sampleSettings sampleUnits (sampleAlias (some "#aBc".toList)) := by
  have hparse : parse sampleText (some "a.css".toList) sampleSettings.limits =
      .ok [sampleAlias none,
        ⟨"--b".toList, "1".toList, some "#aBc".toList, some "a.css".toList⟩] := by
    rw [Declaration.parse_eq]
    rfl
  obtain ⟨r, hindex, hmem⟩ : ∃ r, index sampleSettings sampleUnits 1 = (.ok r, 3) ∧
      sampleAlias (some "#aBc".toList) ∈ r.definitions := by
    simp only [index, parseUnits, sampleUnits, List.mapM_cons, List.mapM_nil, parseUnit, hparse]
    refine ⟨_, rfl, ?_⟩
    decide
  exact ⟨r, hindex, hmem, ((index_accounted hindex).2.2 _ hmem).1⟩

end Indexing

end SwatchIndex
