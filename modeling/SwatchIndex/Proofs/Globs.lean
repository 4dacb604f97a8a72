/-
What a glob leads to, however the tree is listed.

`Leads` says where a glob leads without a word about order.  Following a glob yields exactly these
places, beside the error that may end it (`mem_select_iff`).

A tree lists its directories and files in some order, and whoever asks what is at a place does not
see it (`Relisted.alike`).  Who lists a directory does see it, but gets the same names in another
order (`Relisted.entries_cases`).  So a glob yields the same in all listings of a tree, errors
included, if not in the same order (`mem_select_relisted`).
-/
import SwatchIndex.Proofs.Shapes

namespace SwatchIndex

/-! ### Listings of one tree -/

namespace Tree

/-- Two listings of one tree: they have the same entries, and the same at each place. -/
structure Relisted (tree tree' : Tree) : Prop where
  entries : ∀ e, e ∈ tree.nodes ↔ e ∈ tree'.nodes
  node : ∀ p, tree.node? p = tree'.node? p

namespace Relisted

variable {tree tree' : Tree} (h : tree.Relisted tree')

include h

theorem symm : tree'.Relisted tree := ⟨fun e => (h.entries e).symm, fun p => (h.node p).symm⟩

theorem alike : tree.Alike tree' := by
  intro p
  rw [kind?, kind?, h.node]

theorem lookUp (p : Place) : tree.lookUp p = tree'.lookUp p := by
  simp only [Tree.lookUp, h.alike.locate, h.node]

theorem find? (p : Place) : tree.find? p = tree'.find? p := by
  rw [Tree.find?, Tree.find?, h.lookUp]

theorem probe (p : Place) : tree.probe p = tree'.probe p := by
  rw [Tree.probe, Tree.probe, h.lookUp]

theorem read (p : Place) : tree.read p = tree'.read p := by
  simp only [Tree.read, h.alike.locate, h.node]

/-- Who lists a directory has the same problem in both listings, or gets the same names. -/
theorem entries_cases (p : Place) :
    (∃ e, tree.entries p = .error e ∧ tree'.entries p = .error e) ∨
      ∃ entries entries', tree.entries p = .ok entries ∧ tree'.entries p = .ok entries' ∧
        ∀ entry, entry ∈ entries ↔ entry ∈ entries' := by
  unfold Tree.entries
  rw [h.alike.openDirectory]
  cases tree'.openDirectory p with
  | error e => exact .inl ⟨e, rfl, rfl⟩
  | ok real =>
      refine .inr ⟨_, _, rfl, rfl, fun entry => ?_⟩
      simp only [List.mem_filterMap, h.entries]

theorem mem_below {p : Place} {parts : List Text} :
    parts ∈ tree.below p ↔ parts ∈ tree'.below p := by
  unfold Tree.below
  rw [h.alike.locate]
  split
  · rfl
  · simp only [List.mem_filterMap, h.entries]

end Relisted

end Tree

/-! ### Following a glob -/

namespace Glob

variable {tree tree' : Tree} {here p : Place} {segments rest : List Segment}

/-- The places to which segments lead from a place. -/
inductive Leads (tree : Tree) : Place → List Segment → Place → Prop
  | here {p : Place} : Leads tree p [] p
  | finalSlash {here p : Place} {rest : List Segment} (h : Leads tree here rest p) :
      Leads tree here (.finalSlash :: rest) p
  | anyDepth {here p : Place} {rest : List Segment} {parts : List Text}
      (hparts : .ok parts ∈ descents tree here) (h : Leads tree (here.descend parts) rest p) :
      Leads tree here (.anyDepth :: rest) p
  | wild {here p : Place} {rest : List Segment} {pattern : Spelling}
      {entries : List (Text × Bool)} {name : Text} {isDirectory : Bool}
      (hentries : tree.entries here = .ok entries) (hname : (name, isDirectory) ∈ entries)
      (hpattern : NamePattern.describes pattern name = true)
      (henter : rest = [] ∨ isDirectory = true) (h : Leads tree (here.child name) rest p) :
      Leads tree here (.wild pattern :: rest) p
  | literal {here p : Place} {rest : List Segment} {spelled : Spelling} {name : Text}
      (hname : spelled.text? = some name)
      (henter : mayEnter tree (here.child name) rest = .ok true)
      (h : Leads tree (here.child name) rest p) : Leads tree here (.literal spelled :: rest) p

/-- A place comes of an answer, or not at all. -/
theorem ok_mem_goOn_iff {α β : Type} {asked : Except FileError α}
    {next : α → List (Except FileError β)} {b : β} :
    .ok b ∈ goOn asked next ↔ ∃ a, asked = .ok a ∧ .ok b ∈ next a := by
  cases asked with
  | ok a => simp [goOn]
  | error e => by_cases he : e.problem = .denied <;> simp [goOn, he]

/-- **Following a glob yields the places to which it leads.** -/
theorem mem_select_iff : .ok p ∈ select tree here segments ↔ Leads tree here segments p := by
  induction segments generalizing here with
  | nil =>
      rw [select, List.mem_singleton, Except.ok.injEq]
      constructor
      · rintro rfl
        exact .here
      · intro hleads
        cases hleads
        rfl
  | cons segment rest ih =>
      cases segment with
      | finalSlash =>
          rw [select, ih]
          constructor
          · exact .finalSlash
          · intro hleads
            cases hleads with
            | finalSlash hrest => exact hrest
      | anyDepth =>
          rw [select, List.mem_flatMap]
          constructor
          · rintro ⟨yielded, hyielded, hp⟩
            cases yielded with
            | error e => simp at hp
            | ok parts => exact .anyDepth hyielded (ih.mp hp)
          · intro hleads
            cases hleads with
            | anyDepth hparts hrest => exact ⟨_, hparts, ih.mpr hrest⟩
      | wild pattern =>
          rw [select, ok_mem_goOn_iff]
          simp only [List.mem_flatMap, List.mem_filter, Bool.and_eq_true, Bool.or_eq_true,
            List.isEmpty_iff, Prod.exists, ih]
          constructor
          · rintro ⟨entries, hentries, name, isDirectory, ⟨hname, hpattern, henter⟩, hrest⟩
            exact .wild hentries hname hpattern henter hrest
          · intro hleads
            cases hleads with
            | wild hentries hname hpattern henter hrest =>
                exact ⟨_, hentries, _, _, ⟨hname, hpattern, henter⟩, hrest⟩
      | literal spelled =>
          rw [select]
          cases hspelled : spelled.text? with
          | none =>
              refine ⟨fun hmem => absurd hmem List.not_mem_nil, fun hleads => ?_⟩
              cases hleads with
              | literal hname =>
                  rw [hspelled] at hname
                  cases hname
          | some name =>
              dsimp only
              rw [ok_mem_goOn_iff]
              constructor
              · rintro ⟨enters, henters, hmem⟩
                cases enters with
                | false => exact absurd hmem List.not_mem_nil
                | true => exact .literal hspelled henters (ih.mp hmem)
              · intro hleads
                cases hleads with
                | literal hname henter hrest =>
                    rw [hspelled] at hname
                    cases hname
                    exact ⟨true, henter, ih.mpr hrest⟩

/-! ### In another listing -/

theorem mem_descents_relisted (h : tree.Relisted tree') {yielded : Except FileError (List Text)} :
    yielded ∈ descents tree here ↔ yielded ∈ descents tree' here := by
  simp only [descents, List.mem_flatMap, List.mem_filter, List.mem_cons, h.mem_below,
    h.alike.isOpen, h.alike.openDirectory]

/-- **A glob yields the same in every listing**, if not in the same order. -/
theorem mem_select_relisted (h : tree.Relisted tree') {yielded : Except FileError Place} :
    yielded ∈ select tree here segments ↔ yielded ∈ select tree' here segments := by
  induction segments generalizing here with
  | nil => rfl
  | cons segment rest ih =>
      cases segment with
      | finalSlash => exact ih
      | anyDepth =>
          rw [select, select, List.mem_flatMap, List.mem_flatMap]
          refine exists_congr fun x => and_congr (mem_descents_relisted h) ?_
          cases x with
          | error e => rfl
          | ok parts => exact ih
      | wild pattern =>
          rw [select, select]
          rcases h.entries_cases here with ⟨e, he, he'⟩ | ⟨entries, entries', he, he', hmem⟩
          · rw [he, he']
            rfl
          · rw [he, he']
            simp only [goOn, List.mem_flatMap, List.mem_filter, hmem, ih]
      | literal spelled =>
          rw [select, select]
          cases spelled.text? with
          | none => rfl
          | some name =>
              dsimp only
              rw [h.alike.mayEnter]
              cases mayEnter tree' (here.child name) rest with
              | error e => rfl
              | ok enters =>
                  cases enters with
                  | false => rfl
                  | true => exact ih

theorem Leads.relisted (h : tree.Relisted tree') (hleads : Leads tree here segments p) :
    Leads tree' here segments p :=
  mem_select_iff.mp ((mem_select_relisted h).mp (mem_select_iff.mpr hleads))

/-! ### Globs as they are spelled -/

/-- The spelling is a glob, and no error ends it from the root on. -/
def Accepted (tree : Tree) (root : Place) (glob : Spelling) : Prop :=
  ∃ segments, parse glob = .ok segments ∧
    ∀ yielded ∈ select tree root segments, ∃ p, yielded = .ok p

/-- A glob leads from the root to a place. -/
def Finds (tree : Tree) (root : Place) (glob : Spelling) (p : Place) : Prop :=
  ∃ segments, parse glob = .ok segments ∧ Leads tree root segments p

/-- A glob yields some places from the root on, one after the other, and comes to no error. -/
def Yields (tree : Tree) (root : Place) (glob : Spelling) (places : List Place) : Prop :=
  ∃ segments, parse glob = .ok segments ∧ select tree root segments = places.map .ok

theorem Yields.accepted {root : Place} {glob : Spelling} {places : List Place}
    (h : Yields tree root glob places) : Accepted tree root glob := by
  obtain ⟨segments, hparse, hselect⟩ := h
  refine ⟨segments, hparse, fun yielded hyielded => ?_⟩
  rw [hselect] at hyielded
  obtain ⟨p, -, rfl⟩ := List.mem_map.mp hyielded
  exact ⟨p, rfl⟩

theorem Accepted.relisted {root : Place} {glob : Spelling} (h : tree.Relisted tree')
    (hglob : Accepted tree root glob) : Accepted tree' root glob := by
  obtain ⟨segments, hparse, hselect⟩ := hglob
  exact ⟨segments, hparse, fun yielded hyielded =>
    hselect yielded ((mem_select_relisted h).mpr hyielded)⟩

theorem Finds.relisted {root : Place} {glob : Spelling} (h : tree.Relisted tree')
    (hglob : Finds tree root glob p) : Finds tree' root glob p := by
  obtain ⟨segments, hparse, hleads⟩ := hglob
  exact ⟨segments, hparse, hleads.relisted h⟩

end Glob

end SwatchIndex
