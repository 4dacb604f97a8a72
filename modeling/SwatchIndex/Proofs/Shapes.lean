/-
Discovery does not look into files.

Whoever walks through a tree or looks something up in it asks what is where: a directory, with what
it refuses, or a file.  Trees that are alike give the same answers to that, so walks and probes come
out the same in them (`Alike.locate`, `Alike.lookUp_cases`), whatever is in the files and however
the trees are listed.

The shape of a tree says what is where in the order in which it is listed.  Trees of one shape are
alike, and their directories are listed alike as well (`SameShape.entries`, `SameShape.below`).  So
all that is made of walks, probes and listings is the same: where globs lead, which files are
candidates and which of them a bound leaves.

A file that is emptied keeps its place, so a tree with some files emptied has the shape that it had
(`sameShape_emptied`).  Only who reads such a file sees the difference (`read_emptied`).
-/
import SwatchIndex.Files.Discovery
import SwatchIndex.Proofs.Outcomes
import SwatchIndex.Proofs.Tables

namespace SwatchIndex

/-- The node as an empty file that can be read, if it is a file. -/
def Node.emptied : Node → Node
  | .directory access => .directory access
  | .file _ stamp _ => .file [] stamp

namespace Tree

/-! ### Trees that are alike -/

/-- What kind of node is at a place, if there is one: a directory, with what it refuses, or a
file. -/
def kind? (tree : Tree) (p : Place) : Option (Option Access) := (tree.node? p).map Node.access?

/-- Two trees with the same directories and the same places of files. -/
def Alike (tree tree' : Tree) : Prop := ∀ p, tree.kind? p = tree'.kind? p

/-- Who follows a part asks only what kind of node is where. -/
theorem enter_eq (tree : Tree) (here : Place) (part : Text) :
    tree.enter here part =
      match tree.kind? here with
      | none => .error .notFound
      | some none => .error .notDirectory
      | some (some access) =>
        FileProblem.stop access.search >>= fun _ =>
          if part = upward then .ok here.up
          else if isLongName part then .error .nameTooLong
          else if (tree.kind? (here.child part)).isNone then .error .notFound
          else .ok (here.child part) := by
  rw [enter, kind?, kind?, Option.isNone_map]
  cases tree.node? here with
  | none => rfl
  | some node => cases node <;> rfl

namespace Alike

variable {tree tree' : Tree} (h : tree.Alike tree')

include h

theorem walk (parts : List Text) (here : Place) : tree.walk here parts = tree'.walk here parts := by
  have henter : tree.enter = tree'.enter := by
    funext here part
    rw [enter_eq, enter_eq, h, h]
  rw [Tree.walk, Tree.walk, henter]

theorem locate (p : Place) : tree.locate p = tree'.locate p := h.walk p.parts _

/-- Who looks up a place has the same problem in both trees, or finds two nodes of one kind. -/
theorem lookUp_cases (p : Place) :
    (∃ problem, tree.lookUp p = .error problem ∧ tree'.lookUp p = .error problem) ∨
      ∃ real node node', tree.lookUp p = .ok (real, node) ∧ tree'.lookUp p = .ok (real, node') ∧
        node.access? = node'.access? := by
  unfold Tree.lookUp
  rw [h.locate]
  split
  · exact .inl ⟨_, rfl, rfl⟩
  · split
    · exact .inl ⟨_, rfl, rfl⟩
    · cases tree'.locate p with
      | error problem => exact .inl ⟨problem, rfl, rfl⟩
      | ok real =>
          have hkind := h real
          unfold kind? at hkind
          simp only [bind, Except.bind]
          cases hnode : tree.node? real with
          | none =>
              rw [hnode, Option.map_none, eq_comm, Option.map_eq_none_iff] at hkind
              rw [hkind]
              exact .inl ⟨_, rfl, rfl⟩
          | some node =>
              rw [hnode, Option.map_some, eq_comm, Option.map_eq_some_iff] at hkind
              obtain ⟨node', hnode', hsame⟩ := hkind
              rw [hnode']
              exact .inr ⟨real, node, node', rfl, rfl, hsame.symm⟩

/-- Two nodes of one kind pass the same tests, and so does what a place leads to. -/
theorem any_find? {test : Node → Bool}
    (htest : ∀ node node' : Node, node.access? = node'.access? → test node = test node')
    (p : Place) : (tree.find? p).any test = (tree'.find? p).any test := by
  unfold Tree.find?
  rcases h.lookUp_cases p with ⟨problem, hl, hr⟩ | ⟨real, node, node', hl, hr, hkind⟩
  · rw [hl, hr]
  · rw [hl, hr]
    exact htest node node' hkind

theorem isFile (p : Place) : tree.isFile p = tree'.isFile p :=
  h.any_find? (fun node node' hkind => by rw [Node.isFile, Node.isFile, hkind]) p

theorem isDirectory (p : Place) : tree.isDirectory p = tree'.isDirectory p :=
  h.any_find? (fun node node' hkind => by rw [Node.isDirectory, Node.isDirectory, hkind]) p

/-- A question about the kind of what is at a place has the same answer. -/
theorem map_probe {α : Type} {ask : Option Node → α}
    (hask : ∀ node node' : Node, node.access? = node'.access? →
      ask (some node) = ask (some node')) (p : Place) :
    (tree.probe p).map ask = (tree'.probe p).map ask := by
  unfold Tree.probe
  rcases h.lookUp_cases p with ⟨problem, hl, hr⟩ | ⟨real, node, node', hl, hr, hkind⟩
  · rw [hl, hr]
  · rw [hl, hr]
    exact congrArg Except.ok (hask node node' hkind)

theorem probeDirectory (p : Place) : tree.probeDirectory p = tree'.probeDirectory p :=
  h.map_probe (fun node node' hkind => by simp [Node.isDirectory, hkind]) p

theorem openDirectory (p : Place) : tree.openDirectory p = tree'.openDirectory p := by
  unfold Tree.openDirectory
  rcases h.lookUp_cases p with ⟨problem, hl, hr⟩ | ⟨real, node, node', hl, hr, hkind⟩
  · rw [hl, hr]
  · rw [hl, hr]
    cases node <;> cases node' <;> cases hkind <;> rfl

theorem mayEnter (p : Place) (rest : List Segment) :
    Glob.mayEnter tree p rest = Glob.mayEnter tree' p rest := by
  rw [Glob.mayEnter, Glob.mayEnter, h.probeDirectory, h.map_probe fun _ _ _ => rfl]

theorem isOpen (here : Place) (parts : List Text) :
    Glob.isOpen tree here parts = Glob.isOpen tree' here parts := by
  simp only [Glob.isOpen, h.openDirectory]

end Alike

/-! ### Shapes -/

/-- What is where in a tree, in the order in which it is listed. -/
def shape (tree : Tree) : List (Place × Option Access) :=
  tree.nodes.map fun entry => (entry.1, entry.2.access?)

/-- Two trees that are listed with the same directories and the same places of files. -/
def SameShape (tree tree' : Tree) : Prop := tree.shape = tree'.shape

theorem kind?_eq (tree : Tree) (p : Place) :
    tree.kind? p = if p.isAbove then some (some {}) else tree.shape.lookup p := by
  rw [kind?, node?, shape, Table.lookup_map_snd (fun _ => Node.access?)]
  split <;> rfl

namespace SameShape

variable {tree tree' : Tree} (h : tree.SameShape tree')

include h

theorem alike : tree.Alike tree' := by
  intro p
  rw [kind?_eq, kind?_eq, h]

/-- Entries are picked in the same way, if not for what is in files. -/
theorem filterMap {α : Type} {pick : Place × Node → Option α}
    (hpick : ∀ p node node', node.access? = node'.access? → pick (p, node) = pick (p, node')) :
    tree.nodes.filterMap pick = tree'.nodes.filterMap pick := by
  obtain ⟨nodes⟩ := tree
  obtain ⟨nodes'⟩ := tree'
  have hshape : nodes.map (fun e => (e.1, e.2.access?)) =
      nodes'.map fun e => (e.1, e.2.access?) := h
  clear h
  show nodes.filterMap pick = nodes'.filterMap pick
  -- Both lists are taken apart together: their shapes say that they have the same length.
  induction nodes generalizing nodes' with
  | nil => rw [List.map_eq_nil_iff.mp hshape.symm]
  | cons entry rest ih =>
      cases nodes' with
      | nil => cases hshape
      | cons entry' rest' =>
          obtain ⟨p, node⟩ := entry
          obtain ⟨p', node'⟩ := entry'
          obtain ⟨hentry, hrest⟩ := List.cons.inj hshape
          obtain ⟨rfl, hkind⟩ := Prod.mk.inj hentry
          rw [List.filterMap_cons, List.filterMap_cons, hpick p node node' hkind, ih rest' hrest]

theorem entries (p : Place) : tree.entries p = tree'.entries p := by
  unfold Tree.entries
  rw [h.alike.openDirectory]
  cases tree'.openDirectory p with
  | error e => rfl
  | ok real =>
      refine congrArg Except.ok (h.filterMap fun q node node' hkind => ?_)
      simp only [Node.isDirectory, hkind]

theorem below (p : Place) : tree.below p = tree'.below p := by
  unfold Tree.below
  rw [h.alike.locate]
  split
  · rfl
  · exact h.filterMap fun q node node' hkind => by simp [Node.isDirectory, hkind]

/-! ### Globs and candidates -/

theorem descents (here : Place) : Glob.descents tree here = Glob.descents tree' here := by
  have hopen : Glob.isOpen tree here = Glob.isOpen tree' here := funext (h.alike.isOpen here)
  simp only [Glob.descents, hopen, h.below, h.alike.openDirectory]

/-- A glob yields the same, in the same order. -/
theorem select (segments : List Segment) (here : Place) :
    Glob.select tree here segments = Glob.select tree' here segments := by
  induction segments generalizing here with
  | nil => rfl
  | cons segment rest ih =>
      cases segment with
      | finalSlash => exact ih here
      | anyDepth => simp only [Glob.select, h.descents, ih]
      | wild pattern => simp only [Glob.select, h.entries, ih]
      | literal spelled => simp only [Glob.select, h.alike.mayEnter, ih]

/-- **The same files are candidates**, and they are listed in the same order. -/
theorem candidates (root : Place) (included excluded : List Spelling) :
    Discovery.candidates tree root included excluded =
      Discovery.candidates tree' root included excluded := by
  have hexamined : Discovery.examined tree root excluded =
      Discovery.examined tree' root excluded := by
    funext yielded
    cases yielded with
    | error e => rfl
    | ok p =>
        exact h.alike.map_probe (fun node node' hkind => by simp [Node.isFile, hkind]) p
  have hmatching : Discovery.matching tree root excluded =
      Discovery.matching tree' root excluded := by
    funext glob
    simp only [Discovery.matching, h.select, hexamined]
  rw [Discovery.candidates, Discovery.candidates, hmatching]

theorem discover (root : Place) (included excluded : List Spelling) (bound : Int) :
    SwatchIndex.discover tree root included excluded bound =
      SwatchIndex.discover tree' root included excluded bound := by
  rw [SwatchIndex.discover, SwatchIndex.discover, h.alike.probeDirectory, h.candidates]

end SameShape

/-! ### Emptied files -/

/-- The tree in which the files at some places are empty. -/
def emptied (tree : Tree) (places : List Place) : Tree :=
  ⟨tree.nodes.map fun entry => (entry.1, if entry.1 ∈ places then entry.2.emptied else entry.2)⟩

/-- Whether a place leads to one of some places. -/
def leadsInto (tree : Tree) (places : List Place) (p : Place) : Bool :=
  match tree.locate p with
  | .ok real => decide (real ∈ places)
  | .error _ => false

/-- **A file that is emptied keeps its place.** -/
theorem sameShape_emptied (tree : Tree) (places : List Place) :
    tree.SameShape (tree.emptied places) := by
  have hkind (node : Node) : node.emptied.access? = node.access? := by
    cases node <;> rfl
  unfold SameShape shape emptied
  rw [List.map_map]
  refine List.map_congr_left fun entry _ => ?_
  simp only [Function.comp_apply]
  split
  · rw [hkind]
  · rfl

theorem node?_emptied (tree : Tree) (places : List Place) (p : Place) :
    (tree.emptied places).node? p =
      (tree.node? p).map fun node => if p ∈ places then node.emptied else node := by
  have hlookup : (tree.emptied places).nodes.lookup p =
      (tree.nodes.lookup p).map fun node => if p ∈ places then node.emptied else node :=
    Table.lookup_map_snd (fun p (node : Node) => if p ∈ places then node.emptied else node) p _
  rw [node?, node?, hlookup]
  split
  · simp [Node.emptied]
  · rfl

/-- Who reads a file that is emptied finds nothing in it, or has a problem on the way to it. -/
theorem read_emptied_of_leadsInto {tree : Tree} {places : List Place} {p : Place}
    (h : tree.leadsInto places p = true) :
    (tree.emptied places).read p = .ok [] ∨
      ∃ problem, (tree.emptied places).read p = .error problem := by
  unfold leadsInto at h
  unfold read
  rw [← (sameShape_emptied tree places).alike.locate]
  cases hreal : tree.locate p with
  | error problem => exact .inr ⟨problem, rfl⟩
  | ok real =>
      simp only [hreal, decide_eq_true_eq] at h
      simp only [bind, Except.bind, node?_emptied, h, if_true]
      cases tree.node? real with
      | none => exact .inr ⟨_, rfl⟩
      | some node =>
          cases node with
          | directory access => exact .inr ⟨_, rfl⟩
          | file bytes stamp refusal => exact .inl rfl

/-- The other files are read as before. -/
theorem read_emptied_of_not_leadsInto {tree : Tree} {places : List Place} {p : Place}
    (h : tree.leadsInto places p = false) : (tree.emptied places).read p = tree.read p := by
  unfold leadsInto at h
  rw [read, read, ← (sameShape_emptied tree places).alike.locate]
  cases hreal : tree.locate p with
  | error problem => rfl
  | ok real =>
      simp only [hreal, decide_eq_false_iff_not] at h
      simp only [bind, Except.bind, node?_emptied, h, if_false, Option.map_id']

end Tree

end SwatchIndex
