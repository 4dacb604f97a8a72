/-
Where a name is typed, and what becomes of it.

A text in front of a cursor ends with a name being typed in at most one way: `Typing` says how, and
`Typing.unique` that the name and what leads up to it are clear from the text.  A context is found
exactly there, and whether it is a reference depends only on what leads up to the name
(`classify_eq_some_iff`).  So putting another name in the place of the typed one leaves the context
as it is.  Behind `var(` the name and a closing parenthesis are an occurrence, and the scan for
occurrences finds it whatever surrounds it.
-/
import SwatchIndex.Completion
import SwatchIndex.Proofs.Aliases
import SwatchIndex.Proofs.Occurrences

namespace SwatchIndex

/-! ### Leftmost search

A search fails exactly if no place of the text is accepted.
-/

/-- Whether a name character precedes what follows `u`. -/
def precedes (before : Bool) (u : Text) : Bool := (u.getLast?.map isNameChar).getD before

theorem precedes_cons (before : Bool) (c : Char) (u : Text) :
    precedes before (c :: u) = precedes (isNameChar c) u := by
  unfold precedes
  rw [List.getLast?_cons]
  cases u.getLast? <;> rfl

/-- Only the last character counts. -/
theorem precedes_append {before : Bool} {u w : Text} (hne : w ≠ []) :
    precedes before (u ++ w) = isNameChar (w.getLast hne) := by
  simp [precedes, List.getLast?_append, List.getLast?_eq_some_getLast hne]

theorem search_eq_none_iff {α : Type} {accept : Bool → Text → Option α} {t : Text} :
    ∀ {before : Bool} {pos : Nat}, search accept before pos t = none ↔
      ∀ u v, t = u ++ v → accept (precedes before u) v = none := by
  induction t with
  | nil =>
      intro before pos
      simp only [search, Option.map_eq_none_iff]
      constructor
      · intro h u v huv
        obtain ⟨rfl, rfl⟩ := List.append_eq_nil_iff.mp huv.symm
        exact h
      · intro h
        exact h [] [] rfl
  | cons c rest ih =>
      intro before pos
      simp only [search]
      constructor
      · intro h u v huv
        split at h
        · simp at h
        · rename_i hnone
          cases u with
          | nil => exact (show v = c :: rest from huv.symm) ▸ hnone
          | cons d u =>
              obtain ⟨rfl, hrest⟩ := List.cons.inj huv
              rw [precedes_cons]
              exact ih.mp h u v hrest
      · intro h
        have hhere : accept before (c :: rest) = none := h [] (c :: rest) rfl
        rw [hhere]
        refine ih.mpr fun u v huv => ?_
        have hthere := h (c :: u) v (by rw [huv, List.cons_append])
        rwa [precedes_cons] at hthere

theorem exists_of_search_eq_some {α : Type} {accept : Bool → Text → Option α} {t : Text} :
    ∀ {before : Bool} {pos i : Nat} {a : α}, search accept before pos t = some (i, a) →
      ∃ u v, t = u ++ v ∧ i = pos + u.length ∧ accept (precedes before u) v = some a := by
  induction t with
  | nil =>
      intro before pos i a h
      simp only [search, Option.map_eq_some_iff, Prod.mk.injEq] at h
      obtain ⟨_, ha, rfl, rfl⟩ := h
      exact ⟨[], [], rfl, rfl, ha⟩
  | cons c rest ih =>
      intro before pos i a h
      simp only [search] at h
      split at h
      · rename_i ha
        simp only [Option.some.injEq, Prod.mk.injEq] at h
        obtain ⟨rfl, rfl⟩ := h
        exact ⟨[], c :: rest, rfl, rfl, ha⟩
      · obtain ⟨u, v, rfl, rfl, ha⟩ := ih h
        refine ⟨c :: u, v, rfl, ?_, ?_⟩
        · rw [List.length_cons]
          omega
        · rwa [precedes_cons]

namespace Completion

/-! ### Names at the end of a text -/

/-- What can be typed as a name: two hyphens and any name characters. -/
def IsTypedName (name : Text) : Prop :=
  ∃ rest, name = '-' :: '-' :: rest ∧ ∀ c ∈ rest, isNameChar c = true

theorem IsTypedName.chars {name : Text} (h : IsTypedName name) :
    ∀ c ∈ name, isNameChar c = true := by
  obtain ⟨rest, rfl, hrest⟩ := h
  have hhyphen : isNameChar '-' = true := by decide
  simpa [hhyphen] using hrest

theorem IsTypedName.ne_nil {name : Text} (h : IsTypedName name) : name ≠ [] := by
  obtain ⟨rest, rfl, -⟩ := h
  exact List.cons_ne_nil _ _

/-- With something behind the hyphens, what is typed is the name of a custom property. -/
theorem IsTypedName.isPropertyName {name : Text} (h : IsTypedName name)
    (hne : name ≠ "--".toList) : IsPropertyName name := by
  obtain ⟨rest, rfl, hrest⟩ := h
  refine ⟨rest, rfl, ?_, hrest⟩
  rintro rfl
  exact hne rfl

theorem atEnd_iff {tail : Text} : atEnd tail = true ↔ tail = [] ∨ tail = ['\n'] := by
  simp [atEnd]

theorem stop_of_atEnd {tail : Text} (h : atEnd tail = true) :
    ∀ c ∈ tail.head?, isNameChar c = false := by
  rcases atEnd_iff.mp h with rfl | rfl
  · simp
  · exact stop_cons (by decide)

theorem typed?_eq_some_iff {t name : Text} :
    typed? t = some name ↔
      IsTypedName name ∧ ∃ tail, atEnd tail = true ∧ t = name ++ tail := by
  simp only [typed?, Option.ite_none_right_eq_some, Bool.and_eq_true, List.isPrefixOf_iff_prefix,
    Option.some.injEq]
  constructor
  · rintro ⟨⟨⟨rest, hrest⟩, hend⟩, rfl⟩
    refine ⟨⟨rest, hrest.symm, fun c hc => ?_⟩, _, hend, List.takeWhile_append_dropWhile.symm⟩
    exact List.mem_takeWhile_imp (hrest ▸ List.mem_append_right _ hc)
  · rintro ⟨hname, tail, hend, rfl⟩
    rw [takeWhile_run hname.chars (stop_of_atEnd hend),
      dropWhile_run hname.chars (stop_of_atEnd hend)]
    obtain ⟨rest, rfl, -⟩ := hname
    exact ⟨⟨⟨rest, rfl⟩, hend⟩, rfl⟩

/-- The name `name` is being typed at the end of `t`, behind `lead`.  It does not stand inside
another identifier, and a final newline does not count. -/
structure Typing (t lead name : Text) : Prop where
  split : ∃ tail, atEnd tail = true ∧ t = lead ++ (name ++ tail)
  name : IsTypedName name
  fresh : precedes false lead = false

/-- A run of name characters at the end of a text is clear from the text, if it is maximal. -/
theorem append_run_inj {x x' w w' : Text} (h : x ++ w = x' ++ w')
    (hw : ∀ c ∈ w, isNameChar c = true) (hw' : ∀ c ∈ w', isNameChar c = true)
    (hx : precedes false x = false) (hx' : precedes false x' = false) : x = x' ∧ w = w' := by
  have hnil : ∀ {x z : Text}, (∀ c ∈ z, isNameChar c = true) → precedes false (x ++ z) = false →
      z = [] := by
    intro x z hz hfresh
    by_contra hne
    rw [precedes_append hne, hz _ (List.getLast_mem hne)] at hfresh
    exact Bool.noConfusion hfresh
  rcases List.append_eq_append_iff.mp h with ⟨z, rfl, rfl⟩ | ⟨z, rfl, rfl⟩
  · obtain rfl := hnil (fun c hc => hw c (List.mem_append_left w' hc)) hx'
    simp
  · obtain rfl := hnil (fun c hc => hw' c (List.mem_append_left w hc)) hx
    simp

/-- A name ends with a name character, so the text itself shows whether a newline follows. -/
theorem tail_eq {x name tail : Text} (hname : IsTypedName name) (htail : atEnd tail = true) :
    tail = if (x ++ (name ++ tail)).getLast? = some '\n' then ['\n'] else [] := by
  rcases atEnd_iff.mp htail with rfl | rfl
  · have hlast : isNameChar (name.getLast hname.ne_nil) = true :=
      hname.chars _ (List.getLast_mem hname.ne_nil)
    rw [if_neg]
    rw [List.append_nil, List.getLast?_append_of_ne_nil _ hname.ne_nil,
      List.getLast?_eq_some_getLast hname.ne_nil, Option.some.injEq]
    intro hnewline
    rw [hnewline] at hlast
    exact absurd hlast (by decide)
  · rw [← List.append_assoc, List.getLast?_concat, if_pos rfl]

/-- **A name is typed at the end of a text in one way at most.** -/
theorem Typing.unique {t lead lead' name name' : Text} (h : Typing t lead name)
    (h' : Typing t lead' name') : lead = lead' ∧ name = name' := by
  obtain ⟨tail, htail, hsplit⟩ := h.split
  obtain ⟨tail', htail', hsplit'⟩ := h'.split
  have hsame : tail = tail' := by
    rw [tail_eq (x := lead) h.name htail, tail_eq (x := lead') h'.name htail', ← hsplit, ← hsplit']
  have happend : lead ++ name = lead' ++ name' := by
    rw [hsplit, hsame, ← List.append_assoc, ← List.append_assoc] at hsplit'
    exact List.append_cancel_right hsplit'
  exact append_run_inj happend h.name.chars h'.name.chars h.fresh h'.fresh

/-! ### Contexts -/

/-- The kind of place behind `lead`: a reference if `lead` ends with an opened one and white
space. -/
def kindBehind (lead : Text) : ContextKind :=
  if "var(".toList <:+ Text.dropEndWhile isSpace lead then .valueReference else .bareName

theorem dropEndWhile_append {p : Char → Bool} {x gap : Text} (hgap : ∀ c ∈ gap, p c = true)
    (hx : ∀ c ∈ x.getLast?, p c = false) : Text.dropEndWhile p (x ++ gap) = x := by
  rw [Text.dropEndWhile, List.reverse_append, dropWhile_run (by simpa using hgap)
    (by simpa using hx), List.reverse_reverse]

theorem kindBehind_eq_valueReference_iff {lead : Text} :
    kindBehind lead = .valueReference ↔
      ∃ u gap, lead = u ++ ("var(".toList ++ gap) ∧ ∀ c ∈ gap, isSpace c = true := by
  unfold kindBehind
  constructor
  · intro h
    split at h
    · rename_i hsuffix
      obtain ⟨u, hu⟩ := hsuffix
      obtain ⟨gap, hlead, hgap⟩ := exists_run (rfl : lead.reverse.dropWhile isSpace = _)
      refine ⟨u, gap.reverse, ?_, by simpa using hgap⟩
      rw [← List.append_assoc, hu, Text.dropEndWhile, ← List.reverse_append, ← hlead,
        List.reverse_reverse]
    · cases h
  · rintro ⟨u, gap, rfl, hgap⟩
    have hlast : ∀ c ∈ (u ++ "var(".toList).getLast?, isSpace c = false := by
      intro c hc
      obtain rfl : '(' = c := by simpa using hc
      decide
    rw [← List.append_assoc, dropEndWhile_append hgap hlast, if_pos ⟨u, rfl⟩]

theorem reference?_eq_some_iff {before : Bool} {v name : Text} {distance : Nat} :
    reference? before v = some (distance, name) ↔
      IsTypedName name ∧ ∃ gap tail, (∀ c ∈ gap, isSpace c = true) ∧ atEnd tail = true ∧
        distance = 4 + gap.length ∧ v = "var(".toList ++ (gap ++ (name ++ tail)) := by
  constructor
  · intro h
    obtain ⟨inner, hinner, h⟩ := Option.bind_eq_some_iff.mp h
    obtain ⟨typed, htyped, h⟩ := Option.bind_eq_some_iff.mp h
    obtain ⟨rfl, rfl⟩ := Prod.mk.inj (Option.some.inj h)
    obtain ⟨hname, tail, htail, hrest⟩ := typed?_eq_some_iff.mp htyped
    refine ⟨hname, inner.takeWhile isSpace, tail, fun c => List.mem_takeWhile_imp, htail, rfl, ?_⟩
    rw [← hrest, List.takeWhile_append_dropWhile]
    exact (List.isPrefixOf?_eq_some_iff_append_eq.mp hinner).symm
  · rintro ⟨hname, gap, tail, hgap, htail, rfl, rfl⟩
    have hinner : "var(".toList.isPrefixOf? ("var(".toList ++ (gap ++ (name ++ tail))) =
        some (gap ++ (name ++ tail)) := List.isPrefixOf?_eq_some_iff_append_eq.mpr rfl
    have hstop : ∀ c ∈ (name ++ tail).head?, isSpace c = false := by
      obtain ⟨rest, rfl, -⟩ := hname
      exact stop_cons (by decide)
    have htyped : typed? (name ++ tail) = some name :=
      typed?_eq_some_iff.mpr ⟨hname, tail, htail, rfl⟩
    simp only [reference?, hinner, Option.bind_eq_bind, Option.bind_some, takeWhile_run hgap hstop,
      dropWhile_run hgap hstop, htyped]
    rfl

theorem bare?_eq_some_iff {before : Bool} {v name : Text} :
    bare? before v = some name ↔ before = false ∧ typed? v = some name := by
  cases before <;> simp [bare?]

/-- A reference that is opened in a text has its name typed behind it. -/
theorem typing_of_reference? {before : Bool} {u v name : Text} {distance : Nat}
    (h : reference? before v = some (distance, name)) :
    ∃ lead, Typing (u ++ v) lead name ∧ kindBehind lead = .valueReference ∧
      lead.length = u.length + distance := by
  obtain ⟨hname, gap, tail, hgap, htail, rfl, rfl⟩ := reference?_eq_some_iff.mp h
  have hfresh : precedes false (u ++ ("var(".toList ++ gap)) = false := by
    have hshape : u ++ ("var(".toList ++ gap) = (u ++ "var".toList) ++ '(' :: gap := by simp
    rw [hshape, precedes_append (List.cons_ne_nil _ _)]
    rcases List.mem_cons.mp (List.getLast_mem (List.cons_ne_nil '(' gap)) with hlast | hlast
    · rw [hlast]
      decide
    · exact not_isNameChar_of_isSpace (hgap _ hlast)
  refine ⟨u ++ ("var(".toList ++ gap), ⟨⟨tail, htail, by simp⟩, hname, hfresh⟩,
    kindBehind_eq_valueReference_iff.mpr ⟨u, gap, rfl, hgap⟩, ?_⟩
  rw [List.length_append, List.length_append]
  rfl

/-- And the other way round: a name behind an opened reference is one that a reference accepts. -/
theorem exists_reference?_of_typing {t lead name : Text} (h : Typing t lead name)
    (hkind : kindBehind lead = .valueReference) :
    ∃ u v distance, t = u ++ v ∧ ∀ before, reference? before v = some (distance, name) := by
  obtain ⟨u, gap, rfl, hgap⟩ := kindBehind_eq_valueReference_iff.mp hkind
  obtain ⟨tail, htail, rfl⟩ := h.split
  refine ⟨u, "var(".toList ++ (gap ++ (name ++ tail)), 4 + gap.length, by simp, fun before => ?_⟩
  exact reference?_eq_some_iff.mpr ⟨h.name, gap, tail, hgap, htail, rfl, rfl⟩

theorem bare?_of_typing {t lead name : Text} (h : Typing t lead name) :
    ∃ v, t = lead ++ v ∧ bare? (precedes false lead) v = some name := by
  obtain ⟨tail, htail, rfl⟩ := h.split
  exact ⟨name ++ tail, rfl,
    bare?_eq_some_iff.mpr ⟨h.fresh, typed?_eq_some_iff.mpr ⟨h.name, tail, htail, rfl⟩⟩⟩

theorem typing_of_bare? {u v name : Text} (h : bare? (precedes false u) v = some name) :
    Typing (u ++ v) u name := by
  obtain ⟨hfresh, htyped⟩ := bare?_eq_some_iff.mp h
  obtain ⟨hname, tail, htail, rfl⟩ := typed?_eq_some_iff.mp htyped
  exact ⟨⟨tail, htail, rfl⟩, hname, hfresh⟩

/-- The context of a name that is typed behind `lead`. -/
def contextBehind (lead name : Text) : Context :=
  ⟨kindBehind lead, name, lead.length, lead.length + name.length⟩

/-- A context is found only where a name is typed. -/
theorem typing_of_classify {t : Text} {ctx : Context} (h : classify t = some ctx) :
    ∃ lead name, Typing t lead name ∧ ctx = contextBehind lead name := by
  unfold classify at h
  split at h
  · rename_i i distance name hfound
    obtain ⟨u, v, rfl, hi, hreference⟩ := exists_of_search_eq_some hfound
    obtain ⟨lead, htyping, hkind, hlength⟩ := typing_of_reference? hreference
    refine ⟨lead, name, htyping, ?_⟩
    rw [← Option.some.inj h, contextBehind, hkind, hlength, hi, Nat.zero_add]
  · rename_i hnone
    obtain ⟨⟨i, name⟩, hfound, rfl⟩ := Option.map_eq_some_iff.mp h
    obtain ⟨u, v, rfl, hi, hbare⟩ := exists_of_search_eq_some hfound
    have htyping : Typing (u ++ v) u name := typing_of_bare? hbare
    have hkind : kindBehind u = .bareName := by
      cases hk : kindBehind u with
      | bareName => rfl
      | valueReference =>
          -- Behind an opened reference, the search for references would have found the name.
          obtain ⟨u', v', distance, hsplit, hreference⟩ := exists_reference?_of_typing htyping hk
          have hmissed := search_eq_none_iff.mp hnone u' v' hsplit
          rw [hreference] at hmissed
          cases hmissed
    refine ⟨u, name, htyping, ?_⟩
    rw [contextBehind, hkind, hi, Nat.zero_add]

/-- **A context is found exactly where a name is typed**, and what leads up to the name decides its
kind. -/
theorem classify_eq_some_iff {t : Text} {ctx : Context} :
    classify t = some ctx ↔ ∃ lead name, Typing t lead name ∧ ctx = contextBehind lead name := by
  refine ⟨typing_of_classify, ?_⟩
  rintro ⟨lead, name, htyping, rfl⟩
  cases hclassify : classify t with
  | none =>
      obtain ⟨v, hsplit, hbare⟩ := bare?_of_typing htyping
      unfold classify at hclassify
      split at hclassify
      · cases hclassify
      · have hmissed := search_eq_none_iff.mp (Option.map_eq_none_iff.mp hclassify) lead v hsplit
        rw [hbare] at hmissed
        cases hmissed
  | some ctx =>
      obtain ⟨lead', name', htyping', rfl⟩ := typing_of_classify hclassify
      obtain ⟨rfl, rfl⟩ := htyping.unique htyping'
      rfl

/-- Another name may take the place of the typed one. -/
theorem Typing.replace {t lead name : Text} (h : Typing t lead name) {other : Text}
    (hother : IsTypedName other) : Typing (lead ++ other) lead other :=
  ⟨⟨[], rfl, by rw [List.append_nil]⟩, hother, h.fresh⟩

end Completion

/-! ### Accepting a completion -/

/-- An occurrence of a name whose definition has a swatch is a usage. -/
theorem mem_findUsages {u name rest color : Text} {d : Definition} {units : List (List Definition)}
    {version : Nat} (hname : IsPropertyName name)
    (hget : (Registry.build units version).get? name = some d) (hswatch : d.swatch = some color) :
    ∃ usages, findUsages (u ++ (Occurrence.written name ++ rest))
        (Registry.build units version) none = .ok usages ∧
      ⟨u.length, u.length + name.length + 5, name, color⟩ ∈ usages := by
  have hkey : d.name = name :=
    (Registry.keyed_build units version _ (Table.get?_eq_some_iff.mp hget)).symm
  refine ⟨_, rfl, List.mem_filterMap.mpr ⟨_, Occurrence.mem_all hname rest, ?_⟩⟩
  simp only [Occurrence.usage?, hget, Option.bind_eq_bind, Option.bind_some, hswatch, hkey]
  rfl

/--
**Accepting a completion is coherent.**  With another name in the place of the typed one, the
context has the same kind and the same start and ends with the name.  If `var(` stands right before
the name, and the name has a swatch in a registry that was built, then a closing parenthesis makes a
usage with that swatch, whatever follows.  The two hyphens alone are no name in this respect.
-/
theorem classify_accepted {t n : Text} {ctx : Context} (h : classify t = some ctx)
    (hn : Completion.IsTypedName n) :
    classify (t.take ctx.start ++ n) =
        some { ctx with typed := n, stop := ctx.start + n.length } ∧
      ∀ (units : List (List Definition)) (version : Nat) (d : Definition) (color rest : Text),
        n ≠ "--".toList → "var(".toList <:+ t.take ctx.start →
        (Registry.build units version).get? n = some d → d.swatch = some color →
        ∃ usages,
          findUsages (t.take ctx.start ++ n ++ ')' :: rest) (Registry.build units version) none =
            .ok usages ∧
          ⟨ctx.start - 4, ctx.start + n.length + 1, n, color⟩ ∈ usages := by
  obtain ⟨lead, name, htyping, rfl⟩ := Completion.classify_eq_some_iff.mp h
  have hlead : t.take (Completion.contextBehind lead name).start = lead := by
    obtain ⟨tail, -, rfl⟩ := htyping.split
    exact List.take_left
  rw [hlead]
  refine ⟨Completion.classify_eq_some_iff.mpr ⟨lead, n, htyping.replace hn, rfl⟩, ?_⟩
  rintro units version d color rest hne ⟨u, rfl⟩ hget hswatch
  have hlength : (u ++ "var(".toList).length = u.length + 4 := List.length_append
  have htext : u ++ "var(".toList ++ n ++ ')' :: rest =
      u ++ (Occurrence.written n ++ rest) := by
    rw [Occurrence.written_append]
    simp
  have hstart : (Completion.contextBehind (u ++ "var(".toList) name).start - 4 = u.length := by
    show (u ++ "var(".toList).length - 4 = u.length
    omega
  have hstop : (Completion.contextBehind (u ++ "var(".toList) name).start + n.length + 1 =
      u.length + n.length + 5 := by
    show (u ++ "var(".toList).length + n.length + 1 = _
    omega
  rw [htext, hstart, hstop]
  exact mem_findUsages (hn.isPropertyName hne) hget hswatch

/-- A coloured definition of a name. -/
def sampleDefinition (name : Text) : Definition := ⟨name, "x".toList, some "#abc".toList, none⟩

/-- The typed name gives way to a longer one, which then is a usage. -/
theorem classify_accepted_sample :
    classify "a var(--p\n".toList = some ⟨.valueReference, "--p".toList, 6, 9⟩ ∧
      Completion.IsTypedName "--pq".toList ∧
      classify ("a var(".toList ++ "--pq".toList) =
        some ⟨.valueReference, "--pq".toList, 6, 10⟩ ∧
      ∃ usages,
        findUsages ("a var(".toList ++ "--pq".toList ++ ')' :: ";".toList)
            (Registry.build [[sampleDefinition "--pq".toList]] 1) none = .ok usages ∧
          ⟨2, 11, "--pq".toList, "#AABBCC".toList⟩ ∈ usages := by
  have h : classify "a var(--p\n".toList = some ⟨.valueReference, "--p".toList, 6, 9⟩ := by decide
  have hn : Completion.IsTypedName "--pq".toList := ⟨_, rfl, List.all_eq_true.mp (by decide)⟩
  obtain ⟨hcontext, husages⟩ := classify_accepted h hn
  exact ⟨h, hn, hcontext, husages [[sampleDefinition "--pq".toList]] 1 _ _ ";".toList (by decide)
    (by decide) rfl (by decide)⟩

/-- Two hyphens can be completed, and a registry can have a coloured definition of that name, but
they make no usage. -/
theorem hyphens_not_used :
    classify "var(--".toList = some ⟨.valueReference, "--".toList, 4, 6⟩ ∧
      Completion.IsTypedName "--".toList ∧
      "var(".toList <:+ "var(--".toList.take 4 ∧
      (Registry.build [[sampleDefinition "--".toList]] 1).get? "--".toList =
        some (sampleDefinition "--".toList) ∧
      (sampleDefinition "--".toList).swatch = some "#AABBCC".toList ∧
      findUsages ("var(--".toList.take 4 ++ "--".toList ++ ')' :: [])
        (Registry.build [[sampleDefinition "--".toList]] 1) none = .ok [] :=
  ⟨by decide, ⟨[], rfl, by simp⟩, by decide, by decide, by decide, rfl⟩

end SwatchIndex
