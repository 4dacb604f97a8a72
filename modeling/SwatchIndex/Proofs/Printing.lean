/-
Declarations in print.

A clause is well formed if its name is that of a custom property, its value is trimmed and not empty
and has no terminator in it, and its code, if it has one, is the code of a colour.  These are
exactly the clauses that stylesheets have.  Every clause that is read is well formed
(`wellFormed_of_mem_clauses`).  And every list of well-formed clauses, printed one after the other,
is read back as it was (`clauses_printed`), whatever else the values look like: what a value says
about other names stays behind the first colon of its segment, and a comment is printed where it is
looked for.
-/
import SwatchIndex.Proofs.Scanning

namespace SwatchIndex

namespace Declaration

/-! ### Well-formed clauses -/

/-- A value as it is kept: something, without blanks around it and without a terminator in it. -/
structure IsValue (value : Text) : Prop where
  nonempty : value ≠ []
  trimmed : Text.strip value = value
  unbroken : Unbroken value

/-- What holds of every clause of a stylesheet. -/
structure Clause.WellFormed (k : Clause) : Prop where
  name : IsPropertyName k.name
  value : IsValue k.value
  code : ∀ code ∈ k.code, Color.IsCode code

instance (t : Text) : Decidable (Unbroken t) :=
  decidable_of_iff (t.all (fun c => !isTerminator c) = true) (by simp [Unbroken])

instance (value : Text) : Decidable (IsValue value) :=
  decidable_of_iff (value ≠ [] ∧ Text.strip value = value ∧ Unbroken value)
    ⟨fun ⟨h₁, h₂, h₃⟩ => ⟨h₁, h₂, h₃⟩, fun ⟨h₁, h₂, h₃⟩ => ⟨h₁, h₂, h₃⟩⟩

instance (k : Clause) : Decidable k.WellFormed :=
  decidable_of_iff
    (IsPropertyName k.name ∧ IsValue k.value ∧ ∀ code ∈ k.code, Color.IsCode code)
    ⟨fun ⟨h₁, h₂, h₃⟩ => ⟨h₁, h₂, h₃⟩, fun ⟨h₁, h₂, h₃⟩ => ⟨h₁, h₂, h₃⟩⟩

/-! ### What is read is well formed -/

theorem heading?_eq_some {run rest name value : Text}
    (h : heading? (run, rest) = some (name, value)) :
    name = run ∧ isName run = true ∧
      ∃ gap, rest = gap ++ ':' :: value ∧ ∀ c ∈ gap, isSpace c = true := by
  simp only [heading?] at h
  split at h
  · rename_i hname
    obtain ⟨v, hv, heq⟩ := Option.map_eq_some_iff.mp h
    obtain ⟨rfl, rfl⟩ := Prod.mk.inj heq
    exact ⟨rfl, hname, exists_run (behindColon?_eq_some hv)⟩
  · simp at h

/-- The heading of a segment names a custom property, and the value follows its colon. -/
theorem heading_of_runs {body name value : Text}
    (h : (runs body).findSome? heading? = some (name, value)) :
    IsPropertyName name ∧
      ∃ lead gap, body = lead ++ (name ++ (gap ++ ':' :: value)) ∧ ∀ c ∈ gap, isSpace c = true := by
  obtain ⟨⟨run, rest⟩, hmem, hheading⟩ := List.exists_of_findSome?_eq_some h
  obtain ⟨rfl, hname, gap, rfl, hgap⟩ := heading?_eq_some hheading
  obtain ⟨lead, hrun⟩ := mem_runsAfter.mp hmem
  exact ⟨isPropertyName_iff.mpr ⟨hname, hrun.inside⟩, lead, gap, hrun.split, hgap⟩

theorem Segment.close?_eq_some {s : Segment} {name value : Text} {k : Clause}
    (h : s.close? name value = some k) :
    k.name = name ∧ k.value = value ∧ value ≠ [] ∧ ∀ code ∈ k.code, Color.IsCode code := by
  unfold Segment.close? at h
  split at h
  · simp at h
  · rename_i hne
    split at h
    · obtain rfl := Option.some.inj h
      refine ⟨rfl, rfl, hne, fun code hcode => ?_⟩
      obtain ⟨comment, rest, -, hcomment⟩ := code_eq_some_iff.mp (Option.mem_def.mp hcode)
      exact hcomment.isCode
    · obtain rfl := Option.some.inj h
      exact ⟨rfl, rfl, hne, fun code hcode => by simp at hcode⟩
    · simp at h

/-- **Every clause that a text has is well formed.** -/
theorem wellFormed_of_mem_clauses {t : Text} {k : Clause} (h : k ∈ clauses t) : k.WellFormed := by
  obtain ⟨s, hs, hclause⟩ := List.mem_filterMap.mp h
  obtain ⟨⟨name, rest⟩, hheading, hclose⟩ := Option.bind_eq_some_iff.mp hclause
  obtain ⟨hname, lead, gap, hbody, -⟩ := heading_of_runs hheading
  obtain ⟨hkname, hkvalue, hne, hcode⟩ := Segment.close?_eq_some hclose
  have hrest : Unbroken rest := fun c hc =>
    unbroken_of_mem_segments s hs c (by rw [hbody]; simp [hc])
  refine ⟨hkname ▸ hname, ?_, hcode⟩
  rw [hkvalue]
  exact ⟨hne, Text.strip_strip rest, fun c hc => hrest c (Text.mem_of_mem_strip hc)⟩

/-! ### Printing -/

/-- A code as a comment behind a declaration. -/
def Clause.comment : Option Text → Text
  | none => []
  | some code => " /* ".toList ++ (code ++ " */".toList)

/-- A clause on a line of its own. -/
def Clause.print (k : Clause) : Text :=
  k.name ++ ':' :: (k.value ++ ';' :: (comment k.code ++ ['\n']))

/-- Clauses one after the other. -/
def printed (ks : List Clause) : Text := ks.flatMap Clause.print

theorem printed_cons (k : Clause) (rest : List Clause) :
    printed (k :: rest) = k.print ++ printed rest :=
  List.flatMap_cons

theorem colorComment_comment {code : Text} (h : Color.IsCode code) :
    ColorComment (Clause.comment (some code)) code := by
  have hgap : ∀ c ∈ [' '], isSpace c = true := List.all_eq_true.mp (by decide)
  exact .mk hgap hgap hgap h

theorem headingAt?_name {name : Text} (h : IsPropertyName name) (value : Text) :
    headingAt? false (name ++ ':' :: value) = some (name, value) := by
  obtain ⟨hname, hchars⟩ := isPropertyName_iff.mp h
  have hstop : ∀ c ∈ (':' :: value).head?, isNameChar c = false := stop_cons (by decide)
  have hcolon : (':' :: value).dropWhile isSpace = ':' :: value :=
    List.dropWhile_cons_of_neg (by decide)
  simp only [headingAt?, Bool.false_eq_true, if_false, heading?, takeWhile_run hchars hstop,
    dropWhile_run hchars hstop, hname, if_true, hcolon, behindColon?, Option.map_some]

/-- Behind a newline no comment is looked for if a name follows. -/
theorem colorComment?_newline {rest : Text} (h : ∀ c ∈ rest.head?, c = '-') :
    colorComment? ('\n' :: rest) = none := by
  have hdrop : (['\n'] ++ rest).dropWhile isSpace = rest := by
    refine dropWhile_run (List.all_eq_true.mp (by decide)) fun c hc => ?_
    rw [h c hc]
    decide
  rw [List.singleton_append] at hdrop
  rw [colorComment?, hdrop]
  cases rest with
  | nil => rfl
  | cons c more =>
      obtain rfl : c = '-' := h c rfl
      rfl

theorem code_comment_append {code : Option Text} {rest : Text}
    (hcode : ∀ c ∈ code, Color.IsCode c) (hrest : ∀ c ∈ rest.head?, c = '-') :
    (colorComment? (Clause.comment code ++ '\n' :: rest)).map Prod.fst = code := by
  cases code with
  | none => rw [Clause.comment, List.nil_append, colorComment?_newline hrest]; rfl
  | some c => rw [colorComment?_append (colorComment_comment (hcode c rfl))]; rfl

theorem clauses_comment_append {code : Option Text} (hcode : ∀ c ∈ code, Color.IsCode c)
    (rest : Text) : clauses (Clause.comment code ++ '\n' :: rest) = clauses rest := by
  have hhyphen : '-' ∉ Clause.comment code := by
    cases code with
    | none => simp [Clause.comment]
    | some c => exact (colorComment_comment (hcode c rfl)).no_hyphen
  rw [← clausesAfter_false, clausesAfter_append_of_no_hyphen hhyphen (by decide)]
  exact clausesAfter_false rest

/-- A clause that is printed in front of a text is read first, and then the text. -/
theorem clauses_print_append {k : Clause} (h : k.WellFormed) {rest : Text}
    (hrest : ∀ c ∈ rest.head?, c = '-') : clauses (k.print ++ rest) = k :: clauses rest := by
  have hshape : k.print ++ rest =
      k.name ++ ':' :: (k.value ++ ';' :: (Clause.comment k.code ++ '\n' :: rest)) := by
    simp [Clause.print]
  rw [hshape, clauses_of_heading (headingAt?_name h.name _) h.value.unbroken (by decide),
    clauses_comment_append h.code]
  simp only [Segment.close?, h.value.trimmed, if_neg h.value.nonempty,
    code_comment_append h.code hrest, Option.toList_some, List.singleton_append]

/-- **Clauses are read back as they were printed.** -/
theorem clauses_printed {ks : List Clause} (h : ∀ k ∈ ks, k.WellFormed) :
    clauses (printed ks) = ks := by
  induction ks with
  | nil => rfl
  | cons k rest ih =>
      have hhead : ∀ c ∈ (printed rest).head?, c = '-' := by
        intro c hc
        cases rest with
        | nil => simp [printed] at hc
        | cons next more =>
            obtain ⟨tail, hname, -⟩ := (h next (by simp)).name
            simpa [printed, Clause.print, hname, eq_comm] using hc
      rw [printed_cons, clauses_print_append (h k (by simp)) hhead,
        ih fun k' hk' => h k' (by simp [hk'])]

/--
**Printed declarations are recovered exactly**, one definition for each, in order, with the name and
the value as they were.  The colour is the code that was printed as a comment, and without one it is
what the value reads as.
-/
theorem parse_printed {ks : List Clause} (h : ∀ k ∈ ks, k.WellFormed)
    (shade : Text → Option Text)
    (hshade : ∀ k ∈ ks, Color.fromTriplet k.value = .ok (shade k.value)) (source : Option Text) :
    parse (printed ks) source {} =
      .ok (ks.map fun k => ⟨k.name, k.value, k.code.or (shade k.value), source⟩) := by
  have hparse : parse (printed ks) source {} = ks.mapM (Clause.outcome source) := by
    rw [parse_eq]
    show (clauses (printed ks)).mapM _ = _
    rw [clauses_printed h]
  rw [hparse]
  clear hparse h
  induction ks with
  | nil => rfl
  | cons k rest ih =>
      have hk : Clause.outcome source k =
          .ok ⟨k.name, k.value, k.code.or (shade k.value), source⟩ := by
        unfold Clause.outcome
        cases hcode : k.code with
        | none => rw [color, hshade k (by simp)]; rfl
        | some code => rfl
      rw [List.mapM_cons, hk, ih fun k' hk' => hshade k' (by simp [hk'])]
      rfl

/-- A value that looks like a declaration with a comment of its own, and a triplet. -/
def samples : List Clause :=
  [⟨"--a".toList, "--b: c /* #123 */".toList, some "#aBc".toList⟩,
    ⟨"--d-2".toList, "1, 2 ,3".toList, none⟩]

/-- The first sample has the colour of its comment, and the second that of its value. -/
theorem parse_printed_samples :
    (∀ k ∈ samples, k.WellFormed) ∧
      parse (printed samples) none {} =
        .ok [⟨"--a".toList, "--b: c /* #123 */".toList, some "#aBc".toList, none⟩,
          ⟨"--d-2".toList, "1, 2 ,3".toList, some "#010203".toList, none⟩] := by
  have hvalid : ∀ k ∈ samples, k.WellFormed := by decide
  refine ⟨hvalid, parse_printed hvalid
    (fun v => if v = "1, 2 ,3".toList then some "#010203".toList else none) ?_ none⟩
  intro k hk
  simp only [samples, List.mem_cons, List.not_mem_nil, or_false] at hk
  rcases hk with rfl | rfl <;> rfl

end Declaration

end SwatchIndex
