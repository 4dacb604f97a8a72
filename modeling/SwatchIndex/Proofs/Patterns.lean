/-
What a pattern for names describes.

`Matches` says it element by element: an element for a run takes any characters, every other element
takes one.  The matcher fills a row for each element, from the last to the first, and the row
answers for every tail of the name at once whether the elements from there on describe it
(`answers_row`).  So the first answer of the last row is the answer for the whole name
(`describes_iff`), however many runs the pattern has.

A pattern that is plain between double stars describes the names with this plain text in them
(`describes_between_stars`).  Where the text is a directory's name between slashes, these are the
paths through a directory of that name, because the parts of a path are what its slashes divide
(`mem_dropLast_splitOn_iff`).
-/
import SwatchIndex.Files.Discovery
import SwatchIndex.Proofs.Parts
import Mathlib.Data.List.Forall2

namespace SwatchIndex

namespace NamePattern

/-! ### Elements -/

/-- The names that a list of elements describes. -/
inductive Matches : List NameToken → Text → Prop
  | nil : Matches [] []
  | run {tokens : List NameToken} {rest : Text} (run : Text) (h : Matches tokens rest) :
      Matches (.anyRun :: tokens) (run ++ rest)
  | char {token : NameToken} {tokens : List NameToken} {c : Char} {rest : Text}
      (hc : NameToken.accepts c token = true) (h : Matches tokens rest) :
      Matches (token :: tokens) (c :: rest)

theorem matches_nil_iff {name : Text} : Matches [] name ↔ name = [] := by
  constructor
  · intro h
    cases h
    rfl
  · rintro rfl
    exact .nil

theorem matches_run_iff {tokens : List NameToken} {name : Text} :
    Matches (.anyRun :: tokens) name ↔ ∃ run rest, name = run ++ rest ∧ Matches tokens rest := by
  constructor
  · intro h
    cases h with
    | run run h => exact ⟨run, _, rfl, h⟩
    | char hc _ => cases hc
  · rintro ⟨run, rest, rfl, h⟩
    exact .run run h

/-- A run is empty, or it takes the first character and goes on. -/
theorem matches_run_cons {tokens : List NameToken} {c : Char} {rest : Text} :
    Matches (.anyRun :: tokens) (c :: rest) ↔
      Matches tokens (c :: rest) ∨ Matches (.anyRun :: tokens) rest := by
  simp only [matches_run_iff]
  constructor
  · rintro ⟨run, more, heq, h⟩
    cases run with
    | nil =>
        rw [List.nil_append] at heq
        exact .inl (heq ▸ h)
    | cons d run =>
        obtain ⟨-, rfl⟩ := List.cons.inj heq
        exact .inr ⟨run, more, rfl, h⟩
  · rintro (h | ⟨run, more, rfl, h⟩)
    · exact ⟨[], c :: rest, rfl, h⟩
    · exact ⟨c :: run, more, rfl, h⟩

theorem matches_char_iff {token : NameToken} {tokens : List NameToken} {name : Text}
    (htoken : token ≠ .anyRun) :
    Matches (token :: tokens) name ↔
      ∃ c rest, name = c :: rest ∧ NameToken.accepts c token = true ∧ Matches tokens rest := by
  constructor
  · intro h
    cases h with
    | run run h => exact absurd rfl htoken
    | char hc h => exact ⟨_, _, rfl, hc, h⟩
  · rintro ⟨c, rest, rfl, hc, h⟩
    exact .char hc h

/-! ### Rows -/

/-- A row that says of each tail of a name whether these elements describe it. -/
def Answers (tokens : List NameToken) (row : List Bool) (name : Text) : Prop :=
  List.Forall₂ (fun answer rest => answer = true ↔ Matches tokens rest) row name.tails

variable {tokens : List NameToken} {row : List Bool} {name : Text}

theorem Answers.headD (h : Answers tokens row name) :
    row.headD false = true ↔ Matches tokens name := by
  unfold Answers at h
  cases name with
  | nil =>
      cases h with
      | cons hfirst _ => exact hfirst
  | cons c rest =>
      rw [List.tails_cons] at h
      cases h with
      | cons hfirst _ => exact hfirst

theorem answers_lastRow (name : Text) : Answers [] (lastRow name) name := by
  induction name with
  | nil => exact .cons (by simp [matches_nil_iff]) .nil
  | cons c rest ih =>
      unfold Answers
      rw [List.tails_cons]
      exact .cons (by simp [matches_nil_iff]) ih

theorem answers_charRow {token : NameToken} (htoken : token ≠ .anyRun)
    (h : Answers tokens row name) : Answers (token :: tokens) (charRow token name row) name := by
  induction name generalizing row with
  | nil =>
      have hnone : charRow token [] row = [false] := by cases row <;> rfl
      rw [hnone]
      exact .cons (by simp [matches_char_iff htoken]) .nil
  | cons c rest ih =>
      unfold Answers at h ⊢
      rw [List.tails_cons] at h ⊢
      cases h with
      | cons _ hrest =>
          have hhead := Answers.headD hrest
          refine .cons ?_ (ih hrest)
          simp [matches_char_iff htoken, ← hhead]

theorem answers_runRow (h : Answers tokens row name) :
    Answers (.anyRun :: tokens) (runRow row) name := by
  induction name generalizing row with
  | nil =>
      cases h with
      | cons hfirst hrest =>
          cases hrest
          refine .cons ?_ .nil
          simp [runRow, matches_run_iff, hfirst]
  | cons c rest ih =>
      unfold Answers at h ⊢
      rw [List.tails_cons] at h ⊢
      cases h with
      | cons hfirst hrest =>
          have hhead := (ih hrest).headD
          refine .cons ?_ (ih hrest)
          simp [matches_run_cons, hfirst, ← hhead]

/-- **A row answers for all tails of the name.** -/
theorem answers_row (name : Text) (tokens : List NameToken) :
    Answers tokens (NamePattern.row name tokens) name := by
  induction tokens with
  | nil => exact answers_lastRow name
  | cons token tokens ih =>
      cases token with
      | anyRun => exact answers_runRow ih
      | anyChar => exact answers_charRow (by simp) ih
      | oneOf set => exact answers_charRow (by simp) ih
      | exactly p => exact answers_charRow (by simp) ih

theorem describes_iff {pattern : Spelling} {name : Text} :
    describes pattern name = true ↔ Matches (parse pattern) name :=
  (answers_row name (parse pattern)).headD

/-! ### Plain patterns -/

/-- A code point that stands for itself wherever it stands in a pattern. -/
def IsPlain (p : CodePoint) : Prop := p ≠ .char '*' ∧ p ≠ .char '?' ∧ p ≠ .char '['

instance (p : CodePoint) : Decidable (IsPlain p) := inferInstanceAs (Decidable (_ ∧ _ ∧ _))

theorem tokens_plain {plain : Spelling} (h : ∀ p ∈ plain, IsPlain p) (fuel : Nat)
    (rest : Spelling) :
    NamePattern.tokens (plain.length + fuel) (plain ++ rest) =
      plain.map .exactly ++ NamePattern.tokens fuel rest := by
  induction plain with
  | nil => rw [List.length_nil, Nat.zero_add, List.nil_append, List.map_nil, List.nil_append]
  | cons p plain ih =>
      obtain ⟨⟨hstar, hmark, hbracket⟩, hplain⟩ := List.forall_mem_cons.mp h
      have hfuel : (p :: plain).length + fuel = (plain.length + fuel) + 1 := by
        rw [List.length_cons]
        omega
      rw [hfuel, List.cons_append, NamePattern.tokens, ih hplain, List.map_cons, List.cons_append]
      · exact hstar
      · exact hmark
      · exact hbracket

/-- A plain text takes itself off the front of a name. -/
theorem matches_plain_iff {plain : Spelling} {name : Text} :
    Matches (plain.map .exactly ++ tokens) name ↔
      ∃ t rest, name = t ++ rest ∧ .ofText t = plain ∧ Matches tokens rest := by
  induction plain generalizing name with
  | nil => simp [Spelling.ofText]
  | cons p plain ih =>
      rw [List.map_cons, List.cons_append, matches_char_iff (by simp)]
      simp only [ih, NameToken.accepts, beq_iff_eq]
      constructor
      · rintro ⟨c, _, rfl, rfl, t, rest, rfl, rfl, h⟩
        exact ⟨c :: t, rest, rfl, rfl, h⟩
      · rintro ⟨t, rest, rfl, heq, h⟩
        cases t with
        | nil => cases heq
        | cons c t =>
            obtain ⟨rfl, rfl⟩ := List.cons.inj heq
            exact ⟨c, t ++ rest, rfl, rfl, t, rest, rfl, rfl, h⟩

/-- Two runs in a row take what one run takes. -/
theorem matches_runs_iff {name : Text} :
    Matches (.anyRun :: .anyRun :: tokens) name ↔
      ∃ x rest, name = x ++ rest ∧ Matches tokens rest := by
  rw [matches_run_iff]
  constructor
  · rintro ⟨x, _, rfl, hrun⟩
    obtain ⟨y, rest, rfl, h⟩ := matches_run_iff.mp hrun
    exact ⟨x ++ y, rest, by rw [List.append_assoc], h⟩
  · rintro ⟨x, rest, rfl, h⟩
    exact ⟨x, rest, rfl, .run [] h⟩

/-- A double star. -/
def stars : Spelling := .ofString "**"

/-- **A plain text between double stars describes the names with this text in them.** -/
theorem describes_between_stars {plain : Spelling} (h : ∀ p ∈ plain, IsPlain p) {name : Text} :
    describes (stars ++ (plain ++ stars)) name = true ↔ ∃ t, .ofText t = plain ∧ t <:+: name := by
  have hparse : parse (stars ++ (plain ++ stars)) =
      .anyRun :: .anyRun :: (plain.map .exactly ++ [.anyRun, .anyRun]) := by
    show .anyRun :: .anyRun :: NamePattern.tokens (plain ++ stars).length (plain ++ stars) = _
    rw [List.length_append, tokens_plain h]
    rfl
  have hrest : ∀ rest, Matches [.anyRun, .anyRun] rest :=
    fun rest => matches_runs_iff.mpr ⟨rest, [], by rw [List.append_nil], .nil⟩
  rw [describes_iff, hparse, matches_runs_iff]
  simp only [matches_plain_iff]
  constructor
  · rintro ⟨x, _, rfl, t, rest, rfl, ht, -⟩
    exact ⟨t, ht, x, rest, by rw [List.append_assoc]⟩
  · rintro ⟨t, ht, x, rest, rfl⟩
    exact ⟨x, t ++ rest, by rw [List.append_assoc], t, rest, rfl, ht, hrest rest⟩

end NamePattern

/-! ### Excluded directories -/

namespace Discovery

/-- A name that is no pattern itself, between double stars and slashes, describes the paths with
that name between slashes. -/
theorem describes_directory_iff {name : Spelling}
    (h : ∀ c ∈ ['/', '*', '?', '['], CodePoint.char c ∉ name) (path : Text) :
    NamePattern.describes (.ofString "**/" ++ name ++ .ofString "/**") path = true ↔
      ∃ part, Spelling.ofText part = name ∧ '/' :: (part ++ ['/']) <:+: path := by
  have hpattern : .ofString "**/" ++ name ++ .ofString "/**" =
      NamePattern.stars ++ (.char '/' :: (name ++ [.char '/']) ++ NamePattern.stars) := by
    simp [NamePattern.stars, Spelling.ofString, Spelling.ofText]
  have hplain : ∀ p ∈ CodePoint.char '/' :: (name ++ [.char '/']), NamePattern.IsPlain p := by
    intro p hp
    simp only [List.mem_cons, List.mem_append, List.not_mem_nil, or_false] at hp
    rcases hp with rfl | hp | rfl
    · decide
    · exact ⟨fun hstar => h '*' (by decide) (hstar ▸ hp),
        fun hmark => h '?' (by decide) (hmark ▸ hp),
        fun hbracket => h '[' (by decide) (hbracket ▸ hp)⟩
    · decide
  rw [hpattern, NamePattern.describes_between_stars hplain]
  constructor
  · rintro ⟨t, ht, hwithin⟩
    obtain ⟨c, rest, rfl, hc, hrest⟩ := List.map_eq_cons_iff.mp ht
    obtain ⟨part, last, rfl, hpart, hlast⟩ := List.map_eq_append_iff.mp hrest
    obtain ⟨d, _, rfl, hd, hnil⟩ := List.map_eq_cons_iff.mp hlast
    obtain rfl := List.map_eq_nil_iff.mp hnil
    cases hc
    cases hd
    exact ⟨part, hpart, hwithin⟩
  · rintro ⟨part, rfl, hwithin⟩
    exact ⟨_, by simp [Spelling.ofText], hwithin⟩

/-- **The pattern for a directory leaves out what is below a directory of that name**, at the top or
at any depth, and nothing else: neither a file of that name nor what is below a directory whose name
only contains it. -/
theorem isExcluded_directory_iff {name : Spelling}
    (h : ∀ c ∈ ['/', '*', '?', '['], CodePoint.char c ∉ name) (path : Text) :
    isExcluded path [.ofString "**/" ++ name ++ .ofString "/**"] = true ↔
      ∃ part ∈ (path.splitOn '/').dropLast, Spelling.ofText part = name := by
  have hslash : ∀ part : Text, Spelling.ofText part = name → '/' ∉ part := by
    rintro part rfl hmem
    exact h '/' (by decide) (List.mem_map_of_mem hmem)
  -- With a slash in front, the path has every place at which it has the name without it.
  have hforms : isExcluded path [.ofString "**/" ++ name ++ .ofString "/**"] = true ↔
      ∃ part, Spelling.ofText part = name ∧ '/' :: (part ++ ['/']) <:+: '/' :: path := by
    simp only [isExcluded, List.any_cons, List.any_nil, Bool.or_false, Bool.or_eq_true,
      describes_directory_iff h]
    constructor
    · rintro (⟨part, hpart, hwithin⟩ | hfound)
      · exact ⟨part, hpart, List.infix_cons hwithin⟩
      · exact hfound
    · exact .inr
  rw [hforms]
  constructor
  · rintro ⟨part, hpart, hwithin⟩
    exact ⟨part, (Text.mem_dropLast_splitOn_iff (hslash part hpart)).mpr hwithin, hpart⟩
  · rintro ⟨part, hmem, hpart⟩
    exact ⟨part, hpart, (Text.mem_dropLast_splitOn_iff (hslash part hpart)).mp hmem⟩

/-- The default pattern leaves out a package's files, but not a file with that name, nor one below a
directory with a longer name. -/
theorem isExcluded_directory_samples :
    isExcluded "pkg/node_modules/x/y.css".toList [.ofString "**/node_modules/**"] = true ∧
      isExcluded "node_modules/x.css".toList [.ofString "**/node_modules/**"] = true ∧
      isExcluded "pkg/node_modules".toList [.ofString "**/node_modules/**"] = false ∧
      isExcluded "my_node_modules/x.css".toList [.ofString "**/node_modules/**"] = false := by
  have hname : ∀ c ∈ ['/', '*', '?', '['], CodePoint.char c ∉ Spelling.ofString "node_modules" := by
    simp [Spelling.ofString, Spelling.ofText]
  have hiff := fun path => isExcluded_directory_iff hname path
  refine ⟨(hiff _).mpr (by decide), (hiff _).mpr (by decide), ?_, ?_⟩
  · exact Bool.eq_false_iff.mpr fun h => absurd ((hiff _).mp h) (by decide)
  · exact Bool.eq_false_iff.mpr fun h => absurd ((hiff _).mp h) (by decide)

end Discovery

end SwatchIndex
