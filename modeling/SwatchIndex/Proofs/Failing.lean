/-
When an index fails, and what it leaves behind.

A definition fails at its colour only, and a colour at a numeral only that is too long.  So the
clauses say which stylesheets fail: those in which a scan reaches a clause without a comment whose
value is such a triplet (`parse_isOk_iff`).  Whatever the bounds keep out of reach does no harm.

Units are parsed one after the other, and so are the clauses of a unit: the first failure counts,
and all is well exactly if each part is.  A registry is made only when all units are parsed.  So a
failure leaves the session as it was, but for what was reported (`on_index_of_error`).
-/
import SwatchIndex.Proofs.Actions
import SwatchIndex.Proofs.Indexed
import SwatchIndex.Proofs.Triplets

namespace SwatchIndex

/-! ### Stylesheets -/

namespace Declaration

/-- The clauses of a text that a scan reaches within its bounds. -/
def reached (limits : ScanLimits) (text : Text) : List Clause :=
  within (limits.count.map Int.toNat) (clauses (limits.cut text))

/-- No comment gives a clause its colour, and its value is a triplet that cannot be read. -/
def Clause.Fails (k : Clause) (cause : OverlongNumeral) : Prop :=
  k.code = none ∧ Color.IsOverlong k.value cause

theorem Clause.outcome_eq_error_iff {k : Clause} {source : Option Text} {cause : OverlongNumeral} :
    k.outcome source = .error cause ↔ k.Fails cause := by
  unfold Clause.outcome Clause.Fails
  rw [← Color.fromTriplet_eq_error_iff]
  cases k.code with
  | some code => simp [color, Except.map]
  | none => cases hcolor : Color.fromTriplet k.value <;> simp [color, hcolor, Except.map]

/-- A stylesheet is parsed exactly if no clause in reach fails. -/
theorem parse_isOk_iff {text : Text} {source : Option Text} {limits : ScanLimits} :
    (∃ ds, parse text source limits = .ok ds) ↔
      ∀ k ∈ reached limits text, ∀ cause, ¬ k.Fails cause := by
  rw [parse_eq, mapM_isOk_iff]
  simp only [reached, Clause.outcome_eq_error_iff, ne_eq]

end Declaration

/-! ### Units -/

namespace Indexing

/-- The unit has a text, and it cannot be parsed under these settings. -/
def Fails (settings : Settings) (u : SourceUnit) (cause : OverlongNumeral) : Prop :=
  ∃ text, u.text = some text ∧
    parse text (some u.path) ⟨some settings.maxTextLength, some settings.maxMatches⟩ = .error cause

theorem parseUnit_eq_error_iff {settings : Settings} {u : SourceUnit} {cause : OverlongNumeral} :
    parseUnit settings u = .error cause ↔ Fails settings u cause := by
  unfold parseUnit Fails
  cases u.text with
  | none => simp
  | some text =>
      simp only [Option.some.injEq, exists_eq_left']
      rfl

/-- Units cannot be parsed if one of them cannot, and the first such unit gives the error. -/
theorem parseUnits_eq_error_iff {settings : Settings} {units : List SourceUnit}
    {cause : OverlongNumeral} :
    parseUnits settings units = .error cause ↔
      ∃ before u after, units = before ++ u :: after ∧
        (∀ v ∈ before, ∀ e, ¬ Fails settings v e) ∧ Fails settings u cause := by
  unfold parseUnits
  rw [mapM_eq_error_iff]
  simp only [isOk_iff, ne_eq, parseUnit_eq_error_iff]

theorem parseUnits_isOk_iff {settings : Settings} {units : List SourceUnit} :
    (∃ parsed, parseUnits settings units = .ok parsed) ↔
      ∀ u ∈ units, ∀ e, ¬ Fails settings u e := by
  unfold parseUnits
  rw [mapM_isOk_iff]
  simp only [ne_eq, parseUnit_eq_error_iff]

/-! ### The whole index -/

theorem index_of_error {settings : Settings} {units : List SourceUnit} {cause : OverlongNumeral}
    (h : parseUnits settings units = .error cause) (next : Nat) :
    index settings units next = (.error cause, next) := by
  simp only [index, h]

theorem index_of_ok {settings : Settings} {units : List SourceUnit}
    {parsed : List (List Definition)} (h : parseUnits settings units = .ok parsed) (next : Nat) :
    index settings units next =
      (.ok ((Registry.build parsed next).resolve settings.resolveDepth (next + 1)),
        if settings.resolveDepth ≤ 0 then next + 1 else next + 2) := by
  simp only [index, h, Registry.resolve]
  split <;> rfl

/-- An index fails exactly if parsing does, and with the same error. -/
theorem index_eq_error_iff {settings : Settings} {units : List SourceUnit} {next : Nat}
    {cause : OverlongNumeral} :
    (index settings units next).1 = .error cause ↔ parseUnits settings units = .error cause := by
  cases h : parseUnits settings units with
  | error e => simp [index_of_error h]
  | ok parsed => simp [index_of_ok h]

/-- An index is a merge of what was parsed, with its aliases resolved. -/
theorem index_eq_ok_iff {settings : Settings} {units : List SourceUnit} {next : Nat}
    {r : Registry} :
    (index settings units next).1 = .ok r ↔
      ∃ parsed, parseUnits settings units = .ok parsed ∧
        r = (Registry.build parsed next).resolve settings.resolveDepth (next + 1) := by
  cases hparsed : parseUnits settings units with
  | error cause => simp [index_of_error hparsed]
  | ok parsed => simp [index_of_ok hparsed, eq_comm]

/--
**An index is returned exactly if no clause in reach fails**, whatever the settings are: in no unit
does a scan come, within its bounds, to a triplet with a numeral that is too long and without a
comment behind it.  Likewise for a single stylesheet.  A value alone is refused exactly if it is
such a triplet.
-/
theorem index_isOk_iff (settings : Settings) (units : List SourceUnit) (next : Nat) :
    ((∃ r, (index settings units next).1 = .ok r) ↔
      ∀ u ∈ units, ∀ text ∈ u.text, ∀ k ∈ Declaration.reached settings.limits text,
        ∀ cause, ¬ k.Fails cause) ∧
      (∀ text source limits, (∃ ds, parse text source limits = .ok ds) ↔
        ∀ k ∈ Declaration.reached limits text, ∀ cause, ¬ k.Fails cause) ∧
      ∀ value, (∃ shade, Color.fromTriplet value = .ok shade) ↔
        ∀ cause, ¬ Color.IsOverlong value cause := by
  refine ⟨?_, fun text source limits => Declaration.parse_isOk_iff, fun value => ?_⟩
  · have hunit : ∀ u, (∀ e, ¬ Fails settings u e) ↔
        ∀ text ∈ u.text, ∀ k ∈ Declaration.reached settings.limits text,
          ∀ cause, ¬ k.Fails cause := by
      intro u
      have hparse : ∀ text, (∀ e, parse text (some u.path) settings.limits ≠ .error e) ↔
          ∀ k ∈ Declaration.reached settings.limits text, ∀ cause, ¬ k.Fails cause :=
        fun text => isOk_iff.symm.trans Declaration.parse_isOk_iff
      simp only [← hparse, Fails, not_exists, not_and, Option.mem_def]
      exact ⟨fun h text htext e => h e text htext, fun h e text htext => h text htext e⟩
    simp only [← hunit, isOk_iff, ne_eq, index_eq_error_iff, ← parseUnits_isOk_iff]
  · simp only [isOk_iff, ne_eq, Color.fromTriplet_eq_error_iff]

/-- A triplet whose first numeral has `n` digits. -/
def ninesTriplet (n : Nat) : Text := List.replicate n '9' ++ ",0,0".toList

/-- A stylesheet that declares it. -/
def ninesStylesheet (n : Nat) : Text :=
  Declaration.printed [⟨"--a".toList, ninesTriplet n, none⟩]

theorem length_ninesStylesheet (n : Nat) : (ninesStylesheet n).length = n + 10 := by
  simp [ninesStylesheet, Declaration.printed, Declaration.Clause.print,
    Declaration.Clause.comment, ninesTriplet]

/-- A class without a nine, a comma and a zero is not found in the triplet. -/
theorem ninesTriplet_excludes {p : Char → Bool} (hp : ['9', ',', '0'].all (fun c => !p c) = true)
    (n : Nat) : ∀ c ∈ ninesTriplet n, p c = false := by
  intro c hc
  have hmem : c ∈ ['9', ',', '0'] := by
    rcases List.mem_append.mp hc with hc | hc
    · rw [List.eq_of_mem_replicate hc]
      decide
    · have hall : ∀ d ∈ ",0,0".toList, d ∈ ['9', ',', '0'] := by simp
      exact hall c hc
  simpa using List.all_eq_true.mp hp c hmem

theorem isOverlong_ninesTriplet {n : Nat} (h : Numeral.maxDigits < n) :
    Color.IsOverlong (ninesTriplet n) ⟨n⟩ := by
  have hstrip : Text.strip (ninesTriplet n) = ninesTriplet n :=
    Text.strip_of_no_blank (ninesTriplet_excludes (by decide) n)
  have hnines : Color.IsNumeral (List.replicate n '9') := by
    refine ⟨?_, fun c hc => by rw [List.eq_of_mem_replicate hc]; rfl⟩
    simp only [ne_eq, List.replicate_eq_nil_iff]
    omega
  have hzero : Color.IsNumeral ['0'] := ⟨by simp, List.forall_mem_singleton.mpr rfl⟩
  have hcomma : Color.IsComma [','] := ⟨[], [], rfl, by simp, by simp⟩
  refine ⟨List.replicate n '9', ['0'], ['0'], ?_, ?_⟩
  · rw [hstrip]
    exact ⟨hnines, hzero, hzero, [','], [','], hcomma, hcomma, rfl⟩
  · simp [Numeral.overlong?, h]

/-- A stylesheet cannot be parsed where an overlong numeral is in reach. -/
theorem parse_ninesStylesheet {n : Nat} (h : Numeral.maxDigits < n) {source : Option Text}
    {limits : ScanLimits} (hlength : limits.cut (ninesStylesheet n) = ninesStylesheet n)
    (hcount : limits.count.map Int.toNat ≠ some 0) :
    parse (ninesStylesheet n) source limits = .error ⟨n⟩ := by
  have hvalue : Declaration.IsValue (ninesTriplet n) :=
    ⟨by simp [ninesTriplet], Text.strip_of_no_blank (ninesTriplet_excludes (by decide) n),
      ninesTriplet_excludes (by decide) n⟩
  have hclauses : Declaration.clauses (ninesStylesheet n) =
      [⟨"--a".toList, ninesTriplet n, none⟩] := by
    refine Declaration.clauses_printed fun k hk => ?_
    obtain rfl := List.mem_singleton.mp hk
    have hname : IsPropertyName "--a".toList := by decide
    exact ⟨hname, hvalue, by simp⟩
  rw [Declaration.parse_eq, hlength, hclauses, Declaration.within_cons hcount, mapM_eq_error_iff]
  exact ⟨[], _, _, rfl, by simp,
    Declaration.Clause.outcome_eq_error_iff.mpr ⟨rfl, isOverlong_ninesTriplet h⟩⟩

/-- Settings without a field of their own are accepted, but under them one such stylesheet is enough
for the index to fail. -/
theorem index_fails_on_overlong_numeral :
    Settings.check [] = .ok [] ∧
      index (Settings.ofAssignments []) [⟨"a.css".toList, some (ninesStylesheet 4301)⟩] 1 =
        (.error ⟨4301⟩, 1) ∧
      parse (ninesStylesheet 4301) none {} = .error ⟨4301⟩ ∧
      Color.fromTriplet (ninesTriplet 4301) = .error ⟨4301⟩ := by
  have hlong : Numeral.maxDigits < 4301 := by decide
  have hcut : (Settings.ofAssignments []).limits.cut (ninesStylesheet 4301) =
      ninesStylesheet 4301 := by
    have hshort : (Settings.ofAssignments []).limits.exceededBy (ninesStylesheet 4301) = false := by
      simp only [Settings.ofAssignments, List.foldl_nil, Settings.limits, ScanLimits.exceededBy,
        length_ninesStylesheet]
      decide
    rw [ScanLimits.cut, hshort]
    rfl
  have hparse : parseUnits (Settings.ofAssignments [])
      [⟨"a.css".toList, some (ninesStylesheet 4301)⟩] = .error ⟨4301⟩ :=
    parseUnits_eq_error_iff.mpr
      ⟨[], _, [], rfl, by simp, _, rfl, parse_ninesStylesheet hlong hcut (by decide)⟩
  refine ⟨?_, index_of_error hparse 1, parse_ninesStylesheet hlong rfl (by decide),
    Color.fromTriplet_eq_error_iff.mpr (isOverlong_ninesTriplet hlong)⟩
  simp [Settings.check, Settings.unknownKeys, Settings.checkFields]

end Indexing

/-! ### What is left behind -/

theorem Registry.resolve_version (r : Registry) (depth : Int) (version : Nat) :
    (r.resolve depth version).version = if depth ≤ 0 then r.version else version := by
  unfold Registry.resolve
  split <;> rfl

namespace Session

open Indexing (Fails)

/-- An index that fails leaves the session as it was, but for what was reported of the units. -/
theorem on_index_of_error {settings : Settings} {units : List SourceUnit} {cause : OverlongNumeral}
    (h : Indexing.parseUnits settings units = .error cause) (s : Session) :
    (index settings units).on s =
      (.error (.numeral cause), s.reporting (Indexing.unitEvents settings units)) := by
  have hevents : Indexing.indexEvents settings units s.nextVersion =
      Indexing.unitEvents settings units := by
    simp only [Indexing.indexEvents, h, List.append_nil]
  rw [on_index, Indexing.index_of_error h, hevents]
  rfl

/--
**An index is made as a whole or not at all.**  It fails exactly if a unit cannot be parsed under
the settings, with the error of the first such unit.  Then no registry was made: the session is as
it was, the counter of versions too, but for what was reported of the units.  Otherwise the registry
has the version that the counter gave, and the counter has moved on by one; if aliases are followed,
it has the version after that, and the counter has moved on by two.
-/
theorem index_all_or_nothing (settings : Settings) (units : List SourceUnit) (s : Session) :
    (∀ fault, ((index settings units).on s).1 = .error fault ↔
      ∃ before u after cause, units = before ++ u :: after ∧
        (∀ v ∈ before, ∀ e, ¬ Fails settings v e) ∧ Fails settings u cause ∧
          fault = .numeral cause) ∧
      (∀ fault, ((index settings units).on s).1 = .error fault →
        ((index settings units).on s).2 = s.reporting (Indexing.unitEvents settings units) ∧
          ((index settings units).on s).2.nextVersion = s.nextVersion) ∧
      ∀ r, ((index settings units).on s).1 = .ok r →
        (settings.resolveDepth ≤ 0 → r.version = s.nextVersion ∧
          ((index settings units).on s).2.nextVersion = s.nextVersion + 1) ∧
        (0 < settings.resolveDepth → r.version = s.nextVersion + 1 ∧
          ((index settings units).on s).2.nextVersion = s.nextVersion + 2) := by
  have hfails : ∀ cause, Indexing.parseUnits settings units = .error cause ↔
      ∃ before u after, units = before ++ u :: after ∧
        (∀ v ∈ before, ∀ e, ¬ Fails settings v e) ∧ Fails settings u cause :=
    fun cause => Indexing.parseUnits_eq_error_iff
  cases hparsed : Indexing.parseUnits settings units with
  | error cause =>
      rw [on_index_of_error hparsed]
      refine ⟨fun fault => ?_, fun _ _ => ⟨rfl, rfl⟩, fun r h => by cases h⟩
      constructor
      · intro h
        obtain ⟨before, u, after, hu⟩ := (hfails cause).mp hparsed
        exact ⟨before, u, after, cause, hu.1, hu.2.1, hu.2.2, (Except.error.inj h).symm⟩
      · rintro ⟨before, u, after, cause', hunits, hbefore, hu, rfl⟩
        have hsame := (hfails cause').mpr ⟨before, u, after, hunits, hbefore, hu⟩
        rw [hparsed] at hsame
        rw [Except.error.inj hsame]
  | ok parsed =>
      rw [on_index, Indexing.index_of_ok hparsed]
      refine ⟨fun fault => ⟨fun h => ?_, ?_⟩, fun _ h => ?_, fun r h => ?_⟩
      · cases h
      · rintro ⟨before, u, after, cause, hunits, hbefore, hu, -⟩
        have herror := (hfails cause).mpr ⟨before, u, after, hunits, hbefore, hu⟩
        rw [hparsed] at herror
        cases herror
      · cases h
      · obtain rfl := Except.ok.inj h
        refine ⟨fun hdepth => ?_, fun hdepth => ?_⟩
        · rw [Registry.resolve_version, if_pos hdepth]
          exact ⟨rfl, if_pos hdepth⟩
        · have hlt : ¬ settings.resolveDepth ≤ 0 := by omega
          rw [Registry.resolve_version, if_neg hlt]
          exact ⟨rfl, if_neg hlt⟩

end Session

end SwatchIndex
