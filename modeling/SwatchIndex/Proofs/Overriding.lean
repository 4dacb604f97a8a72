/-
The settings under which a command is carried out.

Settings that are loaded have passed their check, so none of their bounds is below zero
(`bounded_ofAssignments`).  What the command line says takes their place without a check.  So the
bounds hold if and only if the command line has no number below zero, and a bound that it does set
is the number as it was given (`Bounded.override_iff`).

A bound on the number of files cuts the list of candidates.  One below zero leaves files out at the
end of the list, as many as it says, and so lets the more through the more there are
(`capped_of_neg`).
-/
import SwatchIndex.CommandLine.Run
import SwatchIndex.Proofs.Checking
import SwatchIndex.Proofs.Discovered

namespace SwatchIndex

/-! ### Settings that are loaded -/

namespace Settings

/-- No bound is below zero. -/
structure Bounded (s : Settings) : Prop where
  maxFiles : 0 ≤ s.maxFiles
  maxTextLength : 0 ≤ s.maxTextLength
  maxMatches : 0 ≤ s.maxMatches
  resolveDepth : 0 ≤ s.resolveDepth

theorem Bounded.apply {s : Settings} (h : s.Bounded) (a : Assignment) : (a.apply s).Bounded := by
  cases a with
  | maxFiles n => exact { h with maxFiles := Int.natCast_nonneg n }
  | maxTextLength n => exact { h with maxTextLength := Int.natCast_nonneg n }
  | maxMatches n => exact { h with maxMatches := Int.natCast_nonneg n }
  | resolveDepth n => exact { h with resolveDepth := Int.natCast_nonneg n }
  | _ => exact ⟨h.maxFiles, h.maxTextLength, h.maxMatches, h.resolveDepth⟩

/-- Checked fields leave the bounds at zero or above. -/
theorem Bounded.foldl_apply {s : Settings} (h : s.Bounded) (fields : List Assignment) :
    (fields.foldl Assignment.apply s).Bounded := by
  induction fields generalizing s with
  | nil => exact h
  | cons a rest ih => exact ih (h.apply a)

theorem bounded_ofAssignments (fields : List Assignment) : (ofAssignments fields).Bounded :=
  Bounded.foldl_apply ⟨by decide, by decide, by decide, by decide⟩ fields

/-- Numbers that take the place of bounds are the only ones that can be below zero. -/
theorem Bounded.override_iff {s : Settings} (h : s.Bounded) (maxFiles resolveDepth : Option Int) :
    (s.override { maxFiles, resolveDepth }).Bounded ↔
      (∀ n ∈ maxFiles, 0 ≤ n) ∧ ∀ n ∈ resolveDepth, 0 ≤ n := by
  have hgetD {given : Option Int} {loaded : Int} (hloaded : 0 ≤ loaded) :
      0 ≤ given.getD loaded ↔ ∀ n ∈ given, 0 ≤ n := by
    cases given <;> simp [hloaded]
  constructor
  · intro hbounded
    exact ⟨(hgetD h.maxFiles).mp hbounded.maxFiles,
      (hgetD h.resolveDepth).mp hbounded.resolveDepth⟩
  · rintro ⟨hfiles, hdepth⟩
    exact ⟨(hgetD h.maxFiles).mpr hfiles, h.maxTextLength, h.maxMatches,
      (hgetD h.resolveDepth).mpr hdepth⟩

end Settings

namespace Session

open Act

/-- Settings that are loaded have passed their check. -/
theorem exists_check_of_loadSettings {location : Option Location} {s : Session}
    {settings : Settings} (h : ((loadSettings location).on s).1 = .ok settings) :
    ∃ document fields, Settings.check document = .ok fields ∧
      settings = Settings.ofAssignments fields := by
  simp only [loadSettings, on_bind_fst, on_get, on_orFault, on_report, on_pure] at h
  obtain ⟨_, hs, h⟩ := bind_eq_ok_iff.mp h
  cases hs
  obtain ⟨⟨place, document⟩, -, h⟩ := bind_eq_ok_iff.mp h
  obtain ⟨fields, hfields, h⟩ := bind_eq_ok_iff.mp h
  rw [mapError_eq_ok_iff] at hfields
  cases h
  exact ⟨document, fields, hfields, rfl⟩

/-- A discovery that succeeds was asked for below a path without null characters. -/
theorem discover_of_on_discover {path : Text} {included excluded : List Spelling} {bound : Int}
    {s : Session} {files : List Place}
    (h : ((discover path included excluded bound).on s).1 = .ok files) :
    '\x00' ∉ path ∧
      SwatchIndex.discover s.tree (s.resolvedPath path) included excluded bound = .ok files := by
  by_cases hpath : '\x00' ∈ path
  · have hcheck : NullCharacter.inPath.check path = .error .inPath := by
      simp [NullCharacter.check, hpath]
    rw [on_discover, hcheck] at h
    cases h
  · rw [on_discover_fst hpath, mapError_eq_ok_iff] at h
    exact ⟨hpath, h⟩

end Session

/-! ### Bounds on the number of files -/

namespace Discovery

theorem length_capped_le {bound : Int} (h : 0 ≤ bound) (files : List Place) :
    ((capped bound files).length : Int) ≤ bound := by
  obtain ⟨n, rfl⟩ := Int.eq_ofNat_of_zero_le h
  rw [capped_natCast, List.length_take, Int.ofNat_le]
  exact Nat.min_le_left _ _

/-- A bound below zero leaves out that many files at the end. -/
theorem capped_of_neg {bound : Int} (h : bound < 0) (files : List Place) :
    capped bound files = files.take (files.length - bound.natAbs) := by
  obtain ⟨n, rfl⟩ := Int.eq_negSucc_of_lt_zero h
  have hshort : Int.negSucc n < Int.ofNat files.length :=
    Int.lt_of_lt_of_le h (Int.natCast_nonneg _)
  rw [capped, if_pos hshort]
  rfl

theorem capped_nil (bound : Int) : capped bound [] = [] := by
  unfold capped
  split
  · exact clip_nil bound
  · rfl

/-- A bound does nothing but cut the list that there is without it. -/
theorem exists_capped_of_discover {tree : Tree} {root : Place} {included excluded : List Spelling}
    {bound : Int} {files : List Place}
    (h : SwatchIndex.discover tree root included excluded bound = .ok files) :
    ∃ all, files = capped bound all ∧
      ∀ other, SwatchIndex.discover tree root included excluded other = .ok (capped other all) := by
  unfold SwatchIndex.discover at h ⊢
  obtain ⟨isDirectory, hroot, h⟩ := bind_eq_ok_iff.mp h
  rw [hroot]
  cases isDirectory with
  | false =>
      cases h
      exact ⟨[], (capped_nil bound).symm, fun other => by rw [capped_nil]; rfl⟩
  | true =>
      rw [if_pos rfl] at h
      obtain ⟨all, hall, h⟩ := bind_eq_ok_iff.mp h
      cases h
      refine ⟨all, rfl, fun other => ?_⟩
      rw [hall]
      rfl

end Discovery

/-! ### The command line -/

namespace CommandLine

open Act

/-- The settings of a request are loaded settings with the numbers of the command line in place. -/
theorem exists_loaded_of_settingsFor {r : Request} {s : Session} {settings : Settings}
    (h : ((settingsFor r).on s).1 = .ok settings) :
    ∃ loaded : Settings, loaded.Bounded ∧
      settings = loaded.override
        { maxFiles := r.maxFiles.bind Given.value?
          resolveDepth := r.resolveDepth.bind Given.value? } := by
  simp only [settingsFor, on_bind_fst, on_pure] at h
  obtain ⟨loaded, hloaded, h⟩ := bind_eq_ok_iff.mp h
  cases h
  obtain ⟨document, fields, -, rfl⟩ := Session.exists_check_of_loadSettings hloaded
  exact ⟨_, Settings.bounded_ofAssignments fields, rfl⟩

/--
**The bounds hold exactly if the command line keeps to them.**  Whenever a command gets past loading
its settings, no bound of theirs is below zero but for those that the command line sets there.  A
discovery lists at most as many files as its bound says exactly if that bound is not below zero, and
else all candidates but that many at the end.
-/
theorem settingsFor_bounded_iff {r : Request} {s : Session} {settings : Settings}
    (h : ((settingsFor r).on s).1 = .ok settings) :
    (settings.Bounded ↔
        (∀ n, r.maxFiles = some (.value n) → 0 ≤ n) ∧
          ∀ n, r.resolveDepth = some (.value n) → 0 ≤ n) ∧
      (0 ≤ settings.maxTextLength ∧ 0 ≤ settings.maxMatches) ∧
      (∀ n, r.maxFiles = some (.value n) → settings.maxFiles = n) ∧
      (∀ n, r.resolveDepth = some (.value n) → settings.resolveDepth = n) ∧
      ∀ (t : Session) (path : Text) (files : List Place),
        ((Session.discover path settings.included settings.excluded settings.maxFiles).on t).1 =
          .ok files →
        ((files.length : Int) ≤ settings.maxFiles ↔ 0 ≤ settings.maxFiles) ∧
          (settings.maxFiles < 0 → ∃ all : List Place,
            files = all.take (all.length - settings.maxFiles.natAbs) ∧
              ∀ m : Nat, all.length ≤ m →
                ((Session.discover path settings.included settings.excluded m).on t).1 =
                  .ok all) := by
  obtain ⟨loaded, hloaded, rfl⟩ := exists_loaded_of_settingsFor h
  have hvalue {given : Option (Given Int)} {n : Int} :
      n ∈ given.bind Given.value? ↔ given = some (.value n) := by
    rcases given with _ | (_ | _) <;> simp [Given.value?]
  refine ⟨?_, ⟨hloaded.maxTextLength, hloaded.maxMatches⟩, fun n hn => ?_, fun n hn => ?_, ?_⟩
  · rw [hloaded.override_iff]
    simp only [hvalue]
  · simp [Settings.override, hn, Given.value?]
  · simp [Settings.override, hn, Given.value?]
  · intro t path files hfiles
    obtain ⟨hpath, hdiscover⟩ := Session.discover_of_on_discover hfiles
    obtain ⟨all, rfl, hother⟩ := Discovery.exists_capped_of_discover hdiscover
    refine ⟨⟨fun hle => ?_, fun hbound => Discovery.length_capped_le hbound all⟩, fun hneg => ?_⟩
    · exact Int.le_trans (Int.natCast_nonneg _) hle
    · refine ⟨all, Discovery.capped_of_neg hneg all, fun m hm => ?_⟩
      rw [Session.on_discover_fst hpath, hother, Discovery.capped_natCast,
        List.take_of_length_le hm]
      rfl

/-- A stylesheet and a document without settings. -/
def workspace : Session :=
  { Session.start ⟨[], []⟩ ⟨[], ["lib".toList]⟩ with
    tree := ⟨[(⟨[], []⟩, .directory), (⟨[], ["a.css".toList]⟩, .file [] (.tick 0)),
      (⟨[], ["c.json".toList]⟩, .file [123, 125] (.tick 1))]⟩ }

/-- A request to list the definitions, with a bound on the number of files. -/
def listing (bound : Int) : Request where
  config := some "c.json".toList
  debug := false
  trace := none
  resolveDepth := none
  maxFiles := some (.value bound)
  command := .index (.value ".".toList)

/-- The command line that asks for it. -/
def listingWords (bound : String) : List Text :=
  ["--config".toList, "c.json".toList, "--max-files".toList, bound.toList, "index".toList,
    ".".toList]

/-- With a bound of zero the settings keep to their bounds. -/
theorem settingsFor_bounded_iff_sample :
    ((settingsFor (listing 0)).on workspace).1 = .ok { maxFiles := 0 } ∧
      Settings.Bounded { maxFiles := 0 } := by
  have hsettings : ((settingsFor (listing 0)).on workspace).1 = .ok { maxFiles := 0 } := by
    decide +kernel
  refine ⟨hsettings, (settingsFor_bounded_iff hsettings).1.mpr ⟨fun n hn => ?_, nofun⟩⟩
  cases hn
  decide

/-- A bound of -1 is taken from the command line as it is, and the only stylesheet is left out. -/
theorem settingsFor_keeps_negative_bound :
    parse (listingWords "-1") = .ok (listing (-1)) ∧
      ((settingsFor (listing (-1))).on workspace).1 = .ok { maxFiles := -1 } ∧
      ¬ Settings.Bounded { maxFiles := -1 } ∧
      ((Session.discover ".".toList [.ofString "**/*.css"] [.ofString "**/node_modules/**"]
        1).on workspace).1 = .ok [⟨[], ["a.css".toList]⟩] ∧
      ((Session.discover ".".toList [.ofString "**/*.css"] [.ofString "**/node_modules/**"]
        (-1)).on workspace).1 = .ok [] := by
  refine ⟨by decide +kernel, by decide +kernel, fun h => absurd h.maxFiles (by decide),
    by decide +kernel, by decide +kernel⟩

end CommandLine

end SwatchIndex
