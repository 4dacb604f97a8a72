/-
Loading a configuration again, in another encoding.

The cache goes by the place and the stamp of a file, and a document that is in it is given out
whatever the encoding is (`fetch_of_cached`).  So the first load that reads a file decides what the
later ones find there.  A load that fails leaves nothing behind, and what a load has found stays in
the cache (`cached?_of_found`), also while other files are loaded and while validators edit what
they are handed (`IsCached.run`).

A load in one encoding can therefore change what a load in another one finds, but only if it is the
first to read the file and if the two do not read the same.
-/
import SwatchIndex.Proofs.Caching
import SwatchIndex.Proofs.Outcomes

namespace SwatchIndex

namespace Config

variable {tree : Tree} {readers : Readers} {cache : Cache} {place : Place} {document : Document}
  {encoding : Text}

/-! ### What the cache has for a place -/

/-- The document that the cache has for the file at a place. -/
def cached? (tree : Tree) (cache : Cache) (place : Place) : Option Document :=
  (stamp? tree place).bind fun stamp => cache.lookup (place, stamp)

/-- What is found at a place. -/
def found (tree : Tree) (readers : Readers) (cache : Cache) (place : Place) (encoding : Text) :
    Except ConfigError Document :=
  (fetch tree readers cache place encoding).1.map Found.document

/-- A directory is no document. -/
theorem readDocument_of_directory {access : Access}
    (h : tree.find? place = some (.directory access)) (readers : Readers) (encoding : Text) :
    ∃ e, readDocument tree readers place encoding = .error e := by
  have hread : tree.read place = .error .isDirectory := by
    obtain ⟨real, hfound⟩ := Tree.find?_eq_some_iff.mp h
    obtain ⟨hreal, hnode⟩ := Tree.exists_of_lookUp hfound
    simp only [Tree.read, hreal, bind, Except.bind, hnode]
    rfl
  cases hdocument : readDocument tree readers place encoding with
  | error e => exact ⟨e, rfl⟩
  | ok document =>
      obtain ⟨value, hvalue, -⟩ := bind_eq_ok_iff.mp hdocument
      obtain ⟨read, -, hvalue⟩ := bind_eq_ok_iff.mp hvalue
      obtain ⟨-, -, hvalue⟩ := bind_eq_ok_iff.mp hvalue
      obtain ⟨bytes, hbytes, -⟩ := bind_eq_ok_iff.mp hvalue
      rw [hread] at hbytes
      cases hbytes

/-- A document that is in the cache is found in every encoding. -/
theorem fetch_of_cached (h : cached? tree cache place = some document) (readers : Readers)
    (encoding : Text) :
    fetch tree readers cache place encoding = (.ok ⟨document, true⟩, cache) := by
  obtain ⟨stamp, hstamp, hlookup⟩ := Option.bind_eq_some_iff.mp h
  obtain ⟨bytes, refusal, hfile⟩ := stamp?_eq_some_iff.mp hstamp
  simp only [fetch, hfile, hlookup]

/-- A document that is not in the cache cannot be found, or it is read and put there. -/
theorem fetch_of_not_cached (h : cached? tree cache place = none) (readers : Readers)
    (encoding : Text) :
    (∃ e, fetch tree readers cache place encoding = (.error e, cache)) ∨
      ∃ stamp document, stamp? tree place = some stamp ∧
        fetch tree readers cache place encoding =
          (.ok ⟨document, false⟩, ((place, stamp), document) :: cache) := by
  unfold fetch
  split
  · exact .inl ⟨_, rfl⟩
  · next access hdirectory =>
      obtain ⟨e, he⟩ := readDocument_of_directory hdirectory readers encoding
      exact .inl ⟨e, by rw [he]; rfl⟩
  · next bytes stamp refusal hfile =>
      have hstamp : stamp? tree place = some stamp :=
        stamp?_eq_some_iff.mpr ⟨bytes, refusal, hfile⟩
      have hlookup : cache.lookup (place, stamp) = none := by simpa [cached?, hstamp] using h
      rw [hlookup]
      cases readDocument tree readers place encoding with
      | error e => exact .inl ⟨e, rfl⟩
      | ok document => exact .inr ⟨stamp, document, hstamp, rfl⟩

/-- What has been found is in the cache. -/
theorem cached?_of_found (h : found tree readers cache place encoding = .ok document) :
    cached? tree (fetch tree readers cache place encoding).2 place = some document := by
  unfold found at h
  cases hcached : cached? tree cache place with
  | some cached =>
      rw [fetch_of_cached hcached] at h ⊢
      cases h
      exact hcached
  | none =>
      rcases fetch_of_not_cached hcached readers encoding with
        ⟨e, hfetch⟩ | ⟨stamp, read, hstamp, hfetch⟩
      · rw [hfetch] at h
        cases h
      · rw [hfetch] at h ⊢
        cases h
        simp [cached?, hstamp]

/-- A document in the cache stays there while files are loaded. -/
theorem cached?_fetch (h : cached? tree cache place = some document) (readers : Readers)
    (other : Place) (encoding : Text) :
    cached? tree (fetch tree readers cache other encoding).2 place = some document := by
  cases hcached : cached? tree cache other with
  | some cached => rwa [fetch_of_cached hcached]
  | none =>
      rcases fetch_of_not_cached hcached readers encoding with
        ⟨e, hfetch⟩ | ⟨stamp, read, -, hfetch⟩
      · rwa [hfetch]
      · rw [hfetch]
        -- The entry that comes in front is for a place that had none.
        have hne : place ≠ other := by
          rintro rfl
          rw [h] at hcached
          cases hcached
        obtain ⟨mark, hmark, hlookup⟩ := Option.bind_eq_some_iff.mp h
        simp [cached?, hmark, Table.lookup_cons_eq, hne, hlookup]

/-- A validator may edit the documents of the cache, but it takes none away. -/
theorem isSome_cached?_touched (tree : Tree) (v : Validator) (cache : Cache) (place other : Place) :
    (cached? tree (touched tree v other cache) place).isSome =
      (cached? tree cache place).isSome := by
  unfold touched
  split
  · rfl
  · next stamp hstamp =>
      unfold cached?
      cases stamp? tree place with
      | none => rfl
      | some mark =>
          simp only [Option.bind_some]
          rw [Table.lookup_map_snd
            (fun key document => if key == (other, stamp) then v.leaves document else document)]
          exact Option.isSome_map

end Config

namespace Session

open Act

variable {location : Location} {encoding : Text} {s : Session}

/-! ### Two loads -/

theorem on_findConfig_placeOf (location : Location) (encoding : Text) (s : Session)
    (other : Location) :
    ((findConfig location encoding).on s).2.placeOf other = s.placeOf other := by
  rw [on_findConfig]
  split
  · rfl
  · split <;> cases other <;> rfl

theorem on_findConfig_eq_ok_iff {entry : Place × Document} :
    ((findConfig location encoding).on s).1 = .ok entry ↔
      NullCharacter.inPath.check location.text = .ok () ∧ s.placeOf location = entry.1 ∧
        Config.found s.tree s.readers s.cache (s.placeOf location) encoding =
          .ok entry.2 := by
  rw [on_findConfig_outcome, Config.found]
  cases NullCharacter.inPath.check location.text with
  | error e => simp
  | ok u =>
      cases (Config.fetch s.tree s.readers s.cache (s.placeOf location) encoding).1.map
        Config.Found.document with
      | error e => simp
      | ok document => simp [Prod.ext_iff]

/-- What is found depends on the files, the cache and the place only. -/
theorem on_findConfig_congr {t : Session} (htree : t.tree = s.tree)
    (hreader : t.readers = s.readers) (hcache : t.cache = s.cache)
    (hplace : t.placeOf location = s.placeOf location) (encoding : Text) :
    ((findConfig location encoding).on t).1 = ((findConfig location encoding).on s).1 := by
  rw [on_findConfig_outcome, on_findConfig_outcome, htree, hreader, hcache, hplace]

/-- **The first load that finds a document decides**, and one that finds none has no part in it. -/
theorem on_findConfig_again (location : Location) (first second : Text) (s : Session) :
    ((findConfig location second).on ((findConfig location first).on s).2).1 =
      (((findConfig location first).on s).1 <|> ((findConfig location second).on s).1) := by
  obtain ⟨htree, hreader⟩ := on_findConfig_kept location first s
  have hplace := on_findConfig_placeOf location first s location
  cases hfirst : ((findConfig location first).on s).1 with
  | error fault =>
      exact on_findConfig_congr htree hreader (on_findConfig_cache_of_error hfirst) hplace second
  | ok entry =>
      obtain ⟨hnull, hentry, hfound⟩ := on_findConfig_eq_ok_iff.mp hfirst
      have hcached := Config.cached?_of_found hfound
      refine on_findConfig_eq_ok_iff.mpr ⟨hnull, hplace.trans hentry, ?_⟩
      rw [htree, hreader, hplace, on_findConfig_cache, hnull]
      simp only [Config.found, Config.fetch_of_cached hcached, Except.map]

/-- A load finds its document, lets the validator edit the cache, and leaves the rest alone. -/
theorem on_loadConfig_snd (location : Location) (v : Validator) (encoding : Text) (s : Session) :
    ((loadConfig location v encoding).on s).2 =
      match (findConfig location encoding).on s with
      | (.ok entry, t) => { t with cache := Config.touched t.tree v entry.1 t.cache }
      | (.error _, t) => t := by
  simp only [loadConfig, on_bind, on_orFault, on_modify]
  cases (findConfig location encoding).on s with
  | mk result t => cases result <;> rfl

end Session

namespace Reloading

/-! ### Runs of loads -/

/-- A load of a configuration. -/
structure Load where
  location : Location
  validator : Validator
  encoding : Text

/-- A load without a validator. -/
def Load.plain (location : Location) (encoding : Text) : Load :=
  ⟨location, Session.anyDocument, encoding⟩

/-- The action of a load. -/
def Load.act (l : Load) : Act Document := Session.loadConfig l.location l.validator l.encoding

/-- The session behind a load, whether it failed or not. -/
def after (s : Session) (l : Load) : Session := (l.act.on s).2

/-- Where some loads lead, one after the other.  No file changes on the way. -/
def run (s : Session) (loads : List Load) : Session := loads.foldl after s

/-- What a load without a validator gives. -/
def outcome (s : Session) (location : Location) (encoding : Text) : Except Fault Document :=
  ((Load.plain location encoding).act.on s).1

variable {s : Session} {place : Place}

theorem outcome_eq (s : Session) (location : Location) (encoding : Text) :
    outcome s location encoding =
      ((Session.findConfig location encoding).on s).1.map Prod.snd := by
  rw [outcome, Load.act, Load.plain, Session.anyDocument, Session.on_loadConfig]
  cases ((Session.findConfig location encoding).on s).1 <;> rfl

theorem after_plain (s : Session) (location : Location) (encoding : Text) :
    after s (.plain location encoding) = ((Session.findConfig location encoding).on s).2 := by
  rw [after, Load.act, Load.plain, Session.anyDocument, Session.on_loadConfig]

theorem after_placeOf (s : Session) (l : Load) (location : Location) :
    (after s l).placeOf location = s.placeOf location := by
  rw [← Session.on_findConfig_placeOf l.location l.encoding s location, after, Load.act,
    Session.on_loadConfig_snd]
  cases (Session.findConfig l.location l.encoding).on s with
  | mk result t =>
      cases result with
      | error fault => rfl
      | ok entry => cases location <;> rfl

/-- The document of the file at a place is in the cache. -/
def IsCached (s : Session) (place : Place) : Prop := (Config.cached? s.tree s.cache place).isSome

/-- The cache behind a load has what the cache has that the document was looked up in. -/
theorem isCached_after_iff (s : Session) (l : Load) (place : Place) :
    IsCached (after s l) place ↔
      IsCached ((Session.findConfig l.location l.encoding).on s).2 place := by
  rw [after, Load.act, Session.on_loadConfig_snd]
  cases (Session.findConfig l.location l.encoding).on s with
  | mk result t =>
      cases result with
      | error fault => rfl
      | ok entry =>
          unfold IsCached
          rw [Config.isSome_cached?_touched]

/-- What is in the cache stays there over a load. -/
theorem IsCached.after (h : IsCached s place) (l : Load) : IsCached (after s l) place := by
  rw [isCached_after_iff]
  unfold IsCached
  rw [(Session.on_findConfig_kept ..).1, Session.on_findConfig_cache]
  split
  · exact h
  · obtain ⟨document, hdocument⟩ := Option.isSome_iff_exists.mp h
    rw [Config.cached?_fetch hdocument]
    rfl

theorem IsCached.run (h : IsCached s place) (loads : List Load) : IsCached (run s loads) place := by
  induction loads generalizing s with
  | nil => exact h
  | cons l rest ih => exact ih (h.after l)

/-- A load puts the document that it has found into the cache. -/
theorem isCached_of_outcome {l : Load} {document : Document}
    (h : outcome s l.location l.encoding = .ok document) :
    IsCached (after s l) (s.placeOf l.location) := by
  rw [outcome_eq] at h
  obtain ⟨entry, hentry, -⟩ := map_eq_ok_iff.mp h
  obtain ⟨hnull, -, hfound⟩ := Session.on_findConfig_eq_ok_iff.mp hentry
  rw [isCached_after_iff]
  unfold IsCached
  rw [(Session.on_findConfig_kept ..).1, Session.on_findConfig_cache, hnull]
  simp only [Config.cached?_of_found hfound, Option.isSome_some]

/-- A document that is in the cache is the same in every encoding. -/
theorem IsCached.outcome_eq_outcome {location : Location} (h : IsCached s (s.placeOf location))
    (first second : Text) : outcome s location first = outcome s location second := by
  obtain ⟨document, hdocument⟩ := Option.isSome_iff_exists.mp h
  rw [outcome_eq, outcome_eq, Session.on_findConfig_outcome, Session.on_findConfig_outcome,
    Config.fetch_of_cached hdocument, Config.fetch_of_cached hdocument]

theorem run_placeOf (s : Session) (loads : List Load) (location : Location) :
    (run s loads).placeOf location = s.placeOf location := by
  induction loads generalizing s with
  | nil => rfl
  | cons l rest ih => exact (ih (after s l)).trans (after_placeOf s l location)

/-- Once a load of the run has found the document of a place, it is in the cache. -/
theorem isCached_run_of_outcome {earlier later : List Load} {l : Load} {document : Document}
    (h : outcome (run s earlier) l.location l.encoding = .ok document) :
    IsCached (run s (earlier ++ l :: later)) (s.placeOf l.location) := by
  have hthen := isCached_of_outcome h
  rw [run_placeOf] at hthen
  rw [run, List.foldl_append]
  exact hthen.run later

/-- What a load gives behind another one at the same location. -/
theorem outcome_after_plain (s : Session) (location : Location) (first second : Text) :
    outcome (after s (.plain location first)) location second =
      (outcome s location first <|> outcome s location second) := by
  rw [after_plain, outcome_eq, outcome_eq, outcome_eq, Session.on_findConfig_again]
  cases ((Session.findConfig location first).on s).1 <;> rfl

/-! ### Loading in two encodings -/

/--
**The first encoding that reads a file stays.**  Wherever a run of loads has come to, a load in a
second encoding gives what the load in a first encoding before it gave, or, if that one failed, what
it would have given without it.  So the first load makes no difference to the second exactly if it
fails or if each of them alone gives the same; and this they do, whatever the encodings are, once a
load of the run has found the document.
-/
theorem outcome_in_second_encoding (s : Session) (loads : List Load) (location : Location)
    (first second : Text) :
    outcome (after (run s loads) (.plain location first)) location second =
        (outcome (run s loads) location first <|> outcome (run s loads) location second) ∧
      (outcome (after (run s loads) (.plain location first)) location second =
          outcome (run s loads) location second ↔
        (∃ fault, outcome (run s loads) location first = .error fault) ∨
          outcome (run s loads) location first = outcome (run s loads) location second) ∧
      ∀ earlier l later, loads = earlier ++ l :: later →
        s.placeOf l.location = s.placeOf location →
        (∃ document, outcome (run s earlier) l.location l.encoding = .ok document) →
        outcome (run s loads) location first = outcome (run s loads) location second := by
  have hagain := outcome_after_plain (run s loads) location first second
  refine ⟨hagain, ?_, ?_⟩
  · rw [hagain]
    cases hfirst : outcome (run s loads) location first with
    | error fault => exact iff_of_true rfl (.inl ⟨fault, rfl⟩)
    | ok document => exact ⟨.inr, fun h => h.resolve_left nofun⟩
  · rintro earlier l later rfl hplace ⟨document, hfound⟩
    have hcached : IsCached (run s (earlier ++ l :: later)) (s.placeOf l.location) :=
      isCached_run_of_outcome hfound
    rw [hplace, ← run_placeOf s (earlier ++ l :: later) location] at hcached
    exact hcached.outcome_eq_outcome first second

/-- A session with a file in it. -/
def accented : Session :=
  ((Session.write "a.json".toList [123, 34, 0xc3, 0xa9, 34, 58, 49, 125] none).on
    (.start ⟨[], []⟩ ⟨[], ["lib".toList]⟩)).2

/-- Where the file is. -/
def accentedPath : Location := .path (.parse "a.json".toList)

/-- The second load finds what the first one has read, once and for all. -/
theorem outcome_in_second_encoding_sample :
    (outcome (run accented [.plain accentedPath "utf-8".toList]) accentedPath
        "ascii".toList).isOk = true ∧
      outcome (run accented [.plain accentedPath "utf-8".toList]) accentedPath "ascii".toList =
        outcome (run accented [.plain accentedPath "utf-8".toList]) accentedPath
          "latin-1".toList := by
  have hread : ∃ document, outcome accented accentedPath "utf-8".toList = .ok document := ⟨_, rfl⟩
  exact ⟨by decide +kernel, (outcome_in_second_encoding accented
    [.plain accentedPath "utf-8".toList] accentedPath "ascii".toList "latin-1".toList).2.2
    [] _ [] rfl rfl hread⟩

/-- A file that is no text in one encoding is found in it behind a load in another. -/
theorem outcome_differs_behind_load :
    (outcome accented accentedPath "ascii".toList).isOk = false ∧
      (outcome (after accented (.plain accentedPath "utf-8".toList)) accentedPath
        "ascii".toList).isOk = true := by
  decide +kernel

end Reloading

end SwatchIndex
