/-
The cache of configurations cannot be seen.

Every entry of the cache was read from a file once: it is the document of some file that was at the
entry's place, with the entry's stamp (`wasRead_of_mem_cache`).  Loading adds such entries, clearing
takes them away, and files may change as they like without making this wrong, since it tells of the
past.

An entry is used while the file at its place has its stamp.  If no write gives a place a stamp that
it had before, then that file is still the one that was read (`content_of_stamp`), so reading it
again would give the same document.  This is why a load has the outcome that it would have without a
cache.
-/
import SwatchIndex.Proofs.Actions
import SwatchIndex.Proofs.Places
import Mathlib.Data.List.Infix

namespace SwatchIndex

namespace Config

/-! ### One load -/

theorem touched_of_leaves_id (tree : Tree) (check : Document → Except Rejection Document)
    (place : Place) (cache : Cache) : touched tree { check } place cache = cache := by
  unfold touched
  split
  · rfl
  · simp

theorem stamp?_eq_some_iff {tree : Tree} {place : Place} {stamp : Stamp} :
    stamp? tree place = some stamp ↔
      ∃ bytes refusal, tree.find? place = some (.file bytes stamp refusal) := by
  unfold stamp?
  split
  · next bytes mark refusal hfile => simp [hfile]
  · next hother =>
      exact ⟨nofun, fun ⟨bytes, refusal, hfile⟩ => (hother bytes stamp refusal hfile).elim⟩

/-- Reading a document depends on the content of the file only. -/
theorem readDocument_congr {tree tree' : Tree} {place : Place}
    (h : tree.read place = tree'.read place) (readers : Readers) (encoding : Text) :
    readDocument tree readers place encoding =
      readDocument tree' readers place encoding := by
  simp only [readDocument, readValue, h]

/-- What the cache says of the files of a tree is what reading them would say. -/
def Faithful (tree : Tree) (readers : Readers) (encoding : Text) (cache : Cache) : Prop :=
  ∀ place stamp document, stamp? tree place = some stamp →
    cache.lookup (place, stamp) = some document →
    readDocument tree readers place encoding = .ok document

/-- **A faithful cache finds what no cache would find.** -/
theorem fetch_of_faithful {tree : Tree} {readers : Readers} {encoding : Text} {cache : Cache}
    (h : Faithful tree readers encoding cache) (place : Place) :
    (fetch tree readers cache place encoding).1.map Found.document =
      (fetch tree readers [] place encoding).1.map Found.document := by
  have hplace := h place
  unfold stamp? at hplace
  unfold fetch
  split
  · rfl
  · rfl
  · next bytes stamp refusal hfile =>
      rw [hfile] at hplace
      cases hcached : cache.lookup (place, stamp) with
      | none => cases readDocument tree readers place encoding <;> rfl
      | some document => simp only [List.lookup_nil, hplace stamp document rfl hcached, Except.map]

/-- Fetching adds at most one entry, for a document that it has read. -/
theorem mem_fetch {tree : Tree} {readers : Readers} {encoding : Text} {cache : Cache}
    {place : Place} {entry : (Place × Stamp) × Document}
    (h : entry ∈ (fetch tree readers cache place encoding).2) :
    entry ∈ cache ∨ (entry.1.1 = place ∧ stamp? tree place = some entry.1.2 ∧
      readDocument tree readers place encoding = .ok entry.2) := by
  unfold fetch at h
  split at h
  · exact .inl h
  · exact .inl h
  · next bytes stamp refusal hfile =>
      split at h
      · exact .inl h
      · split at h
        · exact .inl h
        · next document hread =>
            rcases List.mem_cons.mp h with rfl | hold
            · exact .inr ⟨rfl, by simp only [stamp?, hfile], hread⟩
            · exact .inl hold

/-- What could not be read is not kept. -/
theorem fetch_of_error {tree : Tree} {readers : Readers} {encoding : Text} {cache : Cache}
    {place : Place} {e : ConfigError}
    (h : (fetch tree readers cache place encoding).1 = .error e) :
    (fetch tree readers cache place encoding).2 = cache := by
  unfold fetch at h ⊢
  split
  · rfl
  · rfl
  · next bytes stamp refusal hfile =>
      rw [hfile] at h
      dsimp only at h
      split
      · rfl
      · next hcached =>
          rw [hcached] at h
          dsimp only at h
          split
          · rfl
          · next document hread =>
              rw [hread] at h
              cases h

end Config

namespace Session

open Act

theorem placeOf_resolved (s : Session) (location : Location) :
    (s.placeOf location).resolved = s.placeOf location := by
  cases location <;> exact Place.resolved_resolved _

theorem on_findConfig (location : Location) (encoding : Text) (s : Session) :
    (findConfig location encoding).on s =
      match NullCharacter.inPath.check location.text with
      | .error e => (.error (.null e), s)
      | .ok _ =>
        match Config.fetch s.tree s.readers s.cache (s.placeOf location) encoding with
        | (.error e, cache) => (.error (.config e), { s with cache })
        | (.ok found, cache) =>
          (.ok (s.placeOf location, found.document),
            { s with cache }.reporting [if found.cached then .configCached (s.placeOf location)
              else .configLoaded (s.placeOf location)]) := by
  simp only [findConfig, on_bind, on_orFault, on_get, on_modify, on_report, on_pure]
  cases NullCharacter.inPath.check location.text with
  | error e => rfl
  | ok u =>
      simp only [Except.mapError]
      cases Config.fetch s.tree s.readers s.cache (s.placeOf location) encoding with
      | mk result cache => cases result <;> rfl

theorem on_findConfig_kept (location : Location) (encoding : Text) (s : Session) :
    ((findConfig location encoding).on s).2.tree = s.tree ∧
      ((findConfig location encoding).on s).2.readers = s.readers := by
  rw [on_findConfig]
  split
  · exact ⟨rfl, rfl⟩
  · split <;> exact ⟨rfl, rfl⟩

theorem on_findConfig_cache (location : Location) (encoding : Text) (s : Session) :
    ((findConfig location encoding).on s).2.cache =
      match NullCharacter.inPath.check location.text with
      | .error _ => s.cache
      | .ok _ => (Config.fetch s.tree s.readers s.cache (s.placeOf location) encoding).2 := by
  rw [on_findConfig]
  split
  · rfl
  · split
    · next hfetch => rw [hfetch]
    · next hfetch =>
        rw [hfetch]
        rfl

/-- What cannot be found leaves the cache as it was. -/
theorem on_findConfig_cache_of_error {location : Location} {encoding : Text} {s : Session}
    {fault : Fault} (h : ((findConfig location encoding).on s).1 = .error fault) :
    ((findConfig location encoding).on s).2.cache = s.cache := by
  rw [on_findConfig] at h ⊢
  split
  · rfl
  · next hnull =>
      rw [hnull] at h
      dsimp only at h
      split
      · next e cache hfetch =>
          have hcache := Config.fetch_of_error (congrArg Prod.fst hfetch)
          rw [hfetch] at hcache
          exact hcache
      · next found cache hfetch =>
          rw [hfetch] at h
          cases h

theorem on_findConfig_outcome (location : Location) (encoding : Text) (s : Session) :
    ((findConfig location encoding).on s).1 =
      match NullCharacter.inPath.check location.text with
      | .error e => .error (.null e)
      | .ok _ =>
        match (Config.fetch s.tree s.readers s.cache (s.placeOf location) encoding).1.map
          Config.Found.document with
        | .error e => .error (.config e)
        | .ok document => .ok (s.placeOf location, document) := by
  rw [on_findConfig]
  split
  · rfl
  · split <;> next hfetch =>
      rw [hfetch]
      rfl

/-- With a faithful cache, one finds what one would find with an empty cache. -/
theorem on_findConfig_of_faithful {encoding : Text} {s : Session}
    (h : Config.Faithful s.tree s.readers encoding s.cache) (location : Location) :
    ((findConfig location encoding).on s).1 =
      ((findConfig location encoding).on { s with cache := [] }).1 := by
  rw [on_findConfig_outcome, on_findConfig_outcome,
    Config.fetch_of_faithful h (s.placeOf location)]
  rfl

/-- A check has no part in the session behind a load. -/
theorem on_loadConfig (location : Location) (check : Document → Except Rejection Document)
    (encoding : Text) (s : Session) :
    (loadConfig location { check } encoding).on s =
      (((findConfig location encoding).on s).1.bind fun found =>
        (Config.validated { check } found.1 found.2).mapError .config,
        ((findConfig location encoding).on s).2) := by
  simp only [loadConfig, on_bind, on_orFault, on_modify, Config.touched_of_leaves_id]
  cases (findConfig location encoding).on s with
  | mk result t => cases result <;> rfl

end Session

namespace Caching

/-! ### Runs of requests -/

/-- What happens to configurations and to files. -/
inductive Request where
  | load (location : Location) (check : Document → Except Rejection Document)
  | clear
  | write (path : Text) (bytes : List UInt8) (stamp : Option Stamp)
  | remove (path : Text)

/-- The encoding of settings. -/
def encoding : Text := "utf-8".toList

/-- Loads a configuration in the encoding of settings. -/
def load (location : Location) (check : Document → Except Rejection Document) : Act Document :=
  Session.loadConfig location { check } encoding

/-- The session behind a request, whether it failed or not. -/
def after (s : Session) : Request → Session
  | .load location check => ((load location check).on s).2
  | .clear => (Session.clearCache.on s).2
  | .write path bytes stamp => ((Session.write path bytes stamp).on s).2
  | .remove path => ((Session.remove path).on s).2

/-- Where some requests lead, one after the other. -/
def run (s : Session) (requests : List Request) : Session := requests.foldl after s

/-- The place that a request gives a new file, and the stamp of that file. -/
def Request.mark? (s : Session) : Request → Option (Place × Stamp)
  | .write path _ stamp => some (s.resolvedPath path, stamp.getD (.tick s.clock))
  | _ => none

/-- A file at the place had the stamp before the requests or after some of them. -/
def HadStamp (s : Session) (requests : List Request) (place : Place) (stamp : Stamp) : Prop :=
  ∃ earlier ∈ requests.inits, Config.stamp? (run s earlier).tree place = some stamp

instance (s : Session) (requests : List Request) (place : Place) (stamp : Stamp) :
    Decidable (HadStamp s requests place stamp) :=
  inferInstanceAs (Decidable (∃ earlier ∈ requests.inits, _))

/-- No write gives a place a stamp that it had before.  The request after `earlier` is the one whose
number is the length of `earlier`. -/
def FreshWrites (s : Session) (requests : List Request) : Prop :=
  ∀ earlier ∈ requests.inits, ∀ request ∈ requests[earlier.length]?,
    ∀ mark ∈ request.mark? (run s earlier), ¬ HadStamp s earlier mark.1 mark.2

instance (s : Session) (requests : List Request) : Decidable (FreshWrites s requests) :=
  inferInstanceAs (Decidable (∀ earlier ∈ requests.inits, _))

variable {s : Session} {requests : List Request} {request : Request}

theorem run_concat (s : Session) (requests : List Request) (request : Request) :
    run s (requests ++ [request]) = after (run s requests) request := by
  simp only [run, List.foldl_append, List.foldl_cons, List.foldl_nil]

theorem FreshWrites.of_concat (h : FreshWrites s (requests ++ [request])) :
    FreshWrites s requests ∧
      ∀ mark ∈ request.mark? (run s requests), ¬ HadStamp s requests mark.1 mark.2 := by
  have hprefix : requests <+: requests ++ [request] := List.prefix_append _ _
  constructor
  · intro earlier hearlier next hnext
    have hlt : earlier.length < requests.length := (List.getElem?_eq_some_iff.mp hnext).1
    refine h earlier ?_ next (by rw [List.getElem?_append_left hlt]; exact hnext)
    exact (List.mem_inits _ _).mpr (((List.mem_inits _ _).mp hearlier).trans hprefix)
  · exact h requests ((List.mem_inits _ _).mpr hprefix) request (by simp)

/-! ### Files keep their content while they keep their stamp -/

theorem run_readers (s : Session) (requests : List Request) :
    (run s requests).readers = s.readers := by
  induction requests using List.reverseRecOn with
  | nil => rfl
  | append_singleton requests request ih =>
      rw [run_concat, ← ih]
      cases request with
      | load location check =>
          rw [after, load, Session.on_loadConfig]
          exact (Session.on_findConfig_kept location encoding _).2
      | _ => rfl

/-- A file is there after a request if the request gave it its stamp, or if it was there before. -/
theorem file_of_after {place : Place} {bytes : List UInt8} {stamp : Stamp}
    {refusal : Option FileProblem}
    (h : (after s request).tree.node? place = some (.file bytes stamp refusal)) :
    request.mark? s = some (place, stamp) ∨
      s.tree.node? place = some (.file bytes stamp refusal) := by
  cases request with
  | load location check =>
      rw [after, load, Session.on_loadConfig, (Session.on_findConfig_kept ..).1] at h
      exact .inr h
  | clear => exact .inr h
  | write path content mark =>
      rcases Tree.file_of_write h with ⟨rfl, -, rfl⟩ | hold
      · exact .inl rfl
      · exact .inr hold
  | remove path => exact .inr (Tree.file_of_remove h)

/-- **A stamp tells the content** of a file from the first moment of the run to its end. -/
theorem content_of_stamp (hfresh : FreshWrites s requests) {place : Place}
    (hplace : place.resolved = place) {earlier : List Request} (hearlier : earlier <+: requests)
    {content bytes : List UInt8} {stamp : Stamp} {refusal refusal' : Option FileProblem}
    (hthen : (run s earlier).tree.find? place = some (.file content stamp refusal'))
    (hnow : (run s requests).tree.node? place = some (.file bytes stamp refusal)) :
    bytes = content ∧ refusal = refusal' := by
  induction requests using List.reverseRecOn with
  | nil =>
      rw [List.prefix_nil.mp hearlier] at hthen
      exact Tree.content_unique hplace hthen hnow
  | append_singleton requests request ih =>
      rcases List.prefix_concat_iff.mp hearlier with rfl | hearlier
      · exact Tree.content_unique hplace hthen hnow
      obtain ⟨hfresh, hlast⟩ := hfresh.of_concat
      rw [run_concat] at hnow
      rcases file_of_after hnow with hmark | hold
      · have hhad : HadStamp s requests place stamp :=
          ⟨earlier, (List.mem_inits _ _).mpr hearlier, by simp only [Config.stamp?, hthen]⟩
        exact absurd hhad (hlast _ hmark)
      · exact ih hfresh hearlier hold

/-! ### Entries tell of the past -/

/-- At some moment of the run, the document was read from a file with the stamp at the place. -/
def WasRead (s : Session) (requests : List Request) (place : Place) (stamp : Stamp)
    (document : Document) : Prop :=
  ∃ earlier, earlier <+: requests ∧ Config.stamp? (run s earlier).tree place = some stamp ∧
    Config.readDocument (run s earlier).tree s.readers place encoding = .ok document

/-- A request keeps entries or drops them, and a load may add one that it has read. -/
theorem mem_cache_after {entry : (Place × Stamp) × Document} (h : entry ∈ (after s request).cache) :
    entry ∈ s.cache ∨ (entry.1.1.resolved = entry.1.1 ∧
      Config.stamp? s.tree entry.1.1 = some entry.1.2 ∧
      Config.readDocument s.tree s.readers entry.1.1 encoding = .ok entry.2) := by
  cases request with
  | load location check =>
      rw [after, load, Session.on_loadConfig, Session.on_findConfig_cache] at h
      split at h
      · exact .inl h
      · rcases Config.mem_fetch h with hold | ⟨hplace, hstamp, hread⟩
        · exact .inl hold
        · rw [hplace]
          exact .inr ⟨s.placeOf_resolved location, hstamp, hread⟩
  | clear => cases h
  | write path bytes stamp => exact .inl h
  | remove path => exact .inl h

/-- **Every entry was read** at some moment of the run, if the cache was empty at its start. -/
theorem wasRead_of_mem_cache (hcache : s.cache = []) {entry : (Place × Stamp) × Document}
    (h : entry ∈ (run s requests).cache) :
    entry.1.1.resolved = entry.1.1 ∧ WasRead s requests entry.1.1 entry.1.2 entry.2 := by
  induction requests using List.reverseRecOn with
  | nil =>
      have hstart : entry ∈ s.cache := h
      rw [hcache] at hstart
      cases hstart
  | append_singleton requests request ih =>
      have hprefix : requests <+: requests ++ [request] := List.prefix_append _ _
      rw [run_concat] at h
      rcases mem_cache_after h with hold | ⟨hplace, hstamp, hread⟩
      · obtain ⟨hplace, earlier, hearlier, hread⟩ := ih hold
        exact ⟨hplace, earlier, hearlier.trans hprefix, hread⟩
      · rw [run_readers] at hread
        exact ⟨hplace, requests, hprefix, hstamp, hread⟩

/-- Entries whose stamps are still there tell of the present as well. -/
theorem faithful_run (hcache : s.cache = []) (hfresh : FreshWrites s requests) :
    Config.Faithful (run s requests).tree (run s requests).readers encoding
      (run s requests).cache := by
  intro place stamp document hnow hentry
  obtain ⟨l₁, l₂, hl, -⟩ := List.lookup_eq_some_iff.mp hentry
  have hmem : ((place, stamp), document) ∈ (run s requests).cache := by simp [hl]
  obtain ⟨hplace, earlier, hearlier, hthen, hread⟩ := wasRead_of_mem_cache hcache hmem
  obtain ⟨content, refusal', hthen⟩ := Config.stamp?_eq_some_iff.mp hthen
  obtain ⟨bytes, refusal, hnow⟩ := Config.stamp?_eq_some_iff.mp hnow
  obtain ⟨hcontent, hrefusal⟩ :=
    content_of_stamp hfresh hplace hearlier hthen (Tree.node?_of_find? hplace hnow)
  have hsame : (run s requests).tree.read place = (run s earlier).tree.read place := by
    rw [Tree.read_of_find? hnow, Tree.read_of_find? hthen, hcontent, hrefusal]
  rw [run_readers, Config.readDocument_congr hsame, hread]

/-! ### Loading with the cache and without -/

/--
**The cache cannot be seen.**  Wherever a run has come to in which no write gives a place a stamp
that it had before, a load has the outcome that it would have with an empty cache.  A load that
cannot read its document leaves the cache as it was.  And the cache behind a load is the same for
every check, so neither what a check refuses nor what it makes of a document is kept.
-/
theorem load_eq_load_uncached (s : Session) (requests : List Request) (hcache : s.cache = [])
    (hfresh : FreshWrites s requests) (location : Location)
    (check : Document → Except Rejection Document) :
    ((load location check).on (run s requests)).1 =
        ((load location check).on { run s requests with cache := [] }).1 ∧
      (∀ fault, ((load location .ok).on (run s requests)).1 = .error fault →
        (after (run s requests) (.load location check)).cache = (run s requests).cache) ∧
      ∀ check', (after (run s requests) (.load location check')).cache =
        (after (run s requests) (.load location check)).cache := by
  have hfaithful := faithful_run hcache hfresh
  generalize run s requests = now at hfaithful ⊢
  simp only [after, load, Session.on_loadConfig]
  refine ⟨?_, fun fault hfault => ?_, fun _ => trivial⟩
  · rw [Session.on_findConfig_of_faithful hfaithful]
  · cases hfound : ((Session.findConfig location encoding).on now).1 with
    | error e => exact Session.on_findConfig_cache_of_error hfound
    | ok found =>
        rw [hfound] at hfault
        cases hfault

/-- A file is written, loaded, and written anew with a list in the place of the object. -/
def rewriting : List Request :=
  [.write "a.json".toList [123, 125] none, .load (.path (.parse "a.json".toList)) .ok,
    .write "a.json".toList [91, 93] none]

/-- The object is still in the cache, and the list is refused all the same. -/
theorem load_eq_load_uncached_sample :
    FreshWrites (.start ⟨[], []⟩ ⟨[], ["lib".toList]⟩) rewriting ∧
      (run (.start ⟨[], []⟩ ⟨[], ["lib".toList]⟩) rewriting).cache.length = 1 ∧
      ((load (.path (.parse "./a.json".toList)) .ok).on
        (run (.start ⟨[], []⟩ ⟨[], ["lib".toList]⟩) rewriting)).1.isOk = false := by
  refine ⟨by decide +kernel, by decide +kernel, ?_⟩
  rw [(load_eq_load_uncached _ rewriting rfl (by decide +kernel) _ .ok).1]
  decide +kernel

/-- Refuses every document. -/
def refuse (_ : Document) : Except Rejection Document := .error (.failure "refused")

/-- A load that fails on account of its check leaves the document that it has read in the cache. -/
theorem load_refused_fills_cache :
    (run (.start ⟨[], []⟩ ⟨[], ["lib".toList]⟩) (rewriting.take 1)).cache = [] ∧
      ((load (.path (.parse "a.json".toList)) refuse).on
        (run (.start ⟨[], []⟩ ⟨[], ["lib".toList]⟩) (rewriting.take 1))).1 =
          .error (.config (.validatorFailed "a.json".toList "refused")) ∧
      ((load (.path (.parse "a.json".toList)) refuse).on
        (run (.start ⟨[], []⟩ ⟨[], ["lib".toList]⟩) (rewriting.take 1))).2.cache.length = 1 := by
  exact ⟨rfl, rfl, by decide +kernel⟩

/-- With the stamp of the object, the list is not seen. -/
example :
    ((load (.path (.parse "a.json".toList)) .ok).on
      (run (.start ⟨[], []⟩ ⟨[], ["lib".toList]⟩)
        [.write "a.json".toList [123, 125] (some (.tick 5)),
          .load (.path (.parse "a.json".toList)) .ok,
          .write "a.json".toList [91, 93] (some (.tick 5))])).1.isOk = true := by
  decide +kernel

end Caching

end SwatchIndex
