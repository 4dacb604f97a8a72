/-
What actions do to a session.

An action has an outcome and leaves a session behind, and `Act.on` gives both.  Actions are made of
a few steps: one that looks at the session, one that changes it, one that reports and one that may
fail.  What these do is said once, and what they do one after the other is `Act.on_bind`.  So each
action of the library has one equation for its outcome and the session behind it, and whatever is
proved about a run of actions goes by these equations.

Reporting changes the journal only, so `Session.reporting` leaves everything else as it is.
-/
import SwatchIndex.Session

namespace SwatchIndex

variable {α β ε : Type}

/-- The outcome of an action, and the session that it leaves behind. -/
def Act.on (a : Act α) (s : Session) : Except Fault α × Session := a.run.run s

namespace Act

theorem on_pure (x : α) (s : Session) : (pure x : Act α).on s = (.ok x, s) := rfl

/-- What comes after an action that fails is not done. -/
theorem on_bind (a : Act α) (f : α → Act β) (s : Session) :
    (a >>= f).on s =
      match a.on s with
      | (.ok x, t) => (f x).on t
      | (.error e, t) => (.error e, t) := by
  show (match a.run.run s with | (outcome, t) => (ExceptT.bindCont f outcome).run t) = _
  unfold Act.on
  cases a.run.run s with
  | mk outcome t => cases outcome <;> rfl

/-- The outcome of an action and of what comes after it. -/
theorem on_bind_fst (a : Act α) (f : α → Act β) (s : Session) :
    ((a >>= f).on s).1 = (do let x ← (a.on s).1; ((f x).on (a.on s).2).1) := by
  rw [on_bind]
  cases a.on s with
  | mk outcome t => cases outcome <;> rfl

theorem on_get (s : Session) : (get : Act Session).on s = (.ok s, s) := rfl

theorem on_modify (f : Session → Session) (s : Session) :
    (modify f : Act Unit).on s = (.ok (), f s) := rfl

theorem on_orFault (fault : ε → Fault) (outcome : Except ε α) (s : Session) :
    (Session.orFault fault outcome).on s = (outcome.mapError fault, s) := by
  cases outcome <;> rfl

end Act

namespace Session

open Act

/-- The session with some events reported. -/
def reporting (s : Session) (events : List Event) : Session := ((report events).on s).2

theorem on_report (events : List Event) (s : Session) :
    (report events).on s = (.ok (), s.reporting events) := rfl

@[simp] theorem reporting_nextVersion (s : Session) (events : List Event) :
    (s.reporting events).nextVersion = s.nextVersion := rfl

/-! ### Registries -/

theorem on_takeVersion (s : Session) :
    takeVersion.on s = (.ok s.nextVersion, { s with nextVersion := s.nextVersion + 1 }) := rfl

theorem on_construct (entries : List (Text × Definition)) (collisions : List Collision)
    (s : Session) :
    (construct entries collisions).on s =
      (.ok (.ofEntries entries collisions s.nextVersion),
        { s with nextVersion := s.nextVersion + 1 }) := rfl

theorem on_build (units : List (List Definition)) (s : Session) :
    (build units).on s =
      (.ok (Registry.build units s.nextVersion),
        { s with nextVersion := s.nextVersion + 1 }.reporting
          (Indexing.buildEvents (Registry.build units s.nextVersion))) := by
  simp only [build, on_bind, on_takeVersion, on_report, on_pure]

/-- Without a hop to make, resolving gives the registry itself and takes no version. -/
theorem on_resolve_of_le {depth : Int} (h : depth ≤ 0) (r : Registry) (s : Session) :
    (resolve r depth).on s = (.ok r, s.reporting (Indexing.resolveEvents r depth)) := by
  simp only [resolve, on_bind, on_report, if_pos h, on_pure]

theorem on_resolve_of_lt {depth : Int} (h : ¬ depth ≤ 0) (r : Registry) (s : Session) :
    (resolve r depth).on s =
      (.ok (r.resolve depth s.nextVersion),
        { s.reporting (Indexing.resolveEvents r depth) with
          nextVersion := s.nextVersion + 1 }) := by
  simp only [resolve, on_bind, on_report, if_neg h, on_takeVersion, on_pure, reporting_nextVersion]

theorem on_index (settings : Settings) (units : List SourceUnit) (s : Session) :
    (index settings units).on s =
      ((Indexing.index settings units s.nextVersion).1.mapError .numeral,
        { s.reporting (Indexing.indexEvents settings units s.nextVersion) with
          nextVersion := (Indexing.index settings units s.nextVersion).2 }) := by
  simp only [index, on_bind, on_get, on_report, on_modify, on_orFault]

theorem on_publish (h : Holder) (r : Registry) (s : Session) :
    (publish h r).on s = (.ok (h.current, ⟨r⟩), s.reporting [.published r h.current]) := by
  simp only [publish, Holder.publish, on_bind, on_report, on_pure]

/-! ### Workspaces -/

theorem on_discover (path : Text) (included excluded : List Spelling) (bound : Int) (s : Session) :
    (discover path included excluded bound).on s =
      match NullCharacter.inPath.check path with
      | .error e => (.error (.null e), s)
      | .ok _ =>
        ((SwatchIndex.discover s.tree (s.resolvedPath path) included excluded bound).mapError
            .discovery,
          s.reporting
            (Reading.discoveryEvents s.tree (s.resolvedPath path) included excluded bound)) := by
  simp only [discover, on_bind, on_orFault, on_get, on_report]
  cases NullCharacter.inPath.check path <;> rfl

theorem on_discover_kept (path : Text) (included excluded : List Spelling) (bound : Int)
    (s : Session) :
    ((discover path included excluded bound).on s).2.tree = s.tree ∧
      ((discover path included excluded bound).on s).2.readers = s.readers ∧
      ((discover path included excluded bound).on s).2.nextVersion = s.nextVersion := by
  rw [on_discover]
  cases NullCharacter.inPath.check path <;> exact ⟨rfl, rfl, rfl⟩

theorem on_readFiles (encoding : Spelling) (files : List Place) (s : Session) :
    (readFiles encoding files).on s =
      ((Reading.units s.tree s.readers.codecs encoding files).mapError .reading,
        s.reporting (Reading.filesEvents s.tree s.readers.codecs encoding files)) := by
  simp only [readFiles, on_bind, on_get, on_report, on_orFault]

/-- A workspace is discovered, read and indexed, and the first failure ends it. -/
theorem on_indexWorkspace_fst (path : Text) (settings : Settings) (s : Session) :
    ((indexWorkspace path settings).on s).1 = (do
      let files ←
        ((discover path settings.included settings.excluded settings.maxFiles).on s).1
      let units ←
        (Reading.units s.tree s.readers.codecs settings.encoding files).mapError .reading
      (Indexing.index settings units s.nextVersion).1.mapError .numeral) := by
  obtain ⟨htree, hreaders, hnext⟩ :=
    on_discover_kept path settings.included settings.excluded settings.maxFiles s
  simp only [indexWorkspace, on_bind_fst, on_readFiles, on_index, htree, hreaders, hnext,
    reporting_nextVersion]

end Session

end SwatchIndex
