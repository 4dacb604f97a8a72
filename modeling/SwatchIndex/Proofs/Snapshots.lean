/-
Snapshots that are held and replaced.

A program makes registries, hands them to holders and asks whether the one that it works with is
still the one that is held.  A holder answers by comparing versions.  What is meant is whether the
two are one and the same registry, even among others with the same entries.  So a run keeps a list
of the registries that were made, and one and the same is said by the place in that list.

The two agree because a version is given to one registry only.  `Rising` says so: the registries
that were made have rising versions, and the counter is ahead of them.  Every request that makes
registries keeps it (`Makes`), one that makes two also, and no other request makes any.

What a holder gave back, followed by what it holds now, are the registries that it was given, in
order.  This is what holds of each holder along a run (`Keeps`), and only publishing changes it.
-/
import SwatchIndex.Proofs.Failing
import Mathlib.Data.List.Forall2

namespace SwatchIndex

namespace Snapshots

/-! ### Runs of requests -/

/-- What a program asks for.  Registries and holders go by their numbers, in the order in which they
are made. -/
inductive Request where
  | construct (entries : List (Text × Definition)) (collisions : List Collision)
  | build (units : List (List Definition))
  | resolve (registry : Nat) (depth : Int)
  | index (settings : Settings) (units : List SourceUnit)
  /-- A new holder, of a registry that is there or of a new one without entries. -/
  | hold (initial : Option Nat)
  | publish (holder registry : Nat)
  | current (holder : Nat)
  | isStale (holder registry : Nat)

/-- What a program is answered. -/
inductive Answer where
  /-- A registry and its number. -/
  | registry (number : Nat) (r : Registry)
  /-- The number of a new holder, and that of its first registry. -/
  | holder (number initial : Nat)
  /-- The registry that was current up to now. -/
  | replaced (previous : Registry)
  | current (r : Registry)
  | stale (answer : Bool)
  | failed (fault : Fault)
  /-- There is no registry or no holder of that number. -/
  | unknown

/-- Where a run has come to. -/
structure State where
  session : Session
  /-- The registries that were made, in order. -/
  made : List Registry
  /-- The holders that were made, in order. -/
  holders : List Holder
  /-- The requests and their answers, in order. -/
  log : List (Request × Answer)

namespace State

/-- Where a run starts. -/
def start (s : Session) : State := ⟨s, [], [], []⟩

/-- Makes a registry by an action that makes those in `before` on the way. -/
def make (q : State) (a : Act Registry) (before : List Registry) : Answer × State :=
  match a.on q.session with
  | (.ok r, session) =>
    (.registry (q.made.length + before.length) r,
      { q with session, made := q.made ++ (before ++ [r]) })
  | (.error fault, session) => (.failed fault, { q with session })

/-- Gives back the registry of a number by an action that makes none. -/
def giveBack (q : State) (a : Act Registry) (number : Nat) : Answer × State :=
  match a.on q.session with
  | (.ok r, session) => (.registry number r, { q with session })
  | (.error fault, session) => (.failed fault, { q with session })

/-- The registry that an index makes before it resolves the aliases. -/
def merged (settings : Settings) (units : List SourceUnit) (next : Nat) : List Registry :=
  match Indexing.parseUnits settings units with
  | .ok parsed => if settings.resolveDepth ≤ 0 then [] else [Registry.build parsed next]
  | .error _ => []

/-- A new holder of the registry of a number. -/
def hold (q : State) (number : Nat) (r : Registry) : Answer × State :=
  (.holder q.holders.length number, { q with holders := q.holders ++ [⟨r⟩] })

/-- Makes a registry the current one of a holder. -/
def publish (q : State) (number : Nat) (h : Holder) (r : Registry) : Answer × State :=
  match (Session.publish h r).on q.session with
  | (.ok (previous, h), session) =>
    (.replaced previous, { q with session, holders := q.holders.set number h })
  | (.error fault, session) => (.failed fault, { q with session })

/-- The answer to a request, and the state behind it. -/
def answer (q : State) : Request → Answer × State
  | .construct entries collisions => q.make (Session.construct entries collisions) []
  | .build units => q.make (Session.build units) []
  | .resolve n depth =>
    match q.made[n]? with
    | none => (.unknown, q)
    | some r =>
      -- Without a hop to make, resolving gives back the registry itself.
      if depth ≤ 0 then q.giveBack (Session.resolve r depth) n
      else q.make (Session.resolve r depth) []
  | .index settings units =>
    q.make (Session.index settings units) (merged settings units q.session.nextVersion)
  | .hold none =>
    match q.make (Session.construct []) [] with
    | (.registry n r, q) => q.hold n r
    | (refusal, q) => (refusal, q)
  | .hold (some n) =>
    match q.made[n]? with
    | none => (.unknown, q)
    | some r => q.hold n r
  | .publish i n =>
    match q.holders[i]?, q.made[n]? with
    | some h, some r => q.publish i h r
    | _, _ => (.unknown, q)
  | .current i =>
    match q.holders[i]? with
    | none => (.unknown, q)
    | some h => (.current h.current, q)
  | .isStale i n =>
    match q.holders[i]?, q.made[n]? with
    | some h, some r => (.stale (h.isStale r), q)
    | _, _ => (.unknown, q)

/-- The state with an entry in its log. -/
def noting (q : State) (entry : Request × Answer) : State := { q with log := q.log ++ [entry] }

/-- The state behind a request, which is logged with its answer. -/
def after (q : State) (request : Request) : State :=
  (q.answer request).2.noting (request, (q.answer request).1)

/-- Where some requests lead, one after the other. -/
def run (s : Session) (requests : List Request) : State := requests.foldl after (start s)

end State

/-! ### What the log tells of a holder -/

/-- The registry that an entry says was published to a holder. -/
def publishedBy (i : Nat) : Request × Answer → Option Nat
  | (.publish j n, .replaced _) => if j = i then some n else none
  | _ => none

/-- The registry that an entry says a holder gave back. -/
def returnedBy (i : Nat) : Request × Answer → Option Registry
  | (.publish j _, .replaced previous) => if j = i then some previous else none
  | _ => none

/-- The numbers of the registries that were published to a holder, in order. -/
def published (i : Nat) (log : List (Request × Answer)) : List Nat := log.filterMap (publishedBy i)

/-- The registries that a holder gave back, in order. -/
def returned (i : Nat) (log : List (Request × Answer)) : List Registry :=
  log.filterMap (returnedBy i)

/-! ### Rising versions -/

/-- Registries with rising versions, made while the counter went from `first` to `next`. -/
structure Rising (first : Nat) (made : List Registry) (next : Nat) : Prop where
  rising : made.Pairwise fun r r' => r.version < r'.version
  within : ∀ r ∈ made, first ≤ r.version ∧ r.version < next
  forward : first ≤ next

namespace Rising

variable {first next last : Nat} {made more : List Registry}

theorem nil (h : first ≤ next) : Rising first [] next :=
  ⟨List.Pairwise.nil, by simp, h⟩

theorem single {r : Registry} (h : r.version = first) : Rising first [r] (first + 1) :=
  ⟨List.pairwise_singleton _ _, by simp [h], Nat.le_succ first⟩

theorem append (h : Rising first made next) (h' : Rising next more last) :
    Rising first (made ++ more) last := by
  refine ⟨List.pairwise_append.mpr ⟨h.rising, h'.rising, ?_⟩, ?_, h.forward.trans h'.forward⟩
  · intro r hr r' hr'
    exact (h.within r hr).2.trans_le (h'.within r' hr').1
  · intro r hr
    rcases List.mem_append.mp hr with hr | hr
    · exact ⟨(h.within r hr).1, (h.within r hr).2.trans_le h'.forward⟩
    · exact ⟨h.forward.trans (h'.within r hr).1, (h'.within r hr).2⟩

/-- A version is that of one registry only. -/
theorem eq_of_version (h : Rising first made next) {m n : Nat} {r r' : Registry}
    (hm : made[m]? = some r) (hn : made[n]? = some r') (hversion : r.version = r'.version) :
    m = n := by
  obtain ⟨hm', rfl⟩ := List.getElem?_eq_some_iff.mp hm
  obtain ⟨hn', rfl⟩ := List.getElem?_eq_some_iff.mp hn
  have hpairs := List.pairwise_iff_getElem.mp h.rising
  rcases Nat.lt_trichotomy m n with hlt | rfl | hlt
  · exact absurd hversion (Nat.ne_of_lt (hpairs m n hm' hn' hlt))
  · rfl
  · exact absurd hversion (Nat.ne_of_gt (hpairs n m hn' hm' hlt))

end Rising

/-- An action that makes registries, those in `before` on the way, takes their versions from the
counter. -/
def Makes (a : Act Registry) (before : List Registry) (s : Session) : Prop :=
  match a.on s with
  | (.ok r, t) => Rising s.nextVersion (before ++ [r]) t.nextVersion
  | (.error _, t) => s.nextVersion ≤ t.nextVersion

theorem makes_construct (entries : List (Text × Definition)) (collisions : List Collision)
    (s : Session) : Makes (Session.construct entries collisions) [] s := by
  rw [Makes, Session.on_construct]
  exact Rising.single rfl

theorem makes_build (units : List (List Definition)) (s : Session) :
    Makes (Session.build units) [] s := by
  rw [Makes, Session.on_build]
  exact Rising.single rfl

theorem makes_resolve {depth : Int} (h : ¬ depth ≤ 0) (r : Registry) (s : Session) :
    Makes (Session.resolve r depth) [] s := by
  rw [Makes, Session.on_resolve_of_lt h]
  exact Rising.single (by rw [Registry.resolve_version, if_neg h])

/-- An index that resolves aliases makes two registries, and takes two versions. -/
theorem makes_index (settings : Settings) (units : List SourceUnit) (s : Session) :
    Makes (Session.index settings units) (State.merged settings units s.nextVersion) s := by
  cases hparsed : Indexing.parseUnits settings units with
  | error cause =>
      rw [Makes, Session.on_index_of_error hparsed]
      exact Nat.le_refl _
  | ok parsed =>
      rw [Makes, Session.on_index, Indexing.index_of_ok hparsed, State.merged, hparsed]
      have hversion := Registry.resolve_version (Registry.build parsed s.nextVersion)
        settings.resolveDepth (s.nextVersion + 1)
      by_cases hdepth : settings.resolveDepth ≤ 0
      · simp only [if_pos hdepth] at hversion ⊢
        exact Rising.single hversion
      · simp only [if_neg hdepth] at hversion ⊢
        have hmerged : Rising s.nextVersion [Registry.build parsed s.nextVersion]
            (s.nextVersion + 1) := Rising.single rfl
        exact hmerged.append (Rising.single hversion)

/-! ### What a holder keeps -/

/-- What a holder gave back, followed by what it holds, are the registries that it was given: its
first one and those that were published to it. -/
def Keeps (made : List Registry) (log : List (Request × Answer)) (i initial : Nat) (h : Holder) :
    Prop :=
  List.Forall₂ (fun n r => made[n]? = some r) (initial :: published i log)
    (returned i log ++ [h.current])

/-- What holds wherever a run has come to. -/
structure Sound (first : Nat) (q : State) : Prop where
  rising : Rising first q.made q.session.nextVersion
  /-- A registry has the number with which it was answered. -/
  numbered : ∀ request n r, (request, .registry n r) ∈ q.log → q.made[n]? = some r
  kept : ∀ i h, q.holders[i]? = some h →
    ∃ request initial, (request, .holder i initial) ∈ q.log ∧ Keeps q.made q.log i initial h
  /-- Before a holder is there, nothing is published to it. -/
  unborn : ∀ i, q.holders.length ≤ i → published i q.log = [] ∧ returned i q.log = []

/-- An answer that gives a registry its number, and tells of nothing that was published. -/
def Answer.Fits (made : List Registry) : Answer → Prop
  | .registry n r => made[n]? = some r
  | .replaced _ => False
  | _ => True

theorem getElem?_append_of_some {made : List Registry} {n : Nat} {r : Registry}
    (h : made[n]? = some r) (more : List Registry) : (made ++ more)[n]? = some r := by
  rw [List.getElem?_append_left (List.getElem?_eq_some_iff.mp h).1, h]

theorem publishedBy_of_fits {made : List Registry} {a : Answer} (h : a.Fits made) (i : Nat)
    (request : Request) : publishedBy i (request, a) = none ∧ returnedBy i (request, a) = none := by
  cases a with
  | replaced previous => exact h.elim
  | _ => cases request <;> exact ⟨rfl, rfl⟩

theorem published_concat (i : Nat) (log : List (Request × Answer)) (entry : Request × Answer) :
    published i (log ++ [entry]) = published i log ++ (publishedBy i entry).toList := by
  unfold published
  cases h : publishedBy i entry <;> simp [h]

theorem returned_concat (i : Nat) (log : List (Request × Answer)) (entry : Request × Answer) :
    returned i (log ++ [entry]) = returned i log ++ (returnedBy i entry).toList := by
  unfold returned
  cases h : returnedBy i entry <;> simp [h]

namespace Sound

variable {first : Nat} {q : State}

theorem start (s : Session) : Sound s.nextVersion (State.start s) where
  rising := Rising.nil (Nat.le_refl _)
  numbered := by simp [State.start]
  kept := by simp [State.start]
  unborn := by simp [State.start, published, returned]

/-- More registries are no harm if their versions rise. -/
theorem extend (h : Sound first q) (session : Session) (more : List Registry)
    (hmore : Rising q.session.nextVersion more session.nextVersion) :
    Sound first { q with session, made := q.made ++ more } where
  rising := h.rising.append hmore
  numbered request n r hentry := getElem?_append_of_some (h.numbered request n r hentry) more
  kept i holder hi := by
    obtain ⟨request, initial, hentry, hkeeps⟩ := h.kept i holder hi
    exact ⟨request, initial, hentry, hkeeps.imp fun n r hn => getElem?_append_of_some hn more⟩
  unborn := h.unborn

/-- The log tells of a holder no more than before if the answer fits. -/
theorem note (h : Sound first q) (request : Request) {a : Answer} (ha : a.Fits q.made) :
    Sound first (q.noting (request, a)) := by
  have hpublished : ∀ i, published i (q.log ++ [(request, a)]) = published i q.log := by
    intro i
    rw [published_concat, (publishedBy_of_fits ha i request).1, Option.toList_none, List.append_nil]
  have hreturned : ∀ i, returned i (q.log ++ [(request, a)]) = returned i q.log := by
    intro i
    rw [returned_concat, (publishedBy_of_fits ha i request).2, Option.toList_none, List.append_nil]
  refine ⟨h.rising, ?_, ?_, ?_⟩
  · intro request' n r hentry
    rcases List.mem_append.mp hentry with hentry | hentry
    · exact h.numbered request' n r hentry
    · obtain ⟨-, rfl⟩ := Prod.mk.inj (List.mem_singleton.mp hentry)
      exact ha
  · intro i holder hi
    obtain ⟨request', initial, hentry, hkeeps⟩ := h.kept i holder hi
    refine ⟨request', initial, List.mem_append_left _ hentry, ?_⟩
    simp only [State.noting, Keeps, hpublished, hreturned]
    exact hkeeps
  · intro i hi
    simp only [State.noting, hpublished, hreturned]
    exact h.unborn i hi

theorem make (h : Sound first q) {a : Act Registry} {before : List Registry}
    (ha : Makes a before q.session) :
    Sound first (q.make a before).2 ∧ (q.make a before).1.Fits (q.make a before).2.made := by
  unfold Makes at ha
  unfold State.make
  cases hon : a.on q.session with
  | mk outcome session =>
      rw [hon] at ha
      cases outcome with
      | error fault =>
          refine ⟨?_, trivial⟩
          simpa using h.extend session [] (Rising.nil ha)
      | ok r =>
          refine ⟨h.extend session (before ++ [r]) ha, ?_⟩
          show (q.made ++ (before ++ [r]))[q.made.length + before.length]? = some r
          simp

/-- A new holder has been given its first registry and has given none back. -/
theorem hold (h : Sound first q) {n : Nat} {r : Registry} (hn : q.made[n]? = some r)
    (request : Request) : Sound first ((q.hold n r).2.noting (request, (q.hold n r).1)) := by
  have hnoted := h.note request (a := .holder q.holders.length n) trivial
  refine ⟨hnoted.rising, hnoted.numbered, ?_, ?_⟩
  · intro i holder hi
    have hi' : (q.holders ++ [Holder.mk r])[i]? = some holder := hi
    rcases Nat.lt_or_ge i q.holders.length with hold | hnew
    · rw [List.getElem?_append_left hold] at hi'
      exact hnoted.kept i holder hi'
    · have hlt : i < (q.holders ++ [Holder.mk r]).length := (List.getElem?_eq_some_iff.mp hi').1
      obtain rfl : i = q.holders.length := by
        rw [List.length_append, List.length_singleton] at hlt
        omega
      obtain rfl : ⟨r⟩ = holder := by simpa using hi'
      obtain ⟨hpublished, hreturned⟩ := hnoted.unborn q.holders.length (Nat.le_refl _)
      have hkeeps : Keeps q.made (q.noting (request, .holder q.holders.length n)).log
          q.holders.length n ⟨r⟩ := by
        rw [Keeps, hpublished, hreturned]
        exact .cons hn .nil
      exact ⟨request, n, List.mem_append_right _ (List.mem_singleton.mpr rfl), hkeeps⟩
  · intro i hi
    have hlength : q.holders.length + 1 ≤ i := by simpa [State.hold, State.noting] using hi
    exact hnoted.unborn i (by show q.holders.length ≤ i; omega)

/-- What is published is what the holder holds from now on, and it gives back what it held. -/
theorem publish (h : Sound first q) {i n : Nat} {holder : Holder} {r : Registry}
    (hi : q.holders[i]? = some holder) (hn : q.made[n]? = some r) :
    Sound first ((q.publish i holder r).2.noting (.publish i n, (q.publish i holder r).1)) := by
  have hlt : i < q.holders.length := (List.getElem?_eq_some_iff.mp hi).1
  have hpublish : q.publish i holder r =
      (.replaced holder.current,
        { q with
          session := q.session.reporting [.published r holder.current],
          holders := q.holders.set i ⟨r⟩ }) := by
    simp only [State.publish, Session.on_publish]
  rw [hpublish]
  refine ⟨h.rising, ?_, ?_, ?_⟩
  · intro request m r' hentry
    rcases List.mem_append.mp hentry with hentry | hentry
    · exact h.numbered request m r' hentry
    · cases List.mem_singleton.mp hentry
  · intro j holder' hj
    have hj' : (q.holders.set i ⟨r⟩)[j]? = some holder' := hj
    simp only [State.noting, Keeps, published_concat, returned_concat]
    by_cases hij : i = j
    · subst hij
      obtain rfl : ⟨r⟩ = holder' := by simpa [hlt] using hj'
      obtain ⟨request, initial, hentry, hkeeps⟩ := h.kept i holder hi
      refine ⟨request, initial, List.mem_append_left _ hentry, ?_⟩
      simp only [publishedBy, returnedBy, if_true, Option.toList_some]
      exact List.rel_append hkeeps (.cons hn .nil)
    · rw [List.getElem?_set_ne hij] at hj'
      obtain ⟨request, initial, hentry, hkeeps⟩ := h.kept j holder' hj'
      refine ⟨request, initial, List.mem_append_left _ hentry, ?_⟩
      simp only [publishedBy, returnedBy, if_neg hij, Option.toList_none, List.append_nil]
      exact hkeeps
  · intro j hj
    have hlength : q.holders.length ≤ j := by simpa [State.noting] using hj
    have hij : i ≠ j := by omega
    simp only [State.noting, published_concat, returned_concat, publishedBy, returnedBy,
      if_neg hij, Option.toList_none, List.append_nil]
    exact h.unborn j hlength

/-- Every request keeps a run sound. -/
theorem after (h : Sound first q) (request : Request) : Sound first (q.after request) := by
  have hmake : ∀ {a : Act Registry} {before : List Registry}, Makes a before q.session →
      Sound first ((q.make a before).2.noting (request, (q.make a before).1)) :=
    fun ha => (h.make ha).1.note request (h.make ha).2
  have hunknown : Sound first (q.noting (request, .unknown)) := h.note request trivial
  unfold State.after
  cases request with
  | construct entries collisions => exact hmake (makes_construct entries collisions q.session)
  | build units => exact hmake (makes_build units q.session)
  | resolve n depth =>
      simp only [State.answer]
      cases hn : q.made[n]? with
      | none => exact hunknown
      | some r =>
          by_cases hdepth : depth ≤ 0
          · simp only [if_pos hdepth, State.giveBack, Session.on_resolve_of_le hdepth]
            have hsame := h.extend (q.session.reporting (Indexing.resolveEvents r depth)) []
              (Rising.nil (Nat.le_refl _))
            rw [List.append_nil] at hsame
            exact hsame.note _ hn
          · simp only [if_neg hdepth]
            exact hmake (makes_resolve hdepth r q.session)
  | index settings units => exact hmake (makes_index settings units q.session)
  | hold initial =>
      cases initial with
      | none =>
          obtain ⟨hsound, hfits⟩ := h.make (makes_construct [] [] q.session)
          simp only [State.answer]
          have hon : q.make (Session.construct []) [] =
              (.registry q.made.length (.ofEntries [] [] q.session.nextVersion), _) := rfl
          rw [hon] at hsound hfits ⊢
          exact hsound.hold hfits _
      | some n =>
          simp only [State.answer]
          cases hn : q.made[n]? with
          | none => exact hunknown
          | some r => exact h.hold hn _
  | publish i n =>
      simp only [State.answer]
      cases hi : q.holders[i]? with
      | none => exact hunknown
      | some holder =>
          cases hn : q.made[n]? with
          | none => exact hunknown
          | some r => exact h.publish hi hn
  | current i =>
      simp only [State.answer]
      cases q.holders[i]? with
      | none => exact hunknown
      | some holder => exact h.note _ trivial
  | isStale i n =>
      simp only [State.answer]
      cases q.holders[i]? with
      | none => exact hunknown
      | some holder =>
          cases q.made[n]? with
          | none => exact hunknown
          | some r => exact h.note _ trivial

theorem run (s : Session) (requests : List Request) :
    Sound s.nextVersion (State.run s requests) := by
  have hfold : ∀ (requests : List Request) {q : State}, Sound s.nextVersion q →
      Sound s.nextVersion (requests.foldl State.after q) := by
    intro requests
    induction requests with
    | nil => exact id
    | cons request rest ih => exact fun h => ih (h.after request)
  exact hfold requests (start s)

end Sound

/-- What a holder holds is what was published to it last, or its first registry. -/
theorem Keeps.getElem?_last {made : List Registry} {log : List (Request × Answer)} {i initial : Nat}
    {h : Holder} (hkeeps : Keeps made log i initial h) :
    made[(published i log).getLastD initial]? = some h.current := by
  have hreverse := List.forall₂_reverse_iff.mpr hkeeps
  rw [List.reverse_append, List.reverse_singleton, List.singleton_append] at hreverse
  have hlast : (initial :: published i log).reverse.head? =
      some ((published i log).getLastD initial) := by
    rw [List.head?_reverse, List.getLast?_cons, List.getLastD_eq_getLast?]
  cases hshape : (initial :: published i log).reverse with
  | nil => simp at hshape
  | cons n rest =>
      rw [hshape] at hreverse hlast
      obtain rfl : n = _ := Option.some.inj hlast
      exact (List.forall₂_cons.mp hreverse).1

/--
**Versions tell which registry is held**, wherever a run of requests has come to.  Each registry has
a version greater than all that were given before it.  So a holder calls a registry stale exactly if
it is another one than the holder was given last, even if the two have the same entries.  And what a
holder gave back, followed by what it holds, are its first registry and those that were published to
it, in order, so none is lost and none is given back twice.
-/
theorem isStale_iff_ne_last (s : Session) (requests : List Request) :
    ((State.run s requests).made.Pairwise fun r r' => r.version < r'.version) ∧
      (∀ r ∈ (State.run s requests).made,
        s.nextVersion ≤ r.version ∧ r.version < (State.run s requests).session.nextVersion) ∧
      (∀ request n r, (request, .registry n r) ∈ (State.run s requests).log →
        (State.run s requests).made[n]? = some r) ∧
      ∀ i h, (State.run s requests).holders[i]? = some h →
        ∃ request initial, (request, .holder i initial) ∈ (State.run s requests).log ∧
          Keeps (State.run s requests).made (State.run s requests).log i initial h ∧
          ((State.run s requests).answer (.current i)).1 = .current h.current ∧
          ∀ n r, (State.run s requests).made[n]? = some r →
            ((State.run s requests).answer (.isStale i n)).1 =
              .stale (decide (n ≠ (published i (State.run s requests).log).getLastD initial)) := by
  have hsound := Sound.run s requests
  generalize State.run s requests = q at hsound ⊢
  refine ⟨hsound.rising.rising, hsound.rising.within, hsound.numbered, fun i h hi => ?_⟩
  obtain ⟨request, initial, hentry, hkeeps⟩ := hsound.kept i h hi
  refine ⟨request, initial, hentry, hkeeps, by simp only [State.answer, hi], fun n r hn => ?_⟩
  have hlast := hkeeps.getElem?_last
  generalize (published i q.log).getLastD initial = last at hlast ⊢
  have hiff : r.version = h.current.version ↔ n = last := by
    refine ⟨hsound.rising.eq_of_version hn hlast, ?_⟩
    rintro rfl
    rw [hn] at hlast
    rw [Option.some.inj hlast]
  have hstale : h.isStale r = decide (n ≠ last) := by
    rw [Holder.isStale, Bool.eq_iff_iff]
    simpa using not_congr hiff
  simp only [State.answer, hi, hn, hstale]

/-- A registry that was built of the same units as the one that is held is stale all the same. -/
example :
    ((State.run (.start ⟨[], []⟩ ⟨[], []⟩) [.build [], .build [], .hold (some 0)]).answer
      (.isStale 0 1)).1 = .stale true := by
  rfl

end Snapshots

end SwatchIndex
