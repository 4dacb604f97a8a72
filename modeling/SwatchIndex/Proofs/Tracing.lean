/-
Which topics are on.

A program switches topics on by texts, and has them read anew from a variable of the environment.
What is on at the end of a run of requests can be said by the texts alone.  A text counts if some
request gave it and the topics were not read anew since (`Counts`), and a topic is on if a text that
counts has it as one of its parts between commas, but for case and blanks (`Names`).  How the texts
were divided into requests, and in what order they came, makes no difference to that.

Texts that are given at once are joined by commas before they are cut at commas.  No part is lost or
made by this (`named_join`), so each text names what it names alone.  Every request replaces names
and level together, and `Tells` is what it keeps: the names are those that were heard, and the level
is set if there are any.
-/
import SwatchIndex.Proofs.Actions
import SwatchIndex.Proofs.Parts

namespace SwatchIndex

namespace Topics

/-! ### What a text names -/

/-- A text names a topic if the topic is one of its parts between commas, but for case and for the
blanks around it.  Parts of blanks alone name nothing. -/
def Names (text name : Text) : Prop :=
  ∃ part, ',' ∉ part ∧ ',' :: (part ++ [',']) <:+: ',' :: (text ++ [',']) ∧
    Text.strip part ≠ [] ∧ Text.lower (Text.strip part) = name

theorem mem_named_iff {text name : Text} : name ∈ named text ↔ Names text name := by
  simp only [named, Names, List.mem_map, List.mem_filter, Text.mem_splitOn_iff, bne_iff_ne,
    and_assoc]

theorem named_nil : named [] = [] := rfl

/-- Texts that are joined by commas name what each of them names. -/
theorem named_join (texts : List Text) : named (Text.join [','] texts) = texts.flatMap named := by
  by_cases h : texts = []
  · subst h
    exact named_nil
  · unfold named
    rw [Text.splitOn_join h, List.filter_flatMap, List.map_flatMap]

/-! ### Names and level together -/

/-- The topics are those that `heard` holds of, and the channel of traces has a level of its own
exactly if there are any. -/
structure Tells (topics : Topics) (heard : Text → Prop) : Prop where
  names : ∀ name, name ∈ topics.names ↔ heard name
  level : topics.level = if topics.names = [] then none else some .debug

theorem tells_ofNames {names : List Text} {heard : Text → Prop}
    (h : ∀ name, name ∈ names ↔ heard name) : Tells (ofNames names) heard := by
  refine ⟨?_, ?_⟩
  · intro name
    rw [← h name]
    exact List.mem_eraseDups
  · show (if names.eraseDups.isEmpty = true then none else some Level.debug) = _
    simp only [List.isEmpty_iff]
    rfl

theorem tells_ofText (text : Text) : Tells (ofText text) (Names text) :=
  tells_ofNames fun _ => mem_named_iff

namespace Tells

variable {topics topics' : Topics} {heard heard' : Text → Prop}

theorem congr (h : Tells topics heard) (hsame : ∀ name, heard name ↔ heard' name) :
    Tells topics heard' :=
  ⟨fun name => (h.names name).trans (hsame name), h.level⟩

theorem enable (h : Tells topics heard) (texts : List Text) :
    Tells (topics.enable texts) fun name => heard name ∨ ∃ text ∈ texts, Names text name := by
  refine tells_ofNames ?_
  intro name
  rw [List.mem_append, h.names, named_join, List.mem_flatMap]
  simp only [mem_named_iff]

theorem enabled_iff (h : Tells topics heard) (topic : Text) :
    topics.enabled topic = true ↔ heard "all".toList ∨ heard (Text.lower topic) := by
  rw [enabled, Bool.or_eq_true, List.contains_iff_mem, List.contains_iff_mem, h.names, h.names]

theorem names_eq_nil_iff (h : Tells topics heard) : topics.names = [] ↔ ¬ ∃ name, heard name := by
  rw [List.eq_nil_iff_forall_not_mem, not_exists]
  exact forall_congr' fun name => not_congr (h.names name)

theorem level_eq_none_iff (h : Tells topics heard) :
    topics.level = none ↔ ¬ ∃ name, heard name := by
  rw [← h.names_eq_nil_iff, h.level]
  by_cases hnil : topics.names = []
  · simp [hnil]
  · simp [hnil]

theorem level_eq_debug_iff (h : Tells topics heard) :
    topics.level = some .debug ↔ ∃ name, heard name := by
  rw [← not_iff_not, ← h.names_eq_nil_iff, h.level]
  by_cases hnil : topics.names = []
  · simp [hnil]
  · simp [hnil]

/-- The level depends on what was heard of, and on nothing else. -/
theorem level_eq (h : Tells topics heard) (h' : Tells topics' heard) :
    topics.level = topics'.level := by
  have hnil : topics.names = [] ↔ topics'.names = [] := by
    rw [h.names_eq_nil_iff, h'.names_eq_nil_iff]
  rw [h.level, h'.level]
  simp only [hnil]

end Tells

end Topics

namespace Tracing

open Topics

/-! ### Runs of requests -/

/-- What a program asks for. -/
inductive Request where
  /-- Topics are switched on by some texts. -/
  | enable (texts : List Text)
  /-- Topics are read anew while the variable has this value, or is not set. -/
  | reload (value : Option Text)
  /-- Whether a topic is on. -/
  | ask (topic : Text)

/-- The texts that a request names topics with. -/
def Request.texts : Request → List Text
  | .enable texts => texts
  | .reload value => value.toList
  | .ask _ => []

/-- Whether a request has the topics read anew. -/
def Request.isReload : Request → Bool
  | .reload _ => true
  | _ => false

/-- The variable that topics are read from. -/
def source : Text := "CSS_VAR_INDEX_TRACE".toList

/-- The session behind a request. -/
def after (s : Session) : Request → Session
  | .enable texts => ((Session.enableTopics texts).on s).2
  | .reload value => ((do Session.setVariable source value; Session.reloadTopics : Act Unit).on s).2
  | .ask _ => s

/-- Where some requests lead, one after the other.  The topics are read for the first time when the
program starts. -/
def run (s : Session) (initial : Option Text) (requests : List Request) : Session :=
  (.reload initial :: requests).foldl after s

theorem run_concat (s : Session) (initial : Option Text) (requests : List Request)
    (request : Request) :
    run s initial (requests ++ [request]) = after (run s initial requests) request := by
  simp only [run, ← List.cons_append, List.foldl_append, List.foldl_cons, List.foldl_nil]

/-- A text counts behind some requests if one of them gave it and the topics were not read anew
since. -/
def Counts (requests : List Request) (text : Text) : Prop :=
  ∃ before request since, requests = before ++ request :: since ∧ text ∈ request.texts ∧
    ∀ later ∈ since, later.isReload = false

/-- A topic is heard of behind some requests if a text that counts names it. -/
def Heard (requests : List Request) (name : Text) : Prop :=
  ∃ text, Counts requests text ∧ Names text name

theorem counts_concat_iff {requests : List Request} {request : Request} {text : Text} :
    Counts (requests ++ [request]) text ↔
      text ∈ request.texts ∨ request.isReload = false ∧ Counts requests text := by
  constructor
  · rintro ⟨before, giver, since, hsplit, htext, hsince⟩
    rcases List.eq_nil_or_concat since with rfl | ⟨since, last, rfl⟩
    · obtain ⟨-, hgiver⟩ := List.append_inj' hsplit rfl
      obtain rfl := List.cons.inj hgiver |>.1
      exact Or.inl htext
    · rw [List.concat_eq_append, ← List.cons_append, ← List.append_assoc] at hsplit
      obtain ⟨hfront, hlast⟩ := List.append_inj' hsplit rfl
      obtain rfl := List.cons.inj hlast |>.1
      rw [List.concat_eq_append] at hsince
      refine Or.inr ⟨hsince request (by simp), before, giver, since, hfront, htext, ?_⟩
      intro later hlater
      exact hsince later (List.mem_append_left _ hlater)
  · rintro (htext | ⟨hkeeps, before, giver, since, rfl, htext, hsince⟩)
    · exact ⟨requests, request, [], rfl, htext, by simp⟩
    · refine ⟨before, giver, since ++ [request], by simp, htext, ?_⟩
      intro later hlater
      rcases List.mem_append.mp hlater with hlater | hlater
      · exact hsince later hlater
      · rwa [List.mem_singleton.mp hlater]

theorem heard_concat_iff {requests : List Request} {request : Request} {name : Text} :
    Heard (requests ++ [request]) name ↔
      (∃ text ∈ request.texts, Names text name) ∨
        request.isReload = false ∧ Heard requests name := by
  simp only [Heard, counts_concat_iff]
  constructor
  · rintro ⟨text, htext | ⟨hkeeps, hcounts⟩, hnames⟩
    · exact Or.inl ⟨text, htext, hnames⟩
    · exact Or.inr ⟨hkeeps, text, hcounts, hnames⟩
  · rintro (⟨text, htext, hnames⟩ | ⟨hkeeps, text, hcounts, hnames⟩)
    · exact ⟨text, Or.inl htext, hnames⟩
    · exact ⟨text, Or.inr ⟨hkeeps, hcounts⟩, hnames⟩

/-! ### What requests do to the topics -/

theorem lookup_setVariable (name : Text) (value : Option Text) (s : Session) :
    ((Session.setVariable name value).on s).2.environment.lookup name = value := by
  show ((s.environment.filter fun entry => entry.1 != name) ++
    (value.map fun v => (name, v)).toList).lookup name = value
  have hothers : (s.environment.filter fun entry => entry.1 != name).lookup name = none := by
    rw [List.lookup_eq_none_iff]
    intro entry hentry
    rw [bne_comm]
    exact (List.mem_filter.mp hentry).2
  rw [List.lookup_append, hothers, Option.none_or]
  cases value with
  | none => rfl
  | some v => simp

theorem topics_after_reload (s : Session) (value : Option Text) :
    (after s (.reload value)).topics = .ofText (value.getD []) := by
  show Topics.ofText
    ((((Session.setVariable source value).on s).2.environment.lookup source).getD []) = _
  rw [lookup_setVariable]

theorem topics_after_enable (s : Session) (texts : List Text) :
    (after s (.enable texts)).topics = s.topics.enable texts := rfl

/-- A variable that is not set names no topics. -/
theorem names_getD_iff {value : Option Text} {name : Text} :
    Names (value.getD []) name ↔ ∃ text ∈ value.toList, Names text name := by
  cases value with
  | none => simp [← mem_named_iff, named_nil]
  | some text => simp

/-- Whatever was on before, reading the topics anew leaves those of the variable. -/
theorem tells_after_reload (s : Session) (value : Option Text) (requests : List Request) :
    Tells (after s (.reload value)).topics (Heard (requests ++ [.reload value])) := by
  rw [topics_after_reload]
  refine (tells_ofText (value.getD [])).congr ?_
  intro name
  rw [heard_concat_iff, names_getD_iff]
  simp [Request.texts, Request.isReload]

/-- Every request keeps names and level together. -/
theorem tells_after {s : Session} {requests : List Request} (h : Tells s.topics (Heard requests))
    (request : Request) : Tells (after s request).topics (Heard (requests ++ [request])) := by
  cases request with
  | enable texts =>
      rw [topics_after_enable]
      refine (h.enable texts).congr ?_
      intro name
      rw [heard_concat_iff, or_comm]
      simp [Request.texts, Request.isReload]
  | reload value => exact tells_after_reload s value requests
  | ask topic =>
      refine h.congr ?_
      intro name
      rw [heard_concat_iff]
      simp [Request.texts, Request.isReload]

/-- Wherever a run has come to, the topics are those that were heard of. -/
theorem tells_run (s : Session) (initial : Option Text) (requests : List Request) :
    Tells (run s initial requests).topics (Heard (.reload initial :: requests)) := by
  induction requests using List.reverseRecOn with
  | nil => exact tells_after_reload s initial []
  | append_singleton requests request ih =>
      rw [run_concat, ← List.cons_append]
      exact tells_after ih request

/--
**A topic is on exactly if it was heard of**, or if `all` was: at the last time the topics were read
from their variable, or in one of the texts that were given since.  The channel of traces has the
level of traces exactly if anything was heard of, and no level of its own otherwise.  So two runs
that heard of the same topics cannot be told apart, however their texts were divided and ordered.
-/
theorem topics_are_those_heard (s : Session) (initial : Option Text) (requests : List Request) :
    (∀ topic, (run s initial requests).topics.enabled topic = true ↔
        Heard (.reload initial :: requests) "all".toList ∨
          Heard (.reload initial :: requests) (Text.lower topic)) ∧
      ((run s initial requests).topics.level = some .debug ↔
        ∃ name, Heard (.reload initial :: requests) name) ∧
      ((run s initial requests).topics.level = none ↔
        ¬ ∃ name, Heard (.reload initial :: requests) name) ∧
      ∀ s' initial' requests',
        (∀ name, Heard (.reload initial :: requests) name ↔
          Heard (.reload initial' :: requests') name) →
        (∀ topic, (run s' initial' requests').topics.enabled topic =
            (run s initial requests).topics.enabled topic) ∧
          (run s' initial' requests').topics.level = (run s initial requests).topics.level := by
  have htells := tells_run s initial requests
  refine ⟨htells.enabled_iff, htells.level_eq_debug_iff, htells.level_eq_none_iff, ?_⟩
  intro s' initial' requests' hsame
  have htells' : Tells (run s' initial' requests').topics (Heard (.reload initial :: requests)) :=
    (tells_run s' initial' requests').congr fun name => (hsame name).symm
  refine ⟨?_, htells'.level_eq htells⟩
  intro topic
  rw [Bool.eq_iff_iff, htells'.enabled_iff, htells.enabled_iff]

/-- Blanks, case and empty parts make no difference, and topics read anew take the place of
others. -/
example : (run (.start ⟨[], []⟩ ⟨[], []⟩) none
    [.enable ["registry".toList], .reload (some " Parser,, ,".toList), .enable []]).topics =
      ⟨["parser".toList], some .debug⟩ := by
  decide

end Tracing

end SwatchIndex
