/-
What a check of settings takes, and what it refuses.

The keys come first.  If all of them are known, the document is a list of settings with their values
(`exists_entries`), and checking it is one action after another, of which the first that fails
counts.  If not, the values have no say at all, since the unknown keys are known from the keys alone
(`mem_unknownKeys`).

What has passed is applied to the defaults.  Each field sets its own setting and leaves the others
as they are (`valueIn_apply`), so with distinct keys every setting has the value that it was given,
or its default.
-/
import SwatchIndex.Proofs.Fields
import Mathlib.Data.List.Lex
import Mathlib.Data.List.Sort

namespace SwatchIndex

/-! ### The order of spellings

A spelling is a list of numbers, and these are in the order of lists of numbers.
-/

namespace CodePoint

theorem toNat_injective : Function.Injective toNat := by
  have hchar (c : Char) (h : Fin 2048) : c.toNat ≠ firstHalf + h.val := by
    have hvalid : c.toNat.isValidChar := c.valid
    unfold Nat.isValidChar at hvalid
    unfold firstHalf
    omega
  intro a b hab
  cases a with
  | char c =>
      cases b with
      | char d => rw [Char.toNat_inj.mp hab]
      | half h => exact absurd hab (hchar c h)
  | half h =>
      cases b with
      | char d => exact absurd hab.symm (hchar d h)
      | half k =>
          have hval : h.val = k.val := Nat.add_left_cancel hab
          rw [Fin.ext hval]

end CodePoint

namespace Spelling

/-- The numbers of a spelling. -/
def numbers (s : Spelling) : List Nat := s.map CodePoint.toNat

theorem numbers_injective : Function.Injective numbers :=
  List.map_injective_iff.mpr CodePoint.toNat_injective

theorem lt_iff {a b : Spelling} : a < b ↔ a.numbers < b.numbers := by
  induction a generalizing b with
  | nil => cases b <;> simp [numbers]
  | cons p a ih =>
      cases b with
      | nil => simp [numbers]
      | cons q b =>
          have hpoint : p < q ↔ p.toNat < q.toNat := Iff.rfl
          have hsame : p = q ↔ p.toNat = q.toNat := CodePoint.toNat_injective.eq_iff.symm
          simp only [numbers, List.map_cons, List.cons_lt_cons_iff, hpoint, hsame]
          rw [ih]
          rfl

end Spelling

namespace Settings

/-! ### All fields -/

/-- The field that a setting and a value are in a document. -/
def entry (e : Setting × Value) : Spelling × Value := (.ofText e.1.key, e.2)

/-- A document whose keys are known is a list of settings with their values. -/
theorem exists_entries {d : Document}
    (h : ∀ key ∈ d.map Prod.fst, ∃ setting : Setting, key = .ofText setting.key) :
    ∃ entries : List (Setting × Value), d = entries.map entry := by
  induction d with
  | nil => exact ⟨[], rfl⟩
  | cons field rest ih =>
      rw [List.map_cons, List.forall_mem_cons] at h
      obtain ⟨⟨setting, hsetting⟩, hrest⟩ := h
      obtain ⟨entries, rfl⟩ := ih hrest
      refine ⟨(setting, field.2) :: entries, ?_⟩
      rw [List.map_cons, entry, ← hsetting]

theorem checkFields_entries (entries : List (Setting × Value)) :
    checkFields (entries.map entry) = entries.mapM fun e => checkField e.1 e.2 := by
  induction entries with
  | nil => rfl
  | cons e rest ih =>
      rw [List.map_cons, entry, checkFields, Setting.ofKey?_key, ih, List.mapM_cons]

theorem mem_unknownKeys {d : Document} {key : Spelling} :
    key ∈ unknownKeys d ↔
      key ∈ d.map Prod.fst ∧ ∀ setting : Setting, key ≠ .ofText setting.key := by
  rw [unknownKeys, List.mem_mergeSort, List.mem_filter, Option.isNone_iff_eq_none,
    Setting.ofKey?_eq_none_iff]

theorem unknownKeys_eq_nil_iff {d : Document} :
    unknownKeys d = [] ↔
      ∀ key ∈ d.map Prod.fst, ∃ setting : Setting, key = .ofText setting.key := by
  simp only [List.eq_nil_iff_forall_not_mem, mem_unknownKeys, not_and, not_forall, ne_eq, not_not]

/-- Unknown keys are listed in order. -/
theorem pairwise_unknownKeys {d : Document} (hd : (d.map Prod.fst).Nodup) :
    (unknownKeys d).Pairwise (· < ·) := by
  have hsorted : (unknownKeys d).Pairwise fun a b => a.numbers ≤ b.numbers := by
    refine (List.pairwise_mergeSort ?_ ?_ _).imp ?_
    · intro a b c hab hbc
      simp only [Bool.not_eq_true', decide_eq_false_iff_not, Spelling.lt_iff, not_lt] at hab hbc ⊢
      exact le_trans hab hbc
    · intro a b
      simp only [Bool.or_eq_true, Bool.not_eq_true', decide_eq_false_iff_not, Spelling.lt_iff,
        not_lt]
      exact le_total _ _
    · intro a b hab
      simpa only [Bool.not_eq_true', decide_eq_false_iff_not, Spelling.lt_iff, not_lt] using hab
  have hnodup : (unknownKeys d).Nodup := List.nodup_mergeSort.mpr (hd.filter _)
  refine (hsorted.and hnodup).imp ?_
  rintro a b ⟨hle, hne⟩
  exact Spelling.lt_iff.mpr (lt_of_le_of_ne hle (Spelling.numbers_injective.ne hne))

/-! ### What the settings are -/

/-- A checked field sets its own setting and leaves the others as they are. -/
theorem valueIn_apply (s : Settings) (a : Assignment) (setting : Setting) :
    Draft.valueIn (a.apply s) setting =
      if a.field.1 = .ofText setting.key then a.field.2 else Draft.valueIn s setting := by
  cases a <;> cases setting <;> rfl

theorem putField_field (s : Settings) (a : Assignment) :
    (Draft.ofSettings s).putField a.field = .ok (Draft.ofSettings (a.apply s)) := by
  cases a <;> exact congrArg (fun f => Except.ok (Draft.mk f)) (funext fun t => by cases t <;> rfl)

/-- Checked fields are taken for settings whether they are applied or read as a document. -/
theorem foldlM_putField (fields : List Assignment) (s : Settings) :
    (fields.map Assignment.field).foldlM Draft.putField (Draft.ofSettings s) =
      .ok (Draft.ofSettings (fields.foldl Assignment.apply s)) := by
  induction fields generalizing s with
  | nil => rfl
  | cons a rest ih =>
      rw [List.map_cons, List.foldlM_cons, putField_field, List.foldl_cons, ← ih]
      rfl

/-- A setting that no field is for keeps its value. -/
theorem valueIn_foldl_of_not_mem {fields : List Assignment} {setting : Setting}
    (h : .ofText setting.key ∉ fields.map fun a => a.field.1) (s : Settings) :
    Draft.valueIn (fields.foldl Assignment.apply s) setting = Draft.valueIn s setting := by
  induction fields generalizing s with
  | nil => rfl
  | cons a rest ih =>
      rw [List.map_cons, List.mem_cons, not_or] at h
      rw [List.foldl_cons, ih h.2, valueIn_apply, if_neg fun hkey => h.1 hkey.symm]

/-- A setting has the value of its field. -/
theorem valueIn_foldl_of_mem {fields : List Assignment} {setting : Setting} {a : Assignment}
    (hdistinct : (fields.map fun a => a.field.1).Nodup) (ha : a ∈ fields)
    (hkey : a.field.1 = .ofText setting.key) (s : Settings) :
    Draft.valueIn (fields.foldl Assignment.apply s) setting = a.field.2 := by
  induction fields generalizing s with
  | nil => cases ha
  | cons b rest ih =>
      rw [List.map_cons, List.nodup_cons] at hdistinct
      rcases List.mem_cons.mp ha with rfl | ha
      · -- No field behind this one is for the same setting.
        rw [hkey] at hdistinct
        rw [List.foldl_cons, valueIn_foldl_of_not_mem hdistinct.1, valueIn_apply, if_pos hkey]
      · exact ih hdistinct.2 ha _

/-! ### The whole check -/

/-- A field is for a setting, and it gives it a value. -/
def Passes (field : Spelling × Value) : Prop :=
  ∃ setting w, field.1 = .ofText setting.key ∧ Gives setting field.2 w

theorem passes_entry_iff {e : Setting × Value} :
    Passes (entry e) ↔ ∃ a, checkField e.1 e.2 = .ok a := by
  rw [exists_checkField_iff]
  constructor
  · rintro ⟨setting, w, hkey, hw⟩
    exact ⟨w, Setting.eq_of_key hkey ▸ hw⟩
  · exact fun ⟨w, hw⟩ => ⟨e.1, w, rfl, hw⟩

theorem check_entries {entries : List (Setting × Value)} :
    check (entries.map entry) = entries.mapM fun e => checkField e.1 e.2 := by
  have hknown : unknownKeys (entries.map entry) = [] := by
    refine unknownKeys_eq_nil_iff.mpr ?_
    simp only [List.map_map, List.forall_mem_map]
    exact fun e _ => ⟨e.1, rfl⟩
  rw [check, hknown, ← checkFields_entries]
  rfl

/-- A document is taken exactly if all its fields pass. -/
theorem exists_check_iff {d : Document} :
    (∃ fields, check d = .ok fields) ↔ ∀ field ∈ d, Passes field := by
  by_cases hknown : unknownKeys d = []
  · obtain ⟨entries, rfl⟩ := exists_entries (unknownKeys_eq_nil_iff.mp hknown)
    rw [check_entries, mapM_isOk_iff]
    simp only [List.forall_mem_map, passes_entry_iff, isOk_iff]
  · constructor
    · rintro ⟨fields, h⟩
      rw [check, if_neg (by simpa using hknown)] at h
      cases h
    · intro h
      refine absurd (unknownKeys_eq_nil_iff.mpr ?_) hknown
      simp only [List.forall_mem_map]
      intro field hfield
      obtain ⟨setting, w, hkey, -⟩ := h field hfield
      exact ⟨setting, hkey⟩

/-- A document with known keys is refused for its first field that does not pass. -/
theorem check_refused_iff {d : Document} (hknown : unknownKeys d = []) {refusal : Rejection} :
    (∃ e, check d = .error e ∧ Session.rejection e = refusal) ↔
      ∃ before setting v after, d = before ++ (.ofText setting.key, v) :: after ∧
        (∀ field ∈ before, Passes field) ∧ Offends setting v refusal := by
  obtain ⟨entries, rfl⟩ := exists_entries (unknownKeys_eq_nil_iff.mp hknown)
  rw [check_entries]
  constructor
  · rintro ⟨e, he, rfl⟩
    obtain ⟨before, ⟨setting, v⟩, after, rfl, hbefore, hfield⟩ := mapM_eq_error_iff.mp he
    refine ⟨before.map entry, setting, v, after.map entry, by simp [entry], ?_,
      checkField_refused_iff.mp ⟨e, hfield, rfl⟩⟩
    simp only [List.forall_mem_map, passes_entry_iff]
    exact hbefore
  · rintro ⟨before, setting, v, after, hsplit, hbefore, hoffends⟩
    obtain ⟨first, others, rfl, rfl, hothers⟩ := List.map_eq_append_iff.mp hsplit
    obtain ⟨⟨t, u⟩, last, rfl, hfield, rfl⟩ := List.map_eq_cons_iff.mp hothers
    obtain ⟨hkey, rfl⟩ := Prod.mk.inj hfield
    obtain rfl := Setting.eq_of_key hkey
    obtain ⟨e, he, hrefusal⟩ := checkField_refused_iff.mpr hoffends
    refine ⟨e, mapM_eq_error_iff.mpr ⟨first, (t, u), last, rfl, ?_, he⟩, hrefusal⟩
    simpa only [List.forall_mem_map, passes_entry_iff] using hbefore

theorem settingsDocument_eq_ok_iff {d out : Document} :
    Session.settingsDocument.check d = .ok out ↔
      ∃ fields, check d = .ok fields ∧ fields.map Assignment.field = out := by
  simp only [Session.settingsDocument, map_eq_ok_iff, mapError_eq_ok_iff]

theorem settingsDocument_eq_error_iff {d : Document} {refusal : Rejection} :
    Session.settingsDocument.check d = .error refusal ↔
      ∃ e, check d = .error e ∧ Session.rejection e = refusal := by
  simp only [Session.settingsDocument, map_eq_error_iff, mapError_eq_error_iff]

/-- Settings have the values that a document gives them, and the defaults for all others. -/
theorem valueIn_of_check {d : Document} {fields : List Assignment} (hd : (d.map Prod.fst).Nodup)
    (h : check d = .ok fields) (setting : Setting) :
    (∀ v, (.ofText setting.key, v) ∈ d →
        Gives setting v (Draft.valueIn (ofAssignments fields) setting)) ∧
      (.ofText setting.key ∉ d.map Prod.fst →
        Draft.valueIn (ofAssignments fields) setting = Draft.valueIn {} setting) := by
  have hpasses := exists_check_iff.mp ⟨fields, h⟩
  obtain ⟨entries, rfl⟩ : ∃ entries : List (Setting × Value), d = entries.map entry := by
    refine exists_entries ?_
    simp only [List.forall_mem_map]
    intro field hfield
    obtain ⟨t, w, hkey, -⟩ := hpasses field hfield
    exact ⟨t, hkey⟩
  rw [check_entries] at h
  have hkeys : fields.map (fun a => a.field.1) = (entries.map entry).map Prod.fst := by
    rw [List.map_map]
    refine map_of_mapM_eq_ok h fun e a ha => ?_
    obtain ⟨w, -, hfield⟩ := gives_of_checkField ha
    rw [hfield]
    rfl
  constructor
  · intro v hv
    obtain ⟨⟨t, u⟩, he, hfield⟩ := List.mem_map.mp hv
    obtain ⟨hkey, rfl⟩ := Prod.mk.inj hfield
    obtain ⟨a, ha⟩ := passes_entry_iff.mp (hpasses _ (List.mem_map_of_mem he))
    obtain ⟨w, hw, hset⟩ := gives_of_checkField ha
    obtain rfl := Setting.eq_of_key hkey
    rw [ofAssignments, valueIn_foldl_of_mem (hkeys ▸ hd) ((mem_mapM_iff h).mpr ⟨_, he, ha⟩)
      (congrArg Prod.fst hset), hset]
    exact hw
  · intro habsent
    exact valueIn_foldl_of_not_mem (hkeys ▸ habsent) {}

/--
**Settings are taken as they are given, or refused for the first thing that is wrong with them.**
A document is taken exactly if every field is for a setting and gives it a value.  Then each setting
has the value that it is given, and its default if there is none.  Otherwise the document is
refused: for its unknown keys, all of them and in order, whatever the values are, or else for the
first field that offends.
-/
theorem settings_taken_or_refused (d : Document) (hd : (d.map Prod.fst).Nodup) :
    ((∃ out, Session.settingsDocument.check d = .ok out) ↔
        ∀ field ∈ d, Passes field) ∧
      (∀ out, Session.settingsDocument.check d = .ok out → ∃ fields,
        check d = .ok fields ∧
          Draft.ofDocument out = .ok (Draft.ofSettings (ofAssignments fields)) ∧
          ∀ setting,
            (∀ v, (.ofText setting.key, v) ∈ d →
              Gives setting v (Draft.valueIn (ofAssignments fields) setting)) ∧
            (.ofText setting.key ∉ d.map Prod.fst →
              Draft.valueIn (ofAssignments fields) setting = Draft.valueIn {} setting)) ∧
      (unknownKeys d).Pairwise (· < ·) ∧
      (∀ key, key ∈ unknownKeys d ↔
        key ∈ d.map Prod.fst ∧ ∀ setting : Setting, key ≠ .ofText setting.key) ∧
      ∀ refusal, Session.settingsDocument.check d = .error refusal ↔
        (unknownKeys d ≠ [] ∧
          refusal = .wrongContent (SettingsError.unknownKeys (unknownKeys d)).message) ∨
        (unknownKeys d = [] ∧ ∃ before setting v after,
          d = before ++ (.ofText setting.key, v) :: after ∧
            (∀ field ∈ before, Passes field) ∧ Offends setting v refusal) := by
  refine ⟨?_, ?_, pairwise_unknownKeys hd, fun key => mem_unknownKeys, fun refusal => ?_⟩
  · rw [← exists_check_iff]
    simp only [settingsDocument_eq_ok_iff]
    exact ⟨fun ⟨_, fields, h, _⟩ => ⟨fields, h⟩, fun ⟨fields, h⟩ => ⟨_, fields, h, rfl⟩⟩
  · intro out hout
    obtain ⟨fields, hfields, rfl⟩ := settingsDocument_eq_ok_iff.mp hout
    exact ⟨fields, hfields, foldlM_putField fields {}, valueIn_of_check hd hfields⟩
  · rw [settingsDocument_eq_error_iff]
    by_cases hknown : unknownKeys d = []
    · rw [check_refused_iff hknown]
      simp only [hknown, ne_eq, not_true, false_and, false_or, true_and]
    · have hcheck : check d = .error (.unknownKeys (unknownKeys d)) := by
        rw [check, if_neg (by simpa using hknown)]
      simp only [hcheck, Except.error.injEq, exists_eq_left', hknown, ne_eq, not_false_eq_true,
        true_and, false_and, or_false]
      exact eq_comm

/-- A negative bound in front of a value that is no glob. -/
def twoFaults : Document :=
  [(.ofText Setting.maxFiles.key, .int (-1)), (.ofText Setting.included.key, .bool true)]

/-- Of two faults, the first is told. -/
theorem settings_taken_or_refused_sample :
    (twoFaults.map Prod.fst).Nodup ∧
      Session.settingsDocument.check twoFaults =
        .error (.wrongContent "'max_files' must be >= 0, got -1") := by
  have hdistinct : (twoFaults.map Prod.fst).Nodup := by decide
  have hknown : unknownKeys twoFaults = [] := by
    rw [unknownKeys_eq_nil_iff]
    simp only [twoFaults, List.map_cons, List.map_nil, List.forall_mem_cons]
    exact ⟨⟨.maxFiles, rfl⟩, ⟨.included, rfl⟩, by simp⟩
  refine ⟨hdistinct, ((settings_taken_or_refused twoFaults hdistinct).2.2.2.2 _).mpr (.inr ?_)⟩
  refine ⟨hknown, [], .maxFiles, .int (-1), _, rfl, by simp, ?_⟩
  exact .negative rfl (by decide) (Nat.one_lt_pow (by decide) (by decide))

/-- A negative bound that is too long to be written is not refused for its content: the check itself
fails on it. -/
theorem check_fails_on_overlong_bound :
    Session.settingsDocument.check
        [(.ofText Setting.maxFiles.key, .int (-(10 ^ Numeral.maxDigits)))] =
      .error (.failure Numeral.unwritable) := by
  have hknown :
      unknownKeys [(.ofText Setting.maxFiles.key, .int (-(10 ^ Numeral.maxDigits)))] = [] :=
    unknownKeys_eq_nil_iff.mpr (List.forall_mem_singleton.mpr ⟨.maxFiles, rfl⟩)
  rw [settingsDocument_eq_error_iff, check_refused_iff hknown]
  refine ⟨[], .maxFiles, .int (-(10 ^ Numeral.maxDigits)), [], rfl, by simp, ?_⟩
  have hneg (k : Nat) : -(10 ^ k : Int) < 0 := Int.neg_neg_of_pos (Int.pow_pos (by decide))
  have hlong (k : Nat) : 10 ^ k ≤ (-(10 ^ k : Int)).natAbs := by
    rw [Int.natAbs_neg, Int.natAbs_pow]
    exact Nat.le_refl _
  exact .unwritable rfl (hneg _) (hlong _)

end Settings

end SwatchIndex
