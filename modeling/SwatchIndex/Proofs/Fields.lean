/-
One field of a document of settings.

`Gives` says which values are good for a setting, and what they stand for there: a glob alone stands
for a list of one, and everything else for itself.  `Offends` says what is wrong with all other
values and how they are refused.  A field passes its check exactly if it gives its setting a value
(`exists_checkField_iff`), and is refused exactly for what is wrong with it
(`checkField_refused_iff`).

A bound that is below zero is refused with the number in the message.  Numbers of more digits than
`Numeral.maxDigits` are not written, so there the check itself fails.
-/
import SwatchIndex.Proofs.Outcomes
import SwatchIndex.Session
import Mathlib.Algebra.Ring.Int.Defs
import Mathlib.Algebra.Ring.Nat

namespace SwatchIndex

/-! ### Keys -/

namespace Setting

/-- What is asked of a setting. -/
inductive Kind where
  | globs
  | bound
  | encoding
deriving DecidableEq, Repr

/-- What is asked of each setting. -/
def kind : Setting → Kind
  | .included => .globs
  | .excluded => .globs
  | .maxFiles => .bound
  | .maxTextLength => .bound
  | .maxMatches => .bound
  | .resolveDepth => .bound
  | .encoding => .encoding

theorem ofKey?_key (setting : Setting) : ofKey? (.ofText setting.key) = some setting := by
  cases setting <;> decide

theorem ofKey?_eq_some_iff {key : Spelling} {setting : Setting} :
    ofKey? key = some setting ↔ key = .ofText setting.key := by
  constructor
  · intro h
    have hkey := List.find?_some h
    exact (eq_of_beq hkey).symm
  · rintro rfl
    exact ofKey?_key setting

theorem eq_of_key {s t : Setting} (h : Spelling.ofText s.key = .ofText t.key) : s = t := by
  rw [← ofKey?_eq_some_iff, ofKey?_key] at h
  exact Option.some.inj h

theorem ofKey?_eq_none_iff {key : Spelling} :
    ofKey? key = none ↔ ∀ setting : Setting, key ≠ .ofText setting.key := by
  rw [Option.eq_none_iff_forall_ne_some]
  simp only [ne_eq, ofKey?_eq_some_iff]

end Setting

namespace Settings

/-! ### Good values and bad ones -/

/-- A value in a document gives a setting its value there.  A glob alone stands for a list of
one. -/
inductive Gives : Setting → Value → Value → Prop
  | glob {setting : Setting} (hkind : setting.kind = .globs) (glob : Spelling) :
      Gives setting (.string glob) (.list [.string glob])
  | globs {setting : Setting} (hkind : setting.kind = .globs) (globs : List Spelling) :
      Gives setting (.list (globs.map .string)) (.list (globs.map .string))
  | bound {setting : Setting} (hkind : setting.kind = .bound) (n : Nat) :
      Gives setting (.int n) (.int n)
  | encoding {setting : Setting} (hkind : setting.kind = .encoding) {name : Spelling}
      (hname : name ≠ []) : Gives setting (.string name) (.string name)

/-- What is wrong with a value for a setting, and how it is refused. -/
inductive Offends : Setting → Value → Rejection → Prop
  | notGlobs {setting : Setting} {v : Value} (hkind : setting.kind = .globs)
      (hnone : ∀ w, ¬ Gives setting v w) :
      Offends setting v (.wrongType (SettingsError.notGlobs setting).message)
  | notInteger {setting : Setting} {v : Value} (hkind : setting.kind = .bound)
      (hint : ∀ n, v ≠ .int n) :
      Offends setting v (.wrongType (SettingsError.notInteger setting v.typeName).message)
  | negative {setting : Setting} (hkind : setting.kind = .bound) {n : Int} (hneg : n < 0)
      (hshort : n.natAbs < 10 ^ Numeral.maxDigits) :
      Offends setting (.int n) (.wrongContent (SettingsError.negative setting n).message)
  | unwritable {setting : Setting} (hkind : setting.kind = .bound) {n : Int} (hneg : n < 0)
      (hlong : 10 ^ Numeral.maxDigits ≤ n.natAbs) :
      Offends setting (.int n) (.failure Numeral.unwritable)
  | notEncoding {setting : Setting} {v : Value} (hkind : setting.kind = .encoding)
      (hnone : ∀ w, ¬ Gives setting v w) :
      Offends setting v (.wrongType SettingsError.notEncoding.message)

variable {setting : Setting} {v w : Value} {refusal : Rejection}

/-! ### One field taken -/

theorem mapM_string?_eq_some_iff {items : List Value} {globs : List Spelling} :
    items.mapM string? = some globs ↔ items = globs.map .string := by
  induction items generalizing globs with
  | nil => cases globs <;> simp
  | cons item rest ih =>
      rw [List.mapM_cons]
      cases item with
      | string s =>
          simp only [string?, Option.bind_eq_bind, Option.bind_some, Option.bind_eq_some_iff, ih]
          cases globs with
          | nil => simp
          | cons g globs => simp [and_comm, and_assoc]
      | _ => cases globs <;> simp [string?]

theorem checkGlobs_eq_ok_iff {globs : List Spelling} :
    checkGlobs setting v = .ok globs ↔
      (∃ glob, v = .string glob ∧ globs = [glob]) ∨ v = .list (globs.map .string) := by
  cases v with
  | string s => simp [checkGlobs, eq_comm]
  | list items =>
      rw [checkGlobs]
      cases hitems : items.mapM string? with
      | none =>
          have hne : items ≠ globs.map .string := by
            rw [ne_eq, ← mapM_string?_eq_some_iff, hitems]
            simp
          simp [hne]
      | some found =>
          rw [mapM_string?_eq_some_iff] at hitems
          subst hitems
          simp [List.map_inj_right]
  | _ => simp [checkGlobs]

theorem checkBound_eq_ok_iff {n : Nat} : checkBound setting v = .ok n ↔ v = .int n := by
  unfold checkBound
  split
  · simp
  · next n hn =>
      constructor
      · exact nofun
      · intro h
        cases h
        exact absurd rfl (hn _)
  · next hint =>
      constructor
      · exact nofun
      · intro h
        exact absurd h (hint _)

theorem checkEncoding_eq_ok_iff {name : Spelling} :
    checkEncoding v = .ok name ↔ v = .string name ∧ name ≠ [] := by
  unfold checkEncoding
  split
  · next p rest =>
      constructor
      · intro h
        cases h
        exact ⟨rfl, nofun⟩
      · rintro ⟨h, -⟩
        cases h
        rfl
  · next hother =>
      refine ⟨nofun, ?_⟩
      rintro ⟨rfl, hname⟩
      cases name with
      | nil => exact absurd rfl hname
      | cons p rest => exact absurd rfl (hother p rest)

/-- A field that passes gives its setting a value. -/
theorem gives_of_checkField {a : Assignment} (h : checkField setting v = .ok a) :
    ∃ w, Gives setting v w ∧ a.field = (.ofText setting.key, w) := by
  cases setting with
  | included | excluded =>
      obtain ⟨globs, hglobs, rfl⟩ := map_eq_ok_iff.mp h
      refine ⟨.list (globs.map .string), ?_, rfl⟩
      rcases checkGlobs_eq_ok_iff.mp hglobs with ⟨glob, rfl, rfl⟩ | rfl
      · exact .glob rfl glob
      · exact .globs rfl globs
  | maxFiles | maxTextLength | maxMatches | resolveDepth =>
      obtain ⟨n, hn, rfl⟩ := map_eq_ok_iff.mp h
      rw [checkBound_eq_ok_iff] at hn
      subst hn
      exact ⟨.int n, .bound rfl n, rfl⟩
  | encoding =>
      obtain ⟨name, hname, rfl⟩ := map_eq_ok_iff.mp h
      obtain ⟨rfl, hfull⟩ := checkEncoding_eq_ok_iff.mp hname
      exact ⟨.string name, .encoding rfl hfull, rfl⟩

theorem exists_checkField_of_gives (h : Gives setting v w) :
    ∃ a, checkField setting v = .ok a := by
  cases h with
  | glob hkind glob =>
      cases setting with
      | included | excluded => exact ⟨_, rfl⟩
      | _ => cases hkind
  | globs hkind globs =>
      cases setting with
      | included | excluded =>
          exact ⟨_, map_eq_ok_iff.mpr ⟨globs, checkGlobs_eq_ok_iff.mpr (.inr rfl), rfl⟩⟩
      | _ => cases hkind
  | bound hkind n =>
      cases setting with
      | maxFiles | maxTextLength | maxMatches | resolveDepth => exact ⟨_, rfl⟩
      | _ => cases hkind
  | encoding hkind hname =>
      cases setting with
      | encoding =>
          exact ⟨_, map_eq_ok_iff.mpr ⟨_, checkEncoding_eq_ok_iff.mpr ⟨rfl, hname⟩, rfl⟩⟩
      | _ => cases hkind

/-- A field passes exactly if it gives its setting a value. -/
theorem exists_checkField_iff :
    (∃ a, checkField setting v = .ok a) ↔ ∃ w, Gives setting v w := by
  constructor
  · rintro ⟨a, h⟩
    obtain ⟨w, hw, -⟩ := gives_of_checkField h
    exact ⟨w, hw⟩
  · exact fun ⟨w, hw⟩ => exists_checkField_of_gives hw

/-! ### One field refused -/

theorem isWritable_iff (n : Int) :
    Numeral.isWritable n = true ↔ n.natAbs < 10 ^ Numeral.maxDigits := by
  rw [Numeral.isWritable, decide_eq_true_eq]
  exact Nat.length_repr_le_iff (by decide)

theorem checkBound_refused_iff (hkind : setting.kind = .bound) :
    (∃ e, checkBound setting v = .error e ∧ Session.rejection e = refusal) ↔
      Offends setting v refusal := by
  constructor
  · rintro ⟨e, h, rfl⟩
    unfold checkBound at h
    split at h
    · cases h
    · next n hn =>
        have hneg : n < 0 := by
          cases n with
          | ofNat n => exact absurd rfl (hn n)
          | negSucc n => exact Int.negSucc_lt_zero n
        cases h
        split
        · next hshort => exact .negative hkind hneg ((isWritable_iff n).mp hshort)
        · next hlong =>
            rw [isWritable_iff, Nat.not_lt] at hlong
            exact .unwritable hkind hneg hlong
    · next hint =>
        cases h
        exact .notInteger hkind hint
  · intro h
    cases h with
    | notInteger _ hint =>
        refine ⟨.notInteger setting v.typeName, ?_, rfl⟩
        cases v with
        | int n => exact absurd rfl (hint n)
        | _ => rfl
    | negative _ hneg hshort =>
        obtain ⟨n, rfl⟩ := Int.eq_negSucc_of_lt_zero hneg
        refine ⟨.negative setting (.negSucc n), ?_, rfl⟩
        rw [checkBound, if_pos ((isWritable_iff _).mpr hshort)]
        exact nofun
    | unwritable _ hneg hlong =>
        obtain ⟨n, rfl⟩ := Int.eq_negSucc_of_lt_zero hneg
        refine ⟨.unwritable, ?_, rfl⟩
        rw [checkBound, if_neg]
        · rw [isWritable_iff, Nat.not_lt]
          exact hlong
        · exact nofun
    | notGlobs hother | notEncoding hother => rw [hkind] at hother; cases hother

theorem checkField_eq_error_iff_of_bound (hkind : setting.kind = .bound) {e : SettingsError} :
    checkField setting v = .error e ↔ checkBound setting v = .error e := by
  cases setting with
  | maxFiles | maxTextLength | maxMatches | resolveDepth => exact map_eq_error_iff
  | _ => cases hkind

theorem eq_notGlobs_of_checkGlobs {e : SettingsError} (h : checkGlobs setting v = .error e) :
    e = .notGlobs setting := by
  unfold checkGlobs at h
  split at h
  · cases h
  · split at h
    · cases h
    · exact (Except.error.inj h).symm
  · exact (Except.error.inj h).symm

theorem eq_notGlobs_of_checkField (hkind : setting.kind = .globs) {e : SettingsError}
    (h : checkField setting v = .error e) : e = .notGlobs setting := by
  cases setting with
  | included | excluded => exact eq_notGlobs_of_checkGlobs (map_eq_error_iff.mp h)
  | _ => cases hkind

theorem eq_notEncoding_of_checkField (hkind : setting.kind = .encoding) {e : SettingsError}
    (h : checkField setting v = .error e) : e = .notEncoding := by
  cases setting with
  | encoding =>
      have hcheck : checkEncoding v = .error e := map_eq_error_iff.mp h
      unfold checkEncoding at hcheck
      split at hcheck
      · cases hcheck
      · exact (Except.error.inj hcheck).symm
  | _ => cases hkind

/-- Where a check has one thing to complain of, it does so of all that gives no value. -/
theorem refused_iff_of_single {cause : SettingsError}
    (hsingle : ∀ e, checkField setting v = .error e → e = cause) :
    (∃ e, checkField setting v = .error e ∧ Session.rejection e = refusal) ↔
      (∀ w, ¬ Gives setting v w) ∧ Session.rejection cause = refusal := by
  have hnone : (∃ e, checkField setting v = .error e) ↔ ∀ w, ¬ Gives setting v w := by
    rw [← not_exists, ← exists_checkField_iff, isOk_iff]
    simp only [ne_eq, not_forall, not_not]
  rw [← hnone]
  constructor
  · rintro ⟨e, he, hrefusal⟩
    exact ⟨⟨e, he⟩, hsingle e he ▸ hrefusal⟩
  · rintro ⟨⟨e, he⟩, hrefusal⟩
    exact ⟨e, he, hsingle e he ▸ hrefusal⟩

/-- A field is refused for what is wrong with it, and for nothing else. -/
theorem checkField_refused_iff :
    (∃ e, checkField setting v = .error e ∧ Session.rejection e = refusal) ↔
      Offends setting v refusal := by
  cases hkind : setting.kind with
  | globs =>
      rw [refused_iff_of_single fun e he => eq_notGlobs_of_checkField hkind he]
      constructor
      · rintro ⟨hnone, rfl⟩
        exact .notGlobs hkind hnone
      · intro h
        cases h with
        | notGlobs _ hnone => exact ⟨hnone, rfl⟩
        | notInteger hother | negative hother | unwritable hother | notEncoding hother =>
            rw [hkind] at hother
            cases hother
  | bound =>
      simp only [checkField_eq_error_iff_of_bound hkind]
      exact checkBound_refused_iff hkind
  | encoding =>
      rw [refused_iff_of_single fun e he => eq_notEncoding_of_checkField hkind he]
      constructor
      · rintro ⟨hnone, rfl⟩
        exact .notEncoding hkind hnone
      · intro h
        cases h with
        | notEncoding _ hnone => exact ⟨hnone, rfl⟩
        | notGlobs hother | notInteger hother | negative hother | unwritable hother =>
            rw [hkind] at hother
            cases hother

end Settings

end SwatchIndex
