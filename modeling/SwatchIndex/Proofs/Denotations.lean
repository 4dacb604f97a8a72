/-
What colours denote.

A numeral denotes a number in base ten, a triplet the colour with these numbers as its channels, and
a code the colour whose channels it spells in base sixteen.  `decimal` and `denoted?` say so, each
in its own terms: the readers and the writer of `Color.lean` are not used.

Writing a colour and reading it back gives the colour again (`denoted?_code`), and only one code in
normal form denotes it (`eq_code_iff`).  So bringing a code to its normal form is reading the colour
and writing it (`fromCode_eq`), and everything about normal forms follows from this equation: which
texts have one, that it is kept, and that two texts have the same one exactly if they denote the
same colour.  The same holds of triplets (`readTriplet_eq_some_iff`), so both ways of writing a
colour meet in one form.
-/
import SwatchIndex.Proofs.Printing
import SwatchIndex.Proofs.Triplets
import Mathlib.Data.List.Induction
import Mathlib.Data.Nat.Digits.Defs

namespace SwatchIndex

/-! ### Numerals -/

namespace Numeral

/-- The number that a run of digits denotes, the last digit standing for ones. -/
def decimal (digits : Text) : Nat := Nat.ofDigits 10 (digits.reverse.map fun c => c.toNat - 48)

theorem value_eq_decimal (digits : Text) : value digits = decimal digits := by
  induction digits using List.reverseRecOn with
  | nil => rfl
  | append_singleton digits c ih =>
      have hvalue : value (digits ++ [c]) = 10 * value digits + digitValue c := by
        simp only [value, List.foldl_append, List.foldl_cons, List.foldl_nil]
      have hdecimal : decimal (digits ++ [c]) = (c.toNat - 48) + 10 * decimal digits := by
        simp only [decimal, List.reverse_append, List.reverse_cons, List.reverse_nil,
          List.nil_append, List.cons_append, List.map_cons, Nat.ofDigits_cons]
      rw [hvalue, hdecimal, ih, Nat.add_comm]
      rfl

theorem read_of_le {digits : Text} (h : digits.length ≤ maxDigits) :
    read digits = .ok (decimal digits) := by
  rw [read, if_neg (Nat.not_lt.mpr h), value_eq_decimal]

end Numeral

namespace Color

/-! ### Codes -/

/-- The value of a digit of base sixteen, in either case. -/
def hexValue? (c : Char) : Option Nat :=
  if '0' ≤ c ∧ c ≤ '9' then some (c.toNat - '0'.toNat)
  else if 'a' ≤ c ∧ c ≤ 'f' then some (10 + (c.toNat - 'a'.toNat))
  else if 'A' ≤ c ∧ c ≤ 'F' then some (10 + (c.toNat - 'A'.toNat))
  else none

/-- The channel that two digits spell. -/
def channel? (high low : Char) : Option (Fin 256) := do
  let h ← hexValue? high
  let l ← hexValue? low
  pure (Fin.ofNat 256 (16 * h + l))

/-- The colour whose channels are spelled by six digits, two for each. -/
def spelled? (r r' g g' b b' : Char) : Option Rgb := do
  let red ← channel? r r'
  let green ← channel? g g'
  let blue ← channel? b b'
  pure ⟨red, green, blue⟩

/-- The colour that a code denotes.  In the short form each digit stands for two. -/
def denoted? : Text → Option Rgb
  | ['#', r, g, b] => spelled? r r g g b b
  | ['#', r, r', g, g', b, b'] => spelled? r r' g g' b b'
  | _ => none

theorem isSome_hexValue? (c : Char) : (hexValue? c).isSome = isHexDigit c := by
  have hdigit : ('0' ≤ c ∧ c ≤ '9') ↔ c.isDigit = true := by
    simp [Char.isDigit, Char.le_def]
  simp only [hexValue?, hdigit, isHexDigit]
  split
  · simp [*]
  · split
    · simp [*]
    · split <;> simp_all

/-- A digit is the capital digit of its value, but for its case. -/
theorem toUpper_of_hexValue? {c : Char} {n : Nat} (h : hexValue? c = some n) :
    n < 16 ∧ c.toUpper = Rgb.hexDigit n := by
  have hall : "0123456789abcdefABCDEF".toList.all (fun c => (hexValue? c).all fun n =>
      n < 16 && c.toUpper == Rgb.hexDigit n) = true := by decide
  have hhex : isHexDigit c = true := by rw [← isSome_hexValue?, h]; rfl
  have hc := List.all_eq_true.mp hall c (mem_of_isHexDigit hhex)
  simpa [h] using hc

theorem hexValue?_hexDigit : ∀ n < 16, hexValue? (Rgb.hexDigit n) = some n := by decide

/-- A channel is read off the two digits that are written for it. -/
theorem channel?_channelCode (n : Fin 256) :
    channel? (Rgb.hexDigit (n.val / 16)) (Rgb.hexDigit (n.val % 16)) = some n := by
  have hback : 16 * (n.val / 16) + n.val % 16 = n.val := by omega
  simp only [channel?, hexValue?_hexDigit _ (show n.val / 16 < 16 by omega),
    hexValue?_hexDigit _ (show n.val % 16 < 16 by omega), Option.bind_eq_bind, Option.bind_some,
    hback]
  exact congrArg some (Fin.ext (Nat.mod_eq_of_lt n.isLt))

/-- Two digits spell a channel, which is written with these digits as capitals. -/
theorem channel?_of_digits {h l : Char} (hh : isHexDigit h = true) (hl : isHexDigit l = true) :
    ∃ n, channel? h l = some n ∧ Rgb.channelCode n = [h.toUpper, l.toUpper] := by
  obtain ⟨x, hx⟩ := Option.isSome_iff_exists.mp ((isSome_hexValue? h).trans hh)
  obtain ⟨y, hy⟩ := Option.isSome_iff_exists.mp ((isSome_hexValue? l).trans hl)
  obtain ⟨hx16, hupper⟩ := toUpper_of_hexValue? hx
  obtain ⟨hy16, hlower⟩ := toUpper_of_hexValue? hy
  refine ⟨Fin.ofNat 256 (16 * x + y), by simp [channel?, hx, hy], ?_⟩
  have hval : (Fin.ofNat 256 (16 * x + y)).val = 16 * x + y := Nat.mod_eq_of_lt (by omega)
  rw [Rgb.channelCode, hval, hupper, hlower, show (16 * x + y) / 16 = x by omega,
    show (16 * x + y) % 16 = y by omega]

theorem digits_of_channel? {h l : Char} {n : Fin 256} (hn : channel? h l = some n) :
    isHexDigit h = true ∧ isHexDigit l = true := by
  rw [← isSome_hexValue?, ← isSome_hexValue?]
  cases hh : hexValue? h with
  | none => simp [channel?, hh] at hn
  | some x =>
      cases hl : hexValue? l with
      | none => simp [channel?, hh, hl] at hn
      | some y => exact ⟨rfl, rfl⟩

/-- Six digits spell a colour, and its normal form has these digits as capitals. -/
theorem spelled?_of_digits {r r' g g' b b' : Char}
    (h : ∀ c ∈ [r, r', g, g', b, b'], isHexDigit c = true) :
    ∃ c, spelled? r r' g g' b b' = some c ∧
      c.code = '#' :: [r, r', g, g', b, b'].map Char.toUpper := by
  obtain ⟨red, hred, hredCode⟩ := channel?_of_digits (h r (by simp)) (h r' (by simp))
  obtain ⟨green, hgreen, hgreenCode⟩ := channel?_of_digits (h g (by simp)) (h g' (by simp))
  obtain ⟨blue, hblue, hblueCode⟩ := channel?_of_digits (h b (by simp)) (h b' (by simp))
  refine ⟨⟨red, green, blue⟩, by simp [spelled?, hred, hgreen, hblue], ?_⟩
  simp [Rgb.code, hredCode, hgreenCode, hblueCode]

theorem digits_of_spelled? {r r' g g' b b' : Char} {c : Rgb}
    (h : spelled? r r' g g' b b' = some c) :
    ∀ d ∈ [r, r', g, g', b, b'], isHexDigit d = true := by
  simp only [spelled?, Option.bind_eq_bind, Option.bind_eq_some_iff] at h
  obtain ⟨red, hred, green, hgreen, blue, hblue, -⟩ := h
  simp [digits_of_channel? hred, digits_of_channel? hgreen, digits_of_channel? hblue]

/-- The texts that denote a colour are the codes. -/
theorem isCode_of_denoted? {code : Text} {c : Rgb} (h : denoted? code = some c) : IsCode code := by
  unfold denoted? at h
  split at h
  · rename_i r g b
    have hdigits := digits_of_spelled? h
    exact ⟨[r, g, b], rfl, Or.inl rfl, by simp_all⟩
  · rename_i r r' g g' b b'
    exact ⟨[r, r', g, g', b, b'], rfl, Or.inr rfl, digits_of_spelled? h⟩
  · cases h

/-- A code denotes a colour, and its digits, lengthened and capital, are those of the normal
form. -/
theorem denoted?_of_digits {digits : Text} (hlength : digits.length = 3 ∨ digits.length = 6)
    (hdigits : ∀ c ∈ digits, isHexDigit c = true) :
    ∃ c, denoted? ('#' :: digits) = some c ∧
      c.code = '#' :: (lengthen digits).map Char.toUpper := by
  rcases hlength with hlength | hlength
  · obtain ⟨r, g, b, rfl⟩ := List.length_eq_three.mp hlength
    exact spelled?_of_digits (by simp_all)
  · match digits, hlength with
    | [r, r', g, g', b, b'], _ => exact spelled?_of_digits hdigits

/-- What is written for a colour denotes it. -/
theorem denoted?_code (c : Rgb) : denoted? c.code = some c := by
  show spelled? _ _ _ _ _ _ = some c
  simp only [spelled?, channel?_channelCode, Option.bind_eq_bind, Option.bind_some,
    Option.pure_def]

theorem code_inj {c d : Rgb} : c.code = d.code ↔ c = d := by
  refine ⟨fun h => ?_, fun h => by rw [h]⟩
  exact Option.some.inj (by rw [← denoted?_code c, h, denoted?_code d])

/-- **Bringing a code to its normal form is reading the colour and writing it.** -/
theorem fromCode_eq (value : Text) :
    fromCode value = (denoted? (Text.strip value)).map Rgb.code := by
  unfold fromCode
  cases hcode : codeDigits? (Text.strip value) with
  | some digits =>
      obtain ⟨heq, hlength, hdigits⟩ := codeDigits?_eq_some_iff.mp hcode
      obtain ⟨c, hc, hnormal⟩ := denoted?_of_digits hlength hdigits
      rw [heq, hc, Option.map_some, Option.map_some, hnormal]
  | none =>
      cases hdenoted : denoted? (Text.strip value) with
      | none => rfl
      | some c =>
          have hsome := isCode_iff.mp (isCode_of_denoted? hdenoted)
          rw [hcode] at hsome
          cases hsome

/-! ### Normal forms -/

theorem toUpper_of_isCapitalDigit {c : Char} (h : isCapitalDigit c = true) : c.toUpper = c := by
  have hall : "0123456789abcdefABCDEF".toList.all
      (fun c => !isCapitalDigit c || c.toUpper == c) = true := by decide
  have hc := List.all_eq_true.mp hall c (mem_of_isHexDigit (isHexDigit_of_isCapitalDigit h))
  simpa [h] using hc

/-- A colour has one code in normal form, which is the one that is written for it. -/
theorem eq_code_iff {code : Text} {c : Rgb} :
    code = c.code ↔ IsNormal code ∧ denoted? code = some c := by
  constructor
  · rintro rfl
    exact ⟨isNormal_code c, denoted?_code c⟩
  · rintro ⟨⟨digits, rfl, hlength, hcapital⟩, hdenoted⟩
    obtain ⟨d, hd, hcode⟩ := denoted?_of_digits (.inr hlength)
      fun c hc => isHexDigit_of_isCapitalDigit (hcapital c hc)
    obtain rfl : d = c := Option.some.inj (hd.symm.trans hdenoted)
    have hlong : lengthen digits = digits := by
      match digits, hlength with
      | [_, _, _, _, _, _], _ => rfl
    have hupper : digits.map Char.toUpper = digits :=
      (List.map_congr_left fun c hc => toUpper_of_isCapitalDigit (hcapital c hc)).trans
        (List.map_id' digits)
    rw [hcode, hlong, hupper]

/-- What is written for a colour is in normal form and stays as it is. -/
theorem fromCode_code (c : Rgb) : fromCode c.code = some c.code := by
  rw [fromCode_eq, (isNormal_code c).isCode.strip_eq, denoted?_code, Option.map_some]

/-! ### Triplets -/

/-- The value is a triplet, and its numerals, none of them too long, denote these numbers. -/
def Lists (value : Text) (r g b : Nat) : Prop :=
  ∃ red green blue, IsTriplet (Text.strip value) red green blue ∧
    (∀ n ∈ [red, green, blue], n.length ≤ 4300) ∧
    Numeral.decimal red = r ∧ Numeral.decimal green = g ∧ Numeral.decimal blue = b

theorem readTriplet_of_lists {value : Text} {r g b : Nat} (h : Lists value r g b) :
    readTriplet value = .ok (Rgb.ofNats? r g b) := by
  obtain ⟨red, green, blue, hshape, hshort, rfl, rfl, rfl⟩ := h
  simp only [readTriplet, numerals?_eq_some_iff.mpr hshape,
    Numeral.read_of_le (hshort red (by simp)), Numeral.read_of_le (hshort green (by simp)),
    Numeral.read_of_le (hshort blue (by simp))]
  rfl

theorem readTriplet_of_shapeless {value : Text}
    (h : ∀ red green blue, ¬ IsTriplet (Text.strip value) red green blue) :
    readTriplet value = .ok none := by
  unfold readTriplet
  split
  · rfl
  · rename_i red green blue hsome
    exact absurd (numerals?_eq_some_iff.mp hsome) (h red green blue)

/-- A value has not the shape of a triplet, or one of its numerals is too long, or it lists three
numbers. -/
theorem shapeless_or_overlong_or_lists (value : Text) :
    (∀ red green blue, ¬ IsTriplet (Text.strip value) red green blue) ∨
      (∃ red green blue, IsTriplet (Text.strip value) red green blue ∧
        ∃ n ∈ [red, green, blue], 4300 < n.length) ∨
      ∃ r g b, Lists value r g b := by
  by_cases hshape : ∃ red green blue, IsTriplet (Text.strip value) red green blue
  · obtain ⟨red, green, blue, hshape⟩ := hshape
    by_cases hlong : ∃ n ∈ [red, green, blue], 4300 < n.length
    · exact .inr (.inl ⟨red, green, blue, hshape, hlong⟩)
    · have hshort : ∀ n ∈ [red, green, blue], n.length ≤ 4300 :=
        fun n hn => Nat.le_of_not_lt fun h => hlong ⟨n, hn, h⟩
      exact .inr (.inr ⟨_, _, _, red, green, blue, hshape, hshort, rfl, rfl, rfl⟩)
  · exact .inl fun red green blue h => hshape ⟨red, green, blue, h⟩

theorem exists_error_iff {value : Text} :
    (∃ cause, readTriplet value = .error cause) ↔
      ∃ red green blue, IsTriplet (Text.strip value) red green blue ∧
        ∃ n ∈ [red, green, blue], 4300 < n.length := by
  have hlong : ∀ ns : List Text,
      (∃ cause, Numeral.overlong? ns = some cause) ↔ ∃ n ∈ ns, 4300 < n.length := by
    intro ns
    rw [← Option.isSome_iff_exists, Numeral.overlong?, Option.isSome_map, List.find?_isSome]
    constructor
    · rintro ⟨n, hn, hlong⟩
      exact ⟨n, hn, of_decide_eq_true hlong⟩
    · rintro ⟨n, hn, hlong⟩
      exact ⟨n, hn, decide_eq_true hlong⟩
  simp only [readTriplet_eq_error_iff, IsOverlong, ← hlong]
  constructor
  · rintro ⟨cause, red, green, blue, hshape, hcause⟩
    exact ⟨red, green, blue, hshape, cause, hcause⟩
  · rintro ⟨red, green, blue, hshape, cause, hcause⟩
    exact ⟨cause, red, green, blue, hshape, hcause⟩

theorem ofNats?_eq_some_iff {r g b : Nat} {c : Rgb} :
    Rgb.ofNats? r g b = some c ↔ r = c.red.val ∧ g = c.green.val ∧ b = c.blue.val := by
  obtain ⟨red, green, blue⟩ := c
  unfold Rgb.ofNats?
  split
  · simp [Fin.ext_iff]
  · rename_i hlarge
    refine ⟨fun h => (by cases h), ?_⟩
    rintro ⟨rfl, rfl, rfl⟩
    exact absurd ⟨red.isLt, green.isLt, blue.isLt⟩ hlarge

/-- **A triplet gives the colour with the numbers that it lists.** -/
theorem readTriplet_eq_some_iff {value : Text} {c : Rgb} :
    readTriplet value = .ok (some c) ↔ Lists value c.red c.green c.blue := by
  constructor
  · intro h
    rcases shapeless_or_overlong_or_lists value with hshape | hlong | ⟨r, g, b, hlists⟩
    · rw [readTriplet_of_shapeless hshape] at h
      cases h
    · obtain ⟨cause, hcause⟩ := exists_error_iff.mpr hlong
      rw [hcause] at h
      cases h
    · rw [readTriplet_of_lists hlists, Except.ok.injEq, ofNats?_eq_some_iff] at h
      obtain ⟨rfl, rfl, rfl⟩ := h
      exact hlists
  · intro h
    rw [readTriplet_of_lists h, Except.ok.injEq, ofNats?_eq_some_iff]
    exact ⟨rfl, rfl, rfl⟩

theorem readTriplet_eq_none_iff {value : Text} :
    readTriplet value = .ok none ↔
      (∀ red green blue, ¬ IsTriplet (Text.strip value) red green blue) ∨
        ∃ r g b, Lists value r g b ∧ ¬ (r ≤ 255 ∧ g ≤ 255 ∧ b ≤ 255) := by
  have hnone : ∀ r g b, Rgb.ofNats? r g b = none ↔ ¬ (r ≤ 255 ∧ g ≤ 255 ∧ b ≤ 255) := by
    intro r g b
    simp only [Rgb.ofNats?, dite_eq_right_iff, reduceCtorEq, imp_false, Nat.lt_succ_iff]
  constructor
  · intro h
    rcases shapeless_or_overlong_or_lists value with hshape | hlong | ⟨r, g, b, hlists⟩
    · exact .inl hshape
    · obtain ⟨cause, hcause⟩ := exists_error_iff.mpr hlong
      rw [hcause] at h
      cases h
    · rw [readTriplet_of_lists hlists, Except.ok.injEq, hnone] at h
      exact .inr ⟨r, g, b, hlists, h⟩
  · rintro (hshape | ⟨r, g, b, hlists, hlarge⟩)
    · exact readTriplet_of_shapeless hshape
    · rw [readTriplet_of_lists hlists, (hnone r g b).mpr hlarge]

/--
**The values of a triplet are told apart exactly.**  A colour is read exactly off a triplet whose
numerals denote its channels, whatever zeros lead them.  Nothing is read off a value without the
shape or with a channel above 255, and a numeral of more than 4300 digits is an error, even beside
such a channel.  The normal form has two capital digits of base sixteen for each channel, from which
the colour can be read back, so values have the same form exactly if they list the same colour.
-/
theorem triplets_told_apart (value : Text) :
    (∀ c : Rgb, readTriplet value = .ok (some c) ↔ Lists value c.red c.green c.blue) ∧
      (readTriplet value = .ok none ↔
        (∀ red green blue, ¬ IsTriplet (Text.strip value) red green blue) ∨
          ∃ r g b, Lists value r g b ∧ ¬ (r ≤ 255 ∧ g ≤ 255 ∧ b ≤ 255)) ∧
      ((∃ cause, readTriplet value = .error cause) ↔
        ∃ red green blue, IsTriplet (Text.strip value) red green blue ∧
          ∃ n ∈ [red, green, blue], 4300 < n.length) ∧
      (∀ cause, fromTriplet value = .error cause ↔ readTriplet value = .error cause) ∧
      (∀ code, fromTriplet value = .ok (some code) ↔
        ∃ c : Rgb, Lists value c.red c.green c.blue ∧ IsNormal code ∧ denoted? code = some c) ∧
      (∀ other (c d : Rgb), Lists value c.red c.green c.blue → Lists other d.red d.green d.blue →
        (fromTriplet value = fromTriplet other ↔ c = d)) := by
  have hform : ∀ {value : Text} {c : Rgb}, Lists value c.red c.green c.blue →
      fromTriplet value = .ok (some c.code) := by
    intro value c h
    rw [fromTriplet, readTriplet_eq_some_iff.mpr h]
    rfl
  refine ⟨fun c => readTriplet_eq_some_iff, readTriplet_eq_none_iff, exists_error_iff,
    fun cause => fromTriplet_eq_error_iff.trans readTriplet_eq_error_iff.symm,
    fun code => ⟨fun h => ?_, ?_⟩, fun other c d hc hd => ?_⟩
  · obtain ⟨c, hread, rfl⟩ := readTriplet_of_fromTriplet h
    exact ⟨c, readTriplet_eq_some_iff.mp hread, eq_code_iff.mp rfl⟩
  · rintro ⟨c, hlists, hcode⟩
    rw [hform hlists, eq_code_iff.mpr hcode]
  · rw [hform hc, hform hd, Except.ok.injEq, Option.some.injEq, code_inj]

example : readTriplet " 007,\t0255 ,1\n".toList = .ok (some ⟨7, 255, 1⟩) := by decide

/-! ### Swatches -/

theorem fromCode_ne_none_iff {value : Text} :
    fromCode value ≠ none ↔ IsCode (Text.strip value) := by
  rw [fromCode, ne_eq, Option.map_eq_none_iff, isCode_iff, Option.isSome_iff_ne_none]

/-- A code has the normal form of the colour that it denotes. -/
theorem exists_denoted_of_isCode {code : Text} (h : IsCode code) :
    ∃ c, denoted? code = some c ∧ fromCode code = some c.code := by
  obtain ⟨digits, rfl, hlength, hdigits⟩ := id h
  obtain ⟨c, hc, -⟩ := denoted?_of_digits hlength hdigits
  exact ⟨c, hc, by rw [fromCode_eq, h.strip_eq, hc, Option.map_some]⟩

theorem fromCode_of_fromTriplet {value normal : Text} (h : fromTriplet value = .ok (some normal)) :
    fromCode normal = some normal := by
  obtain ⟨c, -, rfl⟩ := readTriplet_of_fromTriplet h
  exact fromCode_code c

/--
**Codes have the same normal form exactly if they denote the same colour.**  The texts that have one
are the codes, blanks around them aside; it denotes the same colour, and both it and the normal form
of a triplet stay as they are.  So the swatch of a definition is the colour itself where its value
gives it, and where a comment does, it is what is written for the colour that the comment denotes,
in whatever case and form.
-/
theorem codes_told_apart (a b : Text) :
    (fromCode a ≠ none ↔ IsCode (Text.strip a)) ∧
      (∀ normal, fromCode a = some normal →
        IsNormal normal ∧ (∃ c, denoted? (Text.strip a) = some c ∧ denoted? normal = some c) ∧
          fromCode normal = some normal) ∧
      (∀ value normal, fromTriplet value = .ok (some normal) → fromCode normal = some normal) ∧
      (fromCode a ≠ none → fromCode b ≠ none →
        (fromCode a = fromCode b ↔ denoted? (Text.strip a) = denoted? (Text.strip b))) ∧
      ∀ text, ∀ k ∈ Declaration.clauses text, ∀ source d, k.outcome source = .ok d →
        (k.code = none → d.swatch = d.color) ∧
          ∀ code ∈ k.code, d.color = some code ∧
            ∃ c, denoted? code = some c ∧ d.swatch = some c.code := by
  refine ⟨fromCode_ne_none_iff, fun normal h => ?_, fun value normal => fromCode_of_fromTriplet,
    fun _ _ => ?_, fun text k hk source d houtcome => ?_⟩
  · rw [fromCode_eq, Option.map_eq_some_iff] at h
    obtain ⟨c, hc, rfl⟩ := h
    exact ⟨isNormal_code c, ⟨c, hc, denoted?_code c⟩, fromCode_code c⟩
  · rw [fromCode_eq, fromCode_eq]
    exact (Option.map_injective fun c d => code_inj.mp).eq_iff
  · obtain ⟨shade, hshade, rfl⟩ := Declaration.Clause.outcome_eq_ok houtcome
    constructor
    · intro hplain
      rw [hplain] at hshade
      cases shade with
      | none => rfl
      | some normal => exact fromCode_of_fromTriplet hshade
    · intro code hcode
      rw [Option.mem_def.mp hcode] at hshade
      cases hshade
      obtain ⟨c, hc, hnormal⟩ :=
        exists_denoted_of_isCode ((Declaration.wellFormed_of_mem_clauses hk).code code hcode)
      exact ⟨rfl, c, hc, hnormal⟩

end Color

end SwatchIndex
