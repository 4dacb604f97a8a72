/-
Scanning a stylesheet for declarations of custom properties.

A declaration is a name, a colon and a value that runs to a semicolon or to the closing brace of its
block.  A value that runs into an opening brace belongs to a selector and is passed over.  Right
after the semicolon a comment may give the colour: `/* #abc */`.

The scan walks a cursor over the text.  Each step looks for the next name, finds where its value
stops, and moves on.  The place of the last terminator is kept in the cursor: names that share a
terminator look for it once.  A step either ends the scan, passes over a name, or declares one, and
the cursor always moves forward (`Cursor.pos_lt_of_step`), so the scan ends on every text.
-/
import SwatchIndex.Definition
import SwatchIndex.Text.Clip
import SwatchIndex.Text.Search

namespace SwatchIndex

namespace Declaration

/-! ### The parts of a declaration -/

/-- A declared name and the number of characters up to and including its colon. -/
structure Head where
  name : Text
  width : Nat
deriving DecidableEq, Repr

/-- The head of a declaration that starts here.  Inside an identifier there is none. -/
def head? (before : Bool) (t : Text) : Option Head :=
  if before then none
  else
    let name := t.takeWhile isNameChar
    let gap := (t.dropWhile isNameChar).takeWhile isSpace
    if isName name then
      match (t.dropWhile isNameChar).dropWhile isSpace with
      | ':' :: _ => some ⟨name, name.length + gap.length + 1⟩
      | _ => none
    else none

/-- The characters at which a value stops. -/
def isTerminator (c : Char) : Bool := c == ';' || c == '{' || c == '}'

/-- The colour comment that starts here: the code as written, and the comment's width with the space
in front of it. -/
def colorComment? (t : Text) : Option (Text × Nat) :=
  match t.dropWhile isSpace with
  | '/' :: '*' :: inner =>
    match inner.dropWhile isSpace with
    | '#' :: digits =>
      let code := digits.takeWhile Color.isHexDigit
      if code.length == 3 || code.length == 6 then
        match (digits.dropWhile Color.isHexDigit).dropWhile isSpace with
        | '*' :: '/' :: rest => some ('#' :: code, t.length - rest.length)
        | _ => none
      else none
    | _ => none
  | _ => none

/-! ### The cursor -/

/-- How far a scan has come. -/
structure Cursor where
  /-- Where the search for the next name starts. -/
  pos : Nat
  /-- The terminator that was found last. -/
  stop : Option Nat
deriving DecidableEq, Repr

namespace Cursor

/-- The cursor of a scan that has not started. -/
def start : Cursor := ⟨0, none⟩

/-- Whether a name character stands just before the place `i`. -/
def nameBefore (text : Text) : Nat → Bool
  | 0 => false
  | i + 1 => text[i]?.any isNameChar

/-- The next name and the place where its value starts.  The search looks behind the cursor: the
middle of an identifier starts no name, also where the cursor stands in it. -/
def next? (text : Text) (c : Cursor) : Option (Text × Nat) :=
  (search head? (nameBefore text c.pos) c.pos (text.drop c.pos)).map fun (i, head) =>
    (head.name, i + head.width)

/-- The first terminator at or behind `i`, or the text's length when there is none. -/
def findStop (text : Text) (i : Nat) : Nat := i + (text.drop i).findIdx isTerminator

/-- The terminator of a value that starts at `i`: the one found last if it is not yet passed. -/
def stopFrom (text : Text) (c : Cursor) (i : Nat) : Nat :=
  match c.stop with
  | some s => if i ≤ s then s else findStop text i
  | none => findStop text i

end Cursor

/-- What one step of a scan does. -/
inductive Step where
  /-- There is no further name. -/
  | finished
  /-- A name is passed over. -/
  | passed (next : Cursor)
  /-- A name is declared, with the code of its colour comment if it has one. -/
  | declared (name value : Text) (code : Option Text) (next : Cursor)
deriving DecidableEq, Repr

/-- Where a step leaves the cursor, if the scan goes on. -/
def Step.cursor? : Step → Option Cursor
  | .finished => none
  | .passed next => some next
  | .declared _ _ _ next => some next

namespace Cursor

/-- The value from `first` up to `stop`, without the blanks around it, if anything is left. -/
def value? (text : Text) (first stop : Nat) : Option Text :=
  match Text.strip ((text.drop first).take (stop - first)) with
  | [] => none
  | value => some value

/-- The step at a name whose value starts at `first` and whose terminator is `stop`.  An empty value
declares nothing, and neither does one that runs into an opening brace or the text's end. -/
def settle (text name : Text) (first stop : Nat) : Step :=
  match text[stop]? with
  | some ';' =>
    match value? text first stop, colorComment? (text.drop (stop + 1)) with
    | some value, some (code, width) =>
      .declared name value (some code) ⟨stop + 1 + width, some stop⟩
    | some value, none => .declared name value none ⟨stop + 1, some stop⟩
    | none, _ => .passed ⟨first, some stop⟩
  | some '}' =>
    match value? text first stop with
    | some value => .declared name value none ⟨stop, some stop⟩
    | none => .passed ⟨first, some stop⟩
  | _ => .passed ⟨first, some stop⟩

/-- One step of a scan. -/
def step (text : Text) (c : Cursor) : Step :=
  match c.next? text with
  | none => .finished
  | some (name, first) => settle text name first (c.stopFrom text first)

/-! ### The cursor moves forward -/

/-- A head has at least one character and lies within the text. -/
theorem head?_width {before : Bool} {t : Text} {h : Head} (eq : head? before t = some h) :
    0 < h.width ∧ h.width ≤ t.length := by
  have split : t.length = (t.takeWhile isNameChar).length + (t.dropWhile isNameChar).length := by
    rw [← List.length_append, List.takeWhile_append_dropWhile]
  have gap : (t.dropWhile isNameChar).length =
      ((t.dropWhile isNameChar).takeWhile isSpace).length +
        ((t.dropWhile isNameChar).dropWhile isSpace).length := by
    rw [← List.length_append, List.takeWhile_append_dropWhile]
  simp only [head?] at eq
  split at eq
  · simp at eq
  · split at eq
    · split at eq
      · rename_i rest colon
        rw [colon] at gap
        simp only [Option.some.injEq] at eq
        subst eq
        simp only [List.length_cons] at gap
        constructor <;> dsimp only <;> omega
      · simp at eq
    · simp at eq

/-- A value starts behind the cursor and within the text. -/
theorem lt_of_next? {text name : Text} {c : Cursor} {first : Nat}
    (h : c.next? text = some (name, first)) : c.pos < first ∧ first ≤ text.length := by
  simp only [next?, Option.map_eq_some_iff, Prod.mk.injEq, Prod.exists] at h
  obtain ⟨i, head, found, -, rfl⟩ := h
  obtain ⟨b, k, hi, hk, accepted⟩ := search_eq_some found
  have width := head?_width accepted
  simp only [List.length_drop] at width hk
  omega

/-- The terminator that ends a search lies at or behind the search's start. -/
theorem le_findStop (text : Text) (i : Nat) : i ≤ findStop text i := Nat.le_add_right ..

/-- The terminator of a value lies at or behind the value's start. -/
theorem le_stopFrom (text : Text) (c : Cursor) (i : Nat) : i ≤ c.stopFrom text i := by
  unfold stopFrom
  split
  · split
    · assumption
    · exact le_findStop text i
  · exact le_findStop text i

/-- A step at a name leaves the cursor at or behind the start of the name's value. -/
theorem le_of_settle {text name : Text} {first stop : Nat} {c : Cursor} (le : first ≤ stop)
    (h : (settle text name first stop).cursor? = some c) : first ≤ c.pos := by
  unfold settle at h
  split at h
  · split at h <;> cases h <;> dsimp only <;> omega
  · split at h <;> cases h <;> dsimp only <;> omega
  · cases h
    exact Nat.le_refl _

/-- A step that goes on moves the cursor forward. -/
theorem pos_lt_of_step {text : Text} {c c' : Cursor} (h : (c.step text).cursor? = some c') :
    c.pos < c'.pos ∧ c.pos < text.length := by
  unfold step at h
  split at h
  · cases h
  · rename_i name first found
    have ahead := lt_of_next? found
    have settled := le_of_settle (le_stopFrom text c first) h
    omega

end Cursor

end Declaration

end SwatchIndex
