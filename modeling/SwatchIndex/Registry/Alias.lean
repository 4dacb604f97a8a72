/-
Aliases: values that do nothing but refer to another custom property.

A definition without a colour of its own may inherit one along its alias chain.  The chain is
followed for a bounded number of hops and never back to a name it has passed.
-/
import SwatchIndex.Registry

namespace SwatchIndex

namespace Alias

/-- A reference `var(--name)`, with space allowed inside the parentheses, and what follows it. -/
def reference? (t : Text) : Option (Text × Text) := do
  let inner ← "var(".toList.isPrefixOf? t
  let inner := inner.dropWhile isSpace
  let name := inner.takeWhile isNameChar
  if isName name then
    match (inner.dropWhile isNameChar).dropWhile isSpace with
    | ')' :: rest => some (name, rest)
    | _ => none
  else none

/-- The name in a value that is a reference and nothing else. -/
def plain? (t : Text) : Option Text :=
  match reference? t with
  | some (name, []) => some name
  | _ => none

/-- The name in a value that is a reference inside a colour function and nothing else. -/
def channels? (t : Text) : Option Text := do
  let inner ← ("rgb(".toList.isPrefixOf? t).or ("rgba(".toList.isPrefixOf? t)
  let (name, rest) ← reference? (inner.dropWhile isSpace)
  if rest.dropWhile isSpace = [')'] then some name else none

/-- The name that a value is an alias of. -/
def target? (value : Text) : Option Text :=
  let t := Text.strip value
  (plain? t).or (channels? t)

/-- How an alias chain ends. -/
inductive Ending where
  /-- At a definition that has a colour. -/
  | colored (color : Text)
  /-- At a value that is no alias. -/
  | plain
  /-- At a name without a definition. -/
  | unknown (name : Text)
  /-- At a name that the chain has passed before. -/
  | cycle (name : Text)
  /-- At the last allowed hop. -/
  | exhausted
deriving DecidableEq, Repr

/-- The colour that a chain leads to. -/
def Ending.color? : Ending → Option Text
  | .colored color => some color
  | _ => none

/-- Follows the chain from `current` for the given number of hops, having passed the names in
`seen`. -/
def follow (r : Registry) (seen : List Text) (current : Definition) : Nat → Ending
  | 0 => .exhausted
  | hops + 1 =>
    match target? current.value with
    | none => .plain
    | some name =>
      if name ∈ seen then .cycle name
      else
        match r.get? name with
        | none => .unknown name
        | some target =>
          match target.color with
          | some color => .colored color
          | none => follow r (name :: seen) target hops

/-- How the chain of a definition ends.  A definition with a colour is its own end. -/
def ending (r : Registry) (depth : Int) (d : Definition) : Ending :=
  match d.color with
  | some color => .colored color
  | none => follow r [d.name] d depth.toNat

/-- The colour that a definition has or inherits. -/
def colorOf (r : Registry) (depth : Int) (d : Definition) : Option Text := (ending r depth d).color?

/-- The definition with the colour that it has or inherits. -/
def settled (r : Registry) (depth : Int) (d : Definition) : Definition :=
  match d.color with
  | some _ => d
  | none => { d with color := colorOf r depth d }

/-- Whether a definition inherits a colour. -/
def inherits (r : Registry) (depth : Int) (d : Definition) : Bool :=
  d.color.isNone && (colorOf r depth d).isSome

end Alias

/-- The registry in which definitions without a colour inherit one along their alias chains.
Without a hop to make, it is the registry itself; otherwise it is a new one with the given
version. -/
def Registry.resolve (r : Registry) (depth : Int) (version : Nat) : Registry :=
  if depth ≤ 0 then r
  else
    let settled := r.definitions.map (Alias.settled r depth)
    ⟨.ofEntries (settled.map fun d => (d.name, d)), r.collisions, version⟩

end SwatchIndex
