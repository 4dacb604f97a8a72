/-
Settings in a value that may be no object.

The keys of a value are looked at before its fields.  The keys of an object are its names, those of
a string are its code points and those of a list its items; only an object has fields as well.  Each
key counts once, and those that are no settings are listed in order.  Numbers have an order among
each other, and so have strings, but there is none across.
-/
import SwatchIndex.Decimal.Double
import SwatchIndex.Settings.Check

namespace SwatchIndex

/-- What is wrong with a value that should hold settings. -/
inductive PayloadError where
  | settings (e : SettingsError)
  | noKeys (found : String)
  | compoundKey (found : String)
  | notTextKey (found : String)
  | mixedKeys (later earlier : String)
  | noFields (found : String)
deriving DecidableEq, Repr

/-- The wording of the error. -/
def PayloadError.message : PayloadError → String
  | .settings e => e.message
  | .noKeys found => "'" ++ found ++ "' object is not iterable"
  | .compoundKey found => "unhashable type: '" ++ found ++ "'"
  | .notTextKey found => "sequence item 0: expected str instance, " ++ found ++ " found"
  | .mixedKeys later earlier =>
    "'<' not supported between instances of '" ++ later ++ "' and '" ++ earlier ++ "'"
  | .noFields found => "'" ++ found ++ "' object has no attribute 'items'"

namespace Settings

/-- A value that is a list or an object. -/
def isCompound : Value → Bool
  | .list _ => true
  | .object _ => true
  | _ => false

/-- The number that a value is; the truth values are the numbers one and zero. -/
def number? : Value → Option Double
  | .bool b => some (.ofInt (if b then 1 else 0))
  | .int n => some (.ofInt n)
  | .float x => some (.ofFloat x)
  | _ => none

/-- Whether two keys are the same; numbers of different types may be. -/
def sameKey : Value → Value → Bool
  | .null, .null => true
  | .string s, .string t => s == t
  | v, w =>
    match number? v, number? w with
    | some x, some y => x.same y
    | _, _ => false

/-- Whether a key is a setting's. -/
def isKnownKey (v : Value) : Bool := ((string? v).bind Setting.ofKey?).isSome

/-- The less of two numbers, the first if neither is. -/
def lesser (v w : Value) : Value :=
  match number? v, number? w with
  | some x, some y => if y.less x then w else v
  | _, _ => v

/-- What is wrong with unknown keys: with their kinds, if they are not all strings. -/
def listKeys (numbers nulls : List Value) (strings : List Spelling) : PayloadError :=
  match numbers, nulls, strings with
  | [], [], strings =>
    .settings (.unknownKeys (unknownKeys (strings.map fun key => (key, .null))))
  | number :: others, [], [] => .notTextKey (others.foldl lesser number).typeName
  | [], nothing :: _, [] => .notTextKey nothing.typeName
  | [], nothing :: _, key :: _ => .mixedKeys (Value.string key).typeName nothing.typeName
  | number :: others, nothing :: _, _ =>
    .mixedKeys nothing.typeName (others.getLastD number).typeName
  | number :: others, [], key :: _ =>
    .mixedKeys (Value.string key).typeName (others.getLastD number).typeName

/-- Checks the keys of a value that has no fields. -/
def checkKeys (found : String) (keys : List Value) : PayloadError :=
  match keys.find? isCompound with
  | some v => .compoundKey v.typeName
  | none =>
    let unknown := (keys.eraseDupsBy sameKey).filter fun v => !isKnownKey v
    if unknown.isEmpty then .noFields found
    else
      listKeys (unknown.filter fun v => (number? v).isSome)
        (unknown.filter fun v => (number? v).isNone && (string? v).isNone)
        (unknown.filterMap string?)

/-- Checks a value that should hold settings. -/
def checkPayload : Value → Except PayloadError (List Assignment)
  | .object d => (check d).mapError .settings
  | .list items => .error (checkKeys (Value.list items).typeName items)
  | .string s => .error (checkKeys (Value.string s).typeName (s.map fun p => .string [p]))
  | v => .error (.noKeys v.typeName)

end Settings

end SwatchIndex
