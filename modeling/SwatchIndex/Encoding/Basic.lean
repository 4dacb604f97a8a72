/-
The character encodings that come with the library, by name, and what can go wrong in reading one.
-/
import SwatchIndex.Text.Lowercase
import SwatchIndex.Text.Quoted

namespace SwatchIndex

/-- The encodings that come with the library. -/
inductive Encoding where
  | utf8
  /-- Like `utf8`, without a byte order mark at the start. -/
  | utf8Marked
  | latin1
  | ascii
  /-- In the order that the byte order mark at the start gives. -/
  | utf16
  | utf16Little
  | utf16Big
deriving DecidableEq, Repr

/-- Bytes that an encoding gives no meaning to. -/
structure DecodeError where
  /-- The encoding, by its own name. -/
  codec : String
  /-- Where the bytes start. -/
  start : Nat
  /-- The bytes. -/
  bytes : List UInt8
  /-- Why they have no meaning. -/
  reason : String
deriving DecidableEq, Repr

/-- The wording of the error. -/
def DecodeError.message (e : DecodeError) : String :=
  let place :=
    match e.bytes with
    | [b] =>
      "byte 0x" ++ Text.str (Text.hexPadded 2 b.toNat) ++ " in position " ++ toString e.start
    | bytes =>
      "bytes in position " ++ toString e.start ++ "-" ++ toString (e.start + bytes.length - 1)
  "'" ++ e.codec ++ "' codec can't decode " ++ place ++ ": " ++ e.reason

namespace Encoding

/-- A name in small letters, with a hyphen for each run of characters that are neither letters,
digits nor dots. -/
def normalName (name : Text) : Text :=
  let words := (name.map fun c => if c.isAlphanum || c == '.' then c.toLower else ' ')
  Text.join ['-'] ((words.splitOn ' ').filter (· != []))

/-- All encodings. -/
def all : List Encoding := [.utf8, .utf8Marked, .latin1, .ascii, .utf16, .utf16Little, .utf16Big]

/-- The name of an encoding. -/
def ownName : Encoding → String
  | .utf8 => "utf-8"
  | .utf8Marked => "utf-8-sig"
  | .latin1 => "latin-1"
  | .ascii => "ascii"
  | .utf16 => "utf-16"
  | .utf16Little => "utf-16-le"
  | .utf16Big => "utf-16-be"

/-- The other names of an encoding. -/
def otherNames : Encoding → List String
  | .utf8 => ["utf8", "u8", "utf", "utf8-ucs2", "utf8-ucs4", "cp65001"]
  | .utf8Marked => []
  | .latin1 =>
    ["latin1", "latin", "l1", "iso-8859-1", "iso8859-1", "8859", "cp819", "iso8859",
     "iso-8859-1-1987", "iso-ir-100", "ibm819", "csisolatin1"]
  | .ascii =>
    ["us-ascii", "646", "us", "ansi-x3.4-1968", "ansi-x3-4-1968", "ansi-x3.4-1986", "cp367",
     "csascii", "ibm367", "iso646-us", "iso-646.irv-1991", "iso-ir-6"]
  | .utf16 => ["utf16", "u16"]
  | .utf16Little => ["utf-16le", "unicodelittleunmarked"]
  | .utf16Big => ["utf-16be", "unicodebigunmarked"]

/-- A normal name with hyphens in place of its dots. -/
def undotted (name : Text) : Text := name.map fun c => if c == '.' then '-' else c

/-- The encoding of a name.  In a name other than an encoding's own, dots may stand for hyphens. -/
def ofName? (name : Text) : Option Encoding :=
  let normal := normalName name
  all.find? fun e =>
    e.ownName == Text.str normal || e.otherNames.contains (Text.str normal) ||
      e.otherNames.contains (Text.str (undotted normal))

end Encoding

end SwatchIndex
