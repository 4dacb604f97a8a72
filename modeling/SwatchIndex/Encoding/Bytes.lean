/-
Reading bytes as text.

What an encoding makes of bytes is its codec.  Which codecs there are, and under which names, is up
to the system; those of the library's own encodings are written out here.

Each reader walks over the bytes and stops at the first that have no meaning, saying where they
start, how many they are and why.  In UTF-8 these are the longest part of a sequence that could
still have become a character.
-/
import SwatchIndex.Encoding.Basic

namespace SwatchIndex

/-- Why bytes cannot be read as text. -/
inductive TextError where
  /-- Some of the bytes have no meaning. -/
  | undecodable (e : DecodeError)
  /-- The codec refuses the bytes as a whole, as for want of a byte order mark. -/
  | refused (message : String)
deriving DecidableEq, Repr

/-- The wording of the error. -/
def TextError.message : TextError → String
  | .undecodable e => e.message
  | .refused message => message

/-- What an encoding makes of bytes. -/
structure Codec where
  decode : List UInt8 → Except TextError Text

/-- The codecs that are known, by the names that encodings are asked for by. -/
abbrev Codecs := Text → Option Codec

namespace Codec

/-- The text with every line ended by a newline alone. -/
def unixLines : Text → Text
  | '\r' :: '\n' :: rest => '\n' :: unixLines rest
  | '\r' :: rest => '\n' :: unixLines rest
  | c :: rest => c :: unixLines rest
  | [] => []

/-- The text of a file. -/
def readText (codec : Codec) (bytes : List UInt8) : Except TextError Text :=
  (codec.decode bytes).map unixLines

end Codec

namespace Encoding

/-! ### One byte per character -/

/-- Reads bytes as the code points they are. -/
def readLatin1 (bytes : List UInt8) : Text := bytes.map fun b => Char.ofNat b.toNat

/-- Reads bytes below 128. -/
def readAscii (pos : Nat) : List UInt8 → Except DecodeError Text
  | [] => .ok []
  | b :: rest =>
    if b < 128 then (readAscii (pos + 1) rest).map (Char.ofNat b.toNat :: ·)
    else .error ⟨"ascii", pos, [b], "ordinal not in range(128)"⟩

/-! ### UTF-8 -/

/-- How a sequence goes on behind its first byte: the least and greatest second byte, and how many
bytes follow that. -/
def utf8Lead? (b : UInt8) : Option (UInt8 × UInt8 × Nat) :=
  if 0xc2 ≤ b && b ≤ 0xdf then some (0x80, 0xbf, 0)
  else if b == 0xe0 then some (0xa0, 0xbf, 1)
  else if b == 0xed then some (0x80, 0x9f, 1)
  else if 0xe1 ≤ b && b ≤ 0xef then some (0x80, 0xbf, 1)
  else if b == 0xf0 then some (0x90, 0xbf, 2)
  else if 0xf1 ≤ b && b ≤ 0xf3 then some (0x80, 0xbf, 2)
  else if b == 0xf4 then some (0x80, 0x8f, 2)
  else none

/-- The bits that a first byte carries, by the number of bytes behind it. -/
def utf8LeadBits (b : UInt8) (behind : Nat) : Nat :=
  match behind with
  | 1 => b.toNat % 32
  | 2 => b.toNat % 16
  | _ => b.toNat % 8

/-- A sequence of bytes that has been read in part. -/
structure Utf8Partial where
  /-- Where the sequence starts. -/
  start : Nat
  /-- The bytes read so far. -/
  bytes : List UInt8
  /-- The code point so far. -/
  code : Nat
  /-- The least and the greatest next byte. -/
  least : UInt8
  greatest : UInt8
  /-- How many bytes are to follow the next one. -/
  behind : Nat

/-- Reads bytes as UTF-8, going on with a sequence if one has been started. -/
def readUtf8 (pos : Nat) (pending : Option Utf8Partial) : List UInt8 → Except DecodeError Text
  | [] =>
    match pending with
    | none => .ok []
    | some p => .error ⟨"utf-8", p.start, p.bytes, "unexpected end of data"⟩
  | b :: rest =>
    match pending with
    | some p =>
      if p.least ≤ b && b ≤ p.greatest then
        let code := p.code * 64 + b.toNat % 64
        match p.behind with
        | 0 => (readUtf8 (pos + 1) none rest).map (Char.ofNat code :: ·)
        | behind + 1 =>
          readUtf8 (pos + 1) (some ⟨p.start, p.bytes ++ [b], code, 0x80, 0xbf, behind⟩) rest
      else .error ⟨"utf-8", p.start, p.bytes, "invalid continuation byte"⟩
    | none =>
      if b < 128 then (readUtf8 (pos + 1) none rest).map (Char.ofNat b.toNat :: ·)
      else
        match utf8Lead? b with
        | none => .error ⟨"utf-8", pos, [b], "invalid start byte"⟩
        | some (least, greatest, behind) =>
          let code := utf8LeadBits b (behind + 1)
          readUtf8 (pos + 1) (some ⟨pos, [b], code, least, greatest, behind⟩) rest

/-- Reads bytes as UTF-8 behind a byte order mark.  A file that is but the start of such a mark has
no text, and places are counted from behind the mark. -/
def readUtf8Marked : List UInt8 → Except DecodeError Text
  | 0xef :: 0xbb :: 0xbf :: rest => readUtf8 0 none rest
  | [0xef, 0xbb] => .ok []
  | [0xef] => .ok []
  | bytes => readUtf8 0 none bytes

/-! ### UTF-16 -/

/-- The bytes of UTF-16 in pairs, with the byte that may be left over. -/
def pairs (big : Bool) : List UInt8 → List (UInt8 × UInt8 × Nat) × Option UInt8
  | [] => ([], none)
  | [b] => ([], some b)
  | a :: b :: rest =>
    let (units, odd) := pairs big rest
    ((a, b, if big then a.toNat * 256 + b.toNat else b.toNat * 256 + a.toNat) :: units, odd)

/-- Reads units of UTF-16 from the byte `pos` on; `odd` is a byte left over behind the last unit. -/
def readUnits (codec : String) (odd : Option UInt8) (pos : Nat) :
    List (UInt8 × UInt8 × Nat) → Except DecodeError Text
  | [] =>
    match odd with
    | none => .ok []
    | some b => .error ⟨codec, pos, [b], "truncated data"⟩
  | (a, b, unit) :: rest =>
    if 0xdc00 ≤ unit && unit ≤ 0xdfff then .error ⟨codec, pos, [a, b], "illegal encoding"⟩
    else if 0xd800 ≤ unit && unit ≤ 0xdbff then
      match rest with
      | [] => .error ⟨codec, pos, [a, b] ++ odd.toList, "unexpected end of data"⟩
      | (_, _, low) :: rest =>
        if 0xdc00 ≤ low && low ≤ 0xdfff then
          let code := 0x10000 + (unit - 0xd800) * 1024 + (low - 0xdc00)
          (readUnits codec odd (pos + 4) rest).map (Char.ofNat code :: ·)
        else .error ⟨codec, pos, [a, b], "illegal UTF-16 surrogate"⟩
    else (readUnits codec odd (pos + 2) rest).map (Char.ofNat unit :: ·)

/-- Reads bytes as UTF-16 in the given order. -/
def readUtf16 (big : Bool) (pos : Nat) (bytes : List UInt8) : Except DecodeError Text :=
  let (units, odd) := pairs big bytes
  readUnits (if big then "utf-16-be" else "utf-16-le") odd pos units

/-- Reads bytes as UTF-16 in the order that their byte order mark gives. -/
def readUtf16Marked : List UInt8 → Except TextError Text
  | 0xff :: 0xfe :: rest => (readUtf16 false 2 rest).mapError .undecodable
  | 0xfe :: 0xff :: rest => (readUtf16 true 2 rest).mapError .undecodable
  | bytes => do
    let text ← (readUtf16 false 0 bytes).mapError .undecodable
    if bytes.isEmpty then pure text else throw (.refused "UTF-16 stream does not start with BOM")

/-! ### Codecs -/

/-- Reads bytes in an encoding. -/
def decode (encoding : Encoding) (bytes : List UInt8) : Except TextError Text :=
  match encoding with
  | .utf8 => (readUtf8 0 none bytes).mapError .undecodable
  | .utf8Marked => (readUtf8Marked bytes).mapError .undecodable
  | .latin1 => .ok (readLatin1 bytes)
  | .ascii => (readAscii 0 bytes).mapError .undecodable
  | .utf16 => readUtf16Marked bytes
  | .utf16Little => (readUtf16 false 0 bytes).mapError .undecodable
  | .utf16Big => (readUtf16 true 0 bytes).mapError .undecodable

/-- The codecs of the library's own encodings. -/
def codecs : Codecs := fun name => (ofName? name).map fun encoding => ⟨encoding.decode⟩

/-- The bytes of a text in UTF-8. -/
def utf8Bytes (t : Text) : List UInt8 := (Text.str t).toUTF8.toList

end Encoding

end SwatchIndex
