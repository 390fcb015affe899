import PascalLint.Encoding.Basic
import PascalLint.Encoding.Utf16
import PascalLint.Encoding.Utf8

/-! # Decoding

The text that some bytes are in an encoding. A byte order mark at the start decides for one of the
Unicode encodings, whatever encoding is asked for, and is not part of the text. Malformed pieces
come out as the replacement character.

What a file without a mark is encoded in, and the tables of the encodings of more than one byte that are
not Unicode's, belong to others and are parameters (`Encoding.Codecs`).
-/

namespace PascalLint.Encoding

/-- What the reading of files asks others for. Nothing is assumed about the answers. -/
structure Codecs where
  /-- The encoding that some bytes seem to be in. -/
  guess : List UInt8 → Encoding
  /-- The characters of some bytes, with none for each malformed piece. -/
  multiByte : MultiByte → List UInt8 → List (Option Char)

/-- The character that stands for a malformed piece. -/
def replacement : Char := '\uFFFD'

/-- The encoding that a byte order mark stands for, and the bytes behind the mark. -/
def byteOrderMark? : List UInt8 → Option (Encoding × List UInt8)
  | 0xEF :: 0xBB :: 0xBF :: rest => some (utf8, rest)
  | 0xFF :: 0xFE :: rest => some (utf16le, rest)
  | 0xFE :: 0xFF :: rest => some (utf16be, rest)
  | _ => none

/-- The character of a byte in the encoding that maps bytes to the private use area. -/
def userDefinedByte (byte : UInt8) : Char :=
  Char.ofNat (if byte < 0x80 then byte.toNat else 0xF780 + (byte.toNat - 0x80))

/-- The characters of some bytes without a mark, with none for each malformed piece. -/
def characters (codecs : Codecs) : Encoding → List UInt8 → List (Option Char)
  | utf8, bytes => Utf8.decode bytes
  | utf16le, bytes => Utf16.decode .littleEndian bytes
  | utf16be, bytes => Utf16.decode .bigEndian bytes
  | userDefined, bytes => bytes.map (some ∘ userDefinedByte)
  | codePage page, bytes => page.decode bytes
  | multiByte encoding, bytes => codecs.multiByte encoding bytes

/-- A decoded text, and whether a piece of it was malformed. -/
structure Decoded where
  text : List Char
  malformed : Bool

/-- The text of some bytes. -/
def decode (codecs : Codecs) (encoding : Encoding) (bytes : List UInt8) : Decoded :=
  let (encoding, bytes) := (byteOrderMark? bytes).getD (encoding, bytes)
  let characters := encoding.characters codecs bytes
  ⟨characters.map (·.getD replacement), characters.any (·.isNone)⟩

/-- The text of bytes that are to be well-formed UTF-8, in which a mark is a character. -/
def decodeStrict? (bytes : List UInt8) : Option (List Char) :=
  (Utf8.decode bytes).mapM id

end PascalLint.Encoding
