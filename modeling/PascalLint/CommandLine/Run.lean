import PascalLint.CommandLine.Commands

/-! # Runs with what is at hand

No detector of encodings and no tables of more than one byte for a character come with the program. In
their place stand codecs that are right for ASCII and for UTF-8.
-/

namespace PascalLint

/-- Codecs that take every file for UTF-8, and know of the encodings of more than one byte only the
    characters of ASCII; the other bytes count as malformed one by one. -/
def Encoding.Codecs.ascii : Encoding.Codecs where
  guess _ := .utf8
  multiByte _ bytes :=
    bytes.map fun byte => if byte < 0x80 then some (Char.ofNat byte.toNat) else none

/-- Reads the contents of a file. -/
def Source.ofContents (path : String) (encoding : Option Encoding) (bytes : List UInt8) : Source.Reading :=
  Source.read .ascii path encoding bytes

/-- Runs a command line. -/
def CommandLine.run (disk : Disk) (arguments : List String) : CommandLine.Outcome :=
  CommandLine.runWith .ascii disk arguments

end PascalLint
