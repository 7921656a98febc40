import TextMacro.Encoding.Utf8
import TextMacro.Text.Numeral

/-!
# Encodings of source and output files

Four encodings are supported: UTF-8, UTF-8 with a signature, Latin-1 and ASCII. Decoding and
encoding are strict: the first byte or character that does not fit is an error.
-/

namespace TextMacro

/-- The encodings a file can have. -/
inductive Encoding where
  | utf8
  | utf8Signed
  | latin1
  | ascii
deriving DecidableEq, Repr

/-- Why bytes could not be decoded. -/
inductive DecodeError where
  | utf8 (fault : Utf8.DecodeFault)
  | ascii (byte : UInt8) (position : Nat)
deriving DecidableEq, Repr

/-- Why a text could not be encoded: the run of characters without an encoding, by its first
character, offset and length. -/
structure EncodeError where
  encoding : Encoding
  first : Char
  start : Nat
  count : Nat
deriving DecidableEq, Repr

namespace Utf8.Fault

/-- The description of a fault. -/
def message : Utf8.Fault → String
  | startByte => "invalid start byte"
  | continuationByte => "invalid continuation byte"
  | endOfData => "unexpected end of data"

end Utf8.Fault

namespace Encoding

/-- The name that diagnostics give to an encoding. -/
def label : Encoding → String
  | utf8 | utf8Signed => "utf-8"
  | latin1 => "latin-1"
  | ascii => "ascii"

/-- The number of code points that a single byte can stand for. -/
def limit : Encoding → Nat
  | ascii => 128
  | _ => 256

/-- Decode bytes of which each stands for the character of the same number, below a limit. -/
def decodeAscii (position : Nat) : List UInt8 → Except DecodeError Text
  | [] => .ok []
  | byte :: bytes =>
    if byte.toNat < 128 then (decodeAscii (position + 1) bytes).map (Char.ofNat byte.toNat :: ·)
    else .error (.ascii byte position)

/-- Decode a file.

Under the encoding with a signature, a signature in front is dropped, offsets count from after it,
and a file that ends within it is empty. -/
def decode (encoding : Encoding) (bytes : List UInt8) : Except DecodeError Text :=
  match encoding with
  | utf8 => (Utf8.decode bytes).mapError .utf8
  | utf8Signed =>
    if bytes.isPrefixOf Utf8.signature then .ok []
    else if Utf8.signature.isPrefixOf bytes then
      (Utf8.decode (bytes.drop Utf8.signature.length)).mapError .utf8
    else (Utf8.decode bytes).mapError .utf8
  | latin1 => .ok (bytes.map fun byte => Char.ofNat byte.toNat)
  | ascii => decodeAscii 0 bytes

/-- Encode characters as single bytes; the first of them stands at offset `start`. -/
def encodeBytes (encoding : Encoding) (start : Nat) : Text → Except EncodeError (List UInt8)
  | [] => .ok []
  | c :: cs =>
    if c.toNat < encoding.limit then
      (encodeBytes encoding (start + 1) cs).map (UInt8.ofNat c.toNat :: ·)
    else
      .error ⟨encoding, c, start, 1 + (cs.takeWhile fun c => encoding.limit ≤ c.toNat).length⟩

/-- Encode a text. -/
def encode (encoding : Encoding) (text : Text) : Except EncodeError (List UInt8) :=
  match encoding with
  | utf8 => .ok (Utf8.encode text)
  | utf8Signed => .ok (Utf8.signature ++ Utf8.encode text)
  | latin1 => encodeBytes .latin1 0 text
  | ascii => encodeBytes .ascii 0 text

end Encoding

/-- The description of a range that numbers of one byte have to lie in. -/
def rangeMessage (encoding : Encoding) : String :=
  "ordinal not in range(" ++ toString encoding.limit ++ ")"

namespace DecodeError

/-- The description of an error in decoding. -/
def message : DecodeError → String
  | utf8 fault =>
    let place :=
      if fault.count = 1 then
        "byte 0x" ++ Text.hexadecimal 2 fault.lead.toNat ++ " in position " ++ toString fault.start
      else
        "bytes in position " ++ toString fault.start ++ "-" ++
          toString (fault.start + fault.count - 1)
    "'utf-8' codec can't decode " ++ place ++ ": " ++ fault.fault.message
  | ascii byte position =>
    "'ascii' codec can't decode byte 0x" ++ Text.hexadecimal 2 byte.toNat ++ " in position " ++
      toString position ++ ": " ++ rangeMessage .ascii

end DecodeError

namespace EncodeError

/-- The description of an error in encoding. -/
def message (error : EncodeError) : String :=
  let place :=
    if error.count = 1 then
      "character '" ++ Text.numericEscape error.first ++ "' in position " ++ toString error.start
    else
      "characters in position " ++ toString error.start ++ "-" ++
        toString (error.start + error.count - 1)
  "'" ++ error.encoding.label ++ "' codec can't encode " ++ place ++ ": " ++
    rangeMessage error.encoding

end EncodeError

end TextMacro
