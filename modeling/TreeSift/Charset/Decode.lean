import TreeSift.Charset.Decoder
import TreeSift.Filter.Error

/-!
# TreeSift.Charset.Decode

Bytes to text.

1. Bytes are read from front to back (`Encoding.read?`).  If that fails, a decoder goes over them
   once more and says where the first malformed one is.
2. A byte order mark decides the encoding and is no part of the text.  Without one the labels of
   ASCII allow no byte above 7F, although they stand for a larger encoding.
-/

namespace TreeSift

namespace Encoding

/-- The text that bytes stand for, if all of them stand for one. -/
def read? (e : Encoding) (bytes : List UInt8) : Option (List Char) :=
  match e with
  | utf8 => Charset.readAll Charset.utf8Step bytes
  | utf16 big => Charset.readAll (Charset.utf16Step big) bytes
  | singleByte _ upper => Charset.readAll (Charset.singleByteStep upper) bytes
  | userDefined => Charset.readAll Charset.userDefinedStep bytes
  | shiftJis => Charset.readAll Charset.shiftJisStep bytes
  | eucJp => Charset.readAll Charset.eucJpStep bytes
  | iso2022Jp => Charset.readIso2022Jp .ascii false bytes
  | gb18030 _ => Charset.readAll Charset.gb18030Step bytes
  | big5 => Charset.readAll Charset.big5Step bytes
  | eucKr => Charset.readAll Charset.eucKrStep bytes

end Encoding

namespace Charset

/-- The error for malformed bytes. -/
def malformed (offset : Nat) (encoding : String) : FilterError :=
  .unreadable ⟨offset, .validText encoding, none⟩

/-- Whether a label means plain ASCII. -/
def isAsciiLabel (label : List Char) : Bool :=
  let lower := Text.lowerAscii label
  lower == "us-ascii".toList || lower == "ascii".toList

/-- The offset of the first byte that is not ASCII. -/
def firstHigh? (at' : Nat) : List UInt8 → Option Nat
  | [] => none
  | b :: bs => if b < 0x80 then firstHigh? (at' + 1) bs else some at'

/-- The text of bytes in an encoding, after a byte order mark of the given length. -/
def readAfter (e : Encoding) (mark : Nat) (bytes : List UInt8) : Except FilterError (List Char) :=
  match e.read? bytes with
  | some text => .ok text
  | none => .error (malformed (mark + (e.malformedAt? bytes).getD 0) e.name)

/-- The text of bytes with a label; without one they are UTF-8. -/
def decode (bytes : List UInt8) (label : Option String) : Except FilterError (List Char) :=
  let label := Text.trim (label.getD "utf-8").toList
  match Encoding.ofLabel? label with
  | none => .error (.unsupportedEncoding (String.ofList label))
  | some labelled =>
    match Encoding.ofMark? bytes with
    | some (e, mark, rest) => readAfter e mark rest
    | none =>
      match if isAsciiLabel label then firstHigh? 0 bytes else none with
      | some offset => .error (malformed offset (String.ofList label))
      | none => readAfter labelled 0 bytes

end Charset

end TreeSift
