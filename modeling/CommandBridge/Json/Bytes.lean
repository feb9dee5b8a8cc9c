import CommandBridge.Json.Reader
import CommandBridge.Text.Utf16
import CommandBridge.Text.Utf8

/-!
# CommandBridge.Json.Bytes

JSON documents as bytes.  The encoding is known by a byte order mark or by the place
of the zero bytes among the first four, since a document begins with an ASCII character.
-/

namespace CommandBridge.Json

/-- The encodings of JSON documents. -/
inductive Encoding where
  | utf8
  | utf16 (o : ByteOrder)
  | utf32 (o : ByteOrder)
  deriving DecidableEq, Repr

/-- The encoding of bytes without a byte order mark. -/
def encodingByZeros : List UInt8 → Encoding
  | 0 :: 0 :: _ :: _ :: _ => .utf32 .bigEndian
  | 0 :: _ :: _ :: _ :: _ => .utf16 .bigEndian
  | _ :: 0 :: 0 :: 0 :: _ => .utf32 .littleEndian
  | _ :: 0 :: _ :: _ :: _ => .utf16 .littleEndian
  | [0, _] => .utf16 .bigEndian
  | [_, 0] => .utf16 .littleEndian
  | _ => .utf8

/-- The encoding of bytes, and the bytes without their byte order mark. -/
def detectEncoding : List UInt8 → Encoding × List UInt8
  | 0x00 :: 0x00 :: 0xFE :: 0xFF :: r => (.utf32 .bigEndian, r)
  | 0xFF :: 0xFE :: 0x00 :: 0x00 :: r => (.utf32 .littleEndian, r)
  | 0xFE :: 0xFF :: r => (.utf16 .bigEndian, r)
  | 0xFF :: 0xFE :: r => (.utf16 .littleEndian, r)
  | 0xEF :: 0xBB :: 0xBF :: r => (.utf8, r)
  | bs => (encodingByZeros bs, bs)

/-- The text of bytes in an encoding. -/
def Encoding.decode? : Encoding → List UInt8 → Option Text
  | .utf8, bs => (Utf8.decodeText bs).toOption
  | .utf16 o, bs => Utf16.decode? o bs
  | .utf32 o, bs => Utf32.decode? o bs

/-- Why bytes are not a JSON document. -/
inductive BytesError where
  | undecodable
  | unreadable (e : ReadError)
  deriving DecidableEq, Repr

/-- Reads a document; a second byte order mark is no value. -/
def readBytes (depth : Nat) (bs : List UInt8) : Except BytesError Json :=
  let (encoding, rest) := detectEncoding bs
  match encoding.decode? rest with
  | none => .error .undecodable
  | some t =>
    match readNested depth t with
    | .ok j => .ok j
    | .error (.malformed .byteOrderMark line column position) =>
      .error (.unreadable (.malformed .expectingValue line column position))
    | .error e => .error (.unreadable e)

example : readBytes 9 [0x31, 0x00, 0x32, 0x00] = .ok (.int 12) := by cbv
example : readBytes 9 [0xFF] = .error .undecodable := by cbv

end CommandBridge.Json
