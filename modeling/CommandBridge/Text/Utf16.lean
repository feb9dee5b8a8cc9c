import CommandBridge.Text.CodePoint

/-!
# CommandBridge.Text.Utf16

Texts as sequences of 16-bit or 32-bit units.  A surrogate that has no partner stands for
itself.
-/

namespace CommandBridge

/-- The order of the bytes of a unit. -/
inductive ByteOrder where
  | bigEndian
  | littleEndian
  deriving DecidableEq, Repr

namespace Utf16

/-- The 16-bit units of bytes, unless one is incomplete. -/
def units? (o : ByteOrder) : List UInt8 → Option (List Nat)
  | [] => some []
  | [_] => none
  | a :: b :: r =>
    (units? o r).map fun us =>
      (match o with
        | .bigEndian => a.toNat * 0x100 + b.toNat
        | .littleEndian => b.toNat * 0x100 + a.toNat) :: us

/-- Whether a unit is the first of a surrogate pair. -/
def isHigh (u : Nat) : Bool := 0xD800 ≤ u && u < 0xDC00

/-- Whether a unit is the second of a surrogate pair. -/
def isLow (u : Nat) : Bool := 0xDC00 ≤ u && u < 0xE000

/-- The code point of a unit on its own. -/
def single (u : Nat) : CodePoint := (CodePoint.ofNat? u).getD (.scalar '\uFFFD')

/-- The text of 16-bit units. -/
def ofUnits : List Nat → Text
  | u :: v :: r =>
    if isHigh u && isLow v then
      single (0x10000 + (u - 0xD800) * 0x400 + (v - 0xDC00)) :: ofUnits r
    else single u :: ofUnits (v :: r)
  | [u] => [single u]
  | [] => []

/-- The text of bytes in 16-bit units. -/
def decode? (o : ByteOrder) (bs : List UInt8) : Option Text := (units? o bs).map ofUnits

end Utf16

namespace Utf32

/-- The text of bytes in 32-bit units. -/
def decode? (o : ByteOrder) : List UInt8 → Option Text
  | [] => some []
  | a :: b :: c :: d :: r => do
    let n :=
      match o with
      | .bigEndian => ((a.toNat * 0x100 + b.toNat) * 0x100 + c.toNat) * 0x100 + d.toNat
      | .littleEndian => ((d.toNat * 0x100 + c.toNat) * 0x100 + b.toNat) * 0x100 + a.toNat
    let p ← CodePoint.ofNat? n
    return p :: (← decode? o r)
  | _ => none

end Utf32

example : Utf16.decode? .bigEndian [0xD8, 0x3D, 0xDE, 0x00, 0x00, 0x41] = some "😀A" := by cbv
example : Utf16.decode? .littleEndian [0x00, 0xD8] = some [.surrogate 0] := by cbv
example : Utf32.decode? .littleEndian [0x41, 0x00, 0x00, 0x00] = some "A" := by cbv

end CommandBridge
