import Transparency.Number.Rounding

/-! Numbers as the bytes of a buffer, the least significant byte first. -/
namespace Transparency.Bytes

/-- The lowest bytes of a natural number. -/
def ofNat : Nat → Nat → List UInt8
  | 0, _ => []
  | count + 1, n => UInt8.ofNat n :: ofNat count (n / 256)

/-- The four bytes of a signed word. -/
def ofInt32 (x : Int32) : List UInt8 := ofNat 4 x.toUInt32.toNat

/-- The eight bytes of a long word. -/
def ofUInt64 (x : UInt64) : List UInt8 := ofNat 8 x.toNat

/-- The four bytes of the single-precision number nearest to an integer. -/
def ofSingle (n : Int) : List UInt8 := ofNat 4 (Number.singleBits n)

end Transparency.Bytes
