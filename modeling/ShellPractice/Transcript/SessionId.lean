/-!
# Ids of sessions

A session is known by sixteen random bytes, written as 32 hexadecimal digits in five groups.  Six
bits of them are fixed; they tell that the others are random.
-/

namespace ShellPractice.SessionId

/-- The bytes with their fixed bits set. -/
def marked (bytes : List UInt8) : List UInt8 :=
  (bytes.modify 6 fun byte => (byte &&& 0x0F) ||| 0x40).modify 8 fun byte =>
    (byte &&& 0x3F) ||| 0x80

/-- Two hexadecimal digits. -/
def hexByte (byte : UInt8) : List Char :=
  [Nat.digitChar (byte.toNat / 16), Nat.digitChar (byte.toNat % 16)]

/-- Bytes in hexadecimal digits. -/
def hex (bytes : List UInt8) : String :=
  String.ofList (bytes.flatMap hexByte)

/-- The id made of random bytes. -/
def ofBytes (bytes : List UInt8) : String :=
  let id := marked bytes
  "-".intercalate
    [hex (id.take 4), hex ((id.drop 4).take 2), hex ((id.drop 6).take 2),
      hex ((id.drop 8).take 2), hex (id.drop 10)]

end ShellPractice.SessionId
