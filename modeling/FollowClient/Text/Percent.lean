/-!
Percent encoding of a text for the value of a query parameter. The unreserved characters stand for
themselves and every other byte of the UTF-8 form is written as `%` and two capital hexadecimal
digits; `decode` reads such a text back.
-/

namespace FollowClient.Text.Percent

/-- The bytes that stand for themselves: ASCII letters and digits, and the signs `- . _ ~`. -/
def isUnreserved (b : UInt8) : Bool :=
  let n := b.toNat
  (0x41 ≤ n && n ≤ 0x5A) || (0x61 ≤ n && n ≤ 0x7A) || (0x30 ≤ n && n ≤ 0x39) ||
    n == 0x2D || n == 0x2E || n == 0x5F || n == 0x7E

/-- The capital hexadecimal digit of a number below sixteen. -/
def hexDigit (n : Nat) : Char :=
  if n < 10 then Char.ofNat (0x30 + n) else Char.ofNat (0x37 + n)

/-- The number a capital hexadecimal digit stands for. -/
def hexValue? (c : Char) : Option Nat :=
  let n := c.toNat
  if 0x30 ≤ n ∧ n ≤ 0x39 then some (n - 0x30)
  else if 0x41 ≤ n ∧ n ≤ 0x46 then some (n - 0x37)
  else none

/-- A byte by its number: `%` and two digits. -/
def escapeByte (b : UInt8) : List Char :=
  ['%', hexDigit (b.toNat / 16), hexDigit (b.toNat % 16)]

/-- The written form of one byte. -/
def encodeByte (b : UInt8) : List Char :=
  if isUnreserved b then [Char.ofNat b.toNat] else escapeByte b

/-- The written form of a list of bytes. -/
def encodeBytes (bs : List UInt8) : List Char := bs.flatMap encodeByte

/-- The written form of a text. -/
def encode (s : String) : String := String.ofList (encodeBytes s.toByteArray.data.toList)

/-- The bytes of a written form; a `%` without two digits and a reserved character are refused. -/
def decodeBytes? : List Char → Option (List UInt8)
  | [] => some []
  | '%' :: hi :: lo :: rest => do
    let h ← hexValue? hi
    let l ← hexValue? lo
    let bs ← decodeBytes? rest
    pure (UInt8.ofNat (16 * h + l) :: bs)
  | c :: rest =>
    let b := UInt8.ofNat c.toNat
    if isUnreserved b && c.toNat < 128 then (decodeBytes? rest).map (b :: ·) else none

/-- The text of a written form, if its bytes are UTF-8. -/
def decode? (s : String) : Option String :=
  (decodeBytes? s.toList).bind fun bs => String.fromUTF8? ⟨bs.toArray⟩

/-! ### Texts that hold written forms -/

/-- The bytes of the UTF-8 form of characters. -/
def bytesOf (cs : List Char) : List UInt8 := (String.ofList cs).toByteArray.data.toList

/-- The characters, of which those that fail `plain` are written by their bytes. -/
def escape (plain : Char → Bool) (cs : List Char) : List Char :=
  cs.flatMap fun c => if plain c then [c] else (bytesOf [c]).flatMap escapeByte

/-- The value of a hexadecimal digit, capital or small. -/
def anyHexValue? (c : Char) : Option Nat :=
  let n := c.toNat
  if 0x61 ≤ n ∧ n ≤ 0x66 then some (n - 0x57) else hexValue? c

/-- The bytes of a text in which some may be written by their numbers; a `%` without two digits
stands for itself. -/
def bytes : List Char → List UInt8
  | [] => []
  | '%' :: hi :: lo :: rest =>
    match anyHexValue? hi, anyHexValue? lo with
    | some h, some l => UInt8.ofNat (16 * h + l) :: bytes rest
    | _, _ => 0x25 :: bytes (hi :: lo :: rest)
  | c :: rest => bytesOf [c] ++ bytes rest

/-- The text of such a text, if its bytes are UTF-8. -/
def text? (cs : List Char) : Option String := String.fromUTF8? ⟨(bytes cs).toArray⟩

end FollowClient.Text.Percent
