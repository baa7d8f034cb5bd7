/-!
The text between the quotes of a JSON string. It is read from raw bytes: escapes stand for
characters, a pair of surrogate escapes for one character, and all must be UTF-8 in the end.
It is written with the short escapes and with `\u00xx` for the other control characters.
-/

namespace FollowClient.Json.Escape

/-! ### Reading -/

/-- The number a hexadecimal digit stands for, in either case. -/
def hexValue? (b : UInt8) : Option Nat :=
  let n := b.toNat
  if 0x30 ≤ n ∧ n ≤ 0x39 then some (n - 0x30)
  else if 0x41 ≤ n ∧ n ≤ 0x46 then some (n - 0x37)
  else if 0x61 ≤ n ∧ n ≤ 0x66 then some (n - 0x57)
  else none

/-- The number four hexadecimal digits stand for. -/
def unit? (a b c d : UInt8) : Option Nat := do
  let a ← hexValue? a
  let b ← hexValue? b
  let c ← hexValue? c
  let d ← hexValue? d
  pure (((a * 16 + b) * 16 + c) * 16 + d)

/-- The byte that a short escape stands for. -/
def short? (b : UInt8) : Option UInt8 :=
  match b.toNat with
  | 0x22 => some 0x22
  | 0x5C => some 0x5C
  | 0x2F => some 0x2F
  | 0x62 => some 0x08
  | 0x66 => some 0x0C
  | 0x6E => some 0x0A
  | 0x72 => some 0x0D
  | 0x74 => some 0x09
  | _ => none

/-- Every backslash starts an escape. -/
def wellFormed : List UInt8 → Bool
  | [] => true
  | 0x5C :: 0x75 :: a :: b :: c :: d :: rest => (unit? a b c d).isSome && wellFormed rest
  | 0x5C :: e :: rest => (short? e).isSome && wellFormed rest
  | b :: rest => b != 0x5C && wellFormed rest

/-- The first unit of a surrogate pair. -/
def isHigh (u : Nat) : Bool := 0xD800 ≤ u && u ≤ 0xDBFF

/-- The second unit of a surrogate pair. -/
def isLow (u : Nat) : Bool := 0xDC00 ≤ u && u ≤ 0xDFFF

/-- The bytes of the character with number `n`. -/
def bytesOf (n : Nat) : List UInt8 := String.utf8EncodeChar (Char.ofNat n)

/-- The bytes that raw bytes stand for; a surrogate without its partner is refused. -/
def bytes? : List UInt8 → Option (List UInt8)
  | [] => some []
  | 0x5C :: 0x75 :: a :: b :: c :: d :: 0x5C :: 0x75 :: e :: f :: g :: h :: rest => do
    let u ← unit? a b c d
    if isHigh u then
      let v ← unit? e f g h
      if isLow v then
        (bytes? rest).map (bytesOf (0x10000 + (u - 0xD800) * 0x400 + (v - 0xDC00)) ++ ·)
      else none
    else if isLow u then none
    else (bytes? (0x5C :: 0x75 :: e :: f :: g :: h :: rest)).map (bytesOf u ++ ·)
  | 0x5C :: 0x75 :: a :: b :: c :: d :: rest => do
    let u ← unit? a b c d
    if isHigh u || isLow u then none else (bytes? rest).map (bytesOf u ++ ·)
  | 0x5C :: e :: rest => do
    let b ← short? e
    (bytes? rest).map (b :: ·)
  | b :: rest => if b = 0x5C then none else (bytes? rest).map (b :: ·)

/-- The text that raw bytes stand for. -/
def text? (raw : List UInt8) : Option String :=
  (bytes? raw).bind fun bs => String.fromUTF8? ⟨bs.toArray⟩

/-! ### Writing -/

/-- The small hexadecimal digit of a number below sixteen. -/
def hexDigit (n : Nat) : Char :=
  if n < 10 then Char.ofNat (0x30 + n) else Char.ofNat (0x57 + n)

/-- The written form of one character between the quotes. -/
def encodeChar (c : Char) : List Char :=
  match c.toNat with
  | 0x22 => ['\\', '"']
  | 0x5C => ['\\', '\\']
  | 0x08 => ['\\', 'b']
  | 0x0C => ['\\', 'f']
  | 0x0A => ['\\', 'n']
  | 0x0D => ['\\', 'r']
  | 0x09 => ['\\', 't']
  | n => if n < 0x20 then ['\\', 'u', '0', '0', hexDigit (n / 16), hexDigit (n % 16)] else [c]

/-- The text in double quotes. -/
def quoted (s : String) : List Char := '"' :: s.toList.flatMap encodeChar ++ ['"']

end FollowClient.Json.Escape
