import FollowClient.Json.Basic
import FollowClient.Text.Decimal

/-!
JSON numbers. A literal without fraction and exponent that fits sixty-four bits is an integer; any
other literal, and minus zero, is a real number, which must lie in the range of double precision.
Reals are written with a point between 1e-5 and 1e16 and with an exponent outside.
-/

namespace FollowClient.Json

open FollowClient.Text

/-- The parts of a number literal. -/
structure Literal where
  negative : Bool
  whole : List Char
  fraction : Option (List Char)
  /-- Whether the exponent is negative, and its digits. -/
  exponent : Option (Bool × List Char)

namespace Literal

/-! ### Reading a literal -/

/-- The digits at the start, at least one, and what follows them. -/
def digits? (cs : List Char) : Option (List Char × List Char) :=
  match cs.takeWhile Char.isDigit with
  | [] => none
  | ds => some (ds, cs.dropWhile Char.isDigit)

/-- The whole part: one zero, or digits that start with another digit. -/
def whole? (cs : List Char) : Option (List Char × List Char) :=
  match cs with
  | '0' :: rest => some (['0'], rest)
  | _ => digits? cs

/-- The fraction, if a point comes first. -/
def fraction? : List Char → Option (Option (List Char) × List Char)
  | '.' :: rest => (digits? rest).map fun r => (some r.1, r.2)
  | cs => some (none, cs)

/-- The exponent, if the letter for it comes first. -/
def exponent? : List Char → Option (Option (Bool × List Char) × List Char)
  | c :: rest =>
    if c = 'e' || c = 'E' then
      match rest with
      | '-' :: ds => (digits? ds).map fun r => (some (true, r.1), r.2)
      | '+' :: ds => (digits? ds).map fun r => (some (false, r.1), r.2)
      | ds => (digits? ds).map fun r => (some (false, r.1), r.2)
    else some (none, c :: rest)
  | [] => some (none, [])

/-- Reads a whole literal. -/
def read? (cs : List Char) : Option Literal := do
  let (negative, cs) := match cs with
    | '-' :: rest => (true, rest)
    | _ => (false, cs)
  let (whole, cs) ← whole? cs
  let (fraction, cs) ← fraction? cs
  let (exponent, cs) ← exponent? cs
  if cs.isEmpty then some { negative, whole, fraction, exponent } else none

/-! ### The value of a literal -/

/-- The value of digits. -/
def valueOf (ds : List Char) : Nat := ds.foldl (fun n c => 10 * n + (c.toNat - 0x30)) 0

/-- The literal as a decimal without zeros at the end of its digits. -/
def decimal (l : Literal) : Scaled :=
  let written := l.whole ++ l.fraction.getD []
  let kept := dropEndZeros written
  let scale : Int := match l.exponent with
    | none => 0
    | some (true, ds) => - (valueOf ds : Int)
    | some (false, ds) => (valueOf ds : Int)
  let exponent := scale - (l.fraction.getD []).length + (written.length - kept.length : Nat)
  if valueOf kept = 0 then ⟨l.negative, 0, 0⟩ else ⟨l.negative, valueOf kept, exponent⟩
where
  /-- The digits without the zeros at their end. -/
  dropEndZeros (ds : List Char) : List Char := (ds.reverse.dropWhile (· = '0')).reverse

end Literal

/-- The least number that double precision rounds to infinity: two to the power of 1024, less half of
the last place of the largest number. -/
def realBound : Nat := Nat.pow 2 1024 - Nat.pow 2 970

/-- The decimal, if it is in the range of double precision; numbers too small for it are zero. -/
def Scaled.inRange? (x : Scaled) : Option Scaled :=
  let size : Int := (Decimal.write x.digits).length + x.exponent
  if x.digits = 0 then some x
  else if 310 < size then none
  else if size < -330 then some ⟨x.negative, 0, 0⟩
  else if 0 ≤ x.exponent then
    if x.digits * Nat.pow 10 x.exponent.toNat < realBound then some x else none
  else if x.digits < realBound * Nat.pow 10 (-x.exponent).toNat then some x else none

/-- The value of a number literal. -/
def ofLiteral? (l : Literal) : Option Json :=
  let n := Literal.valueOf l.whole
  match l.fraction, l.exponent, l.negative with
  | none, none, false =>
    if n < Decimal.wordBound then some (int n) else (Scaled.inRange? l.decimal).map real
  | none, none, true =>
    if 0 < n ∧ 2 * n ≤ Decimal.wordBound then some (int (-n)) else (Scaled.inRange? l.decimal).map real
  | _, _, _ => (Scaled.inRange? l.decimal).map real

/-! ### Writing -/

/-- The digits of a real number as they appear, with its point or exponent. -/
def writeReal (x : Scaled) : List Char :=
  let ds := Text.Decimal.write x.digits
  let n : Int := ds.length
  let point : Int := n + x.exponent
  let body :=
    if 0 ≤ x.exponent && point ≤ 16 then ds ++ List.replicate x.exponent.toNat '0' ++ ['.', '0']
    else if 0 < point && point ≤ 16 then ds.take point.toNat ++ '.' :: ds.drop point.toNat
    else if -5 < point && point ≤ 0 then
      ['0', '.'] ++ List.replicate (-point).toNat '0' ++ ds
    else
      let e := point - 1
      let mantissa := match ds with
        | [] => []
        | [d] => [d]
        | d :: rest => d :: '.' :: rest
      let sign := if e < 0 then ['-'] else []
      mantissa ++ 'e' :: sign ++ Text.Decimal.write e.natAbs
  if x.negative then '-' :: body else body

/-- The digits of an integer. -/
def writeInt (n : Int) : List Char :=
  if n < 0 then '-' :: Text.Decimal.write n.natAbs else Text.Decimal.write n.natAbs

end FollowClient.Json
