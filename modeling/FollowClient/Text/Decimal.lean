/-!
Whole numbers in decimal. A number is written with its digits alone; a number is read from one or
more ASCII digits after at most one plus sign, and must stay below a bound.
-/

namespace FollowClient.Text.Decimal

/-- The value of an ASCII digit. -/
def digit? (c : Char) : Option Nat :=
  if c.isDigit then some (c.toNat - 0x30) else none

/-- Reads digits after `acc`, the number read so far. -/
def digits? (acc : Nat) : List Char → Option Nat
  | [] => some acc
  | c :: rest => (digit? c).bind fun d => digits? (10 * acc + d) rest

/-- The characters after at most one plus sign. -/
def dropPlus : List Char → List Char
  | '+' :: rest => rest
  | cs => cs

/-- Reads a number below `bound` from an optional plus sign and at least one digit. -/
def read? (bound : Nat) (s : String) : Option Nat :=
  match dropPlus s.toList with
  | [] => none
  | cs => (digits? 0 cs).filter (· < bound)

/-- The bound of the numbers of sixty-four bits, two to the power of sixty-four. -/
def wordBound : Nat := 0x10000000000000000

/-- The digits of a number, the last one being `n % 10`. -/
def write (n : Nat) : List Char :=
  if n < 10 then [Char.ofNat (0x30 + n)] else write (n / 10) ++ [Char.ofNat (0x30 + n % 10)]
termination_by n

/-- The number as a text. -/
def text (n : Nat) : String := String.ofList (write n)

end FollowClient.Text.Decimal
