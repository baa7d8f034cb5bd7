import FollowClient.Text.Trim

/-!
Punycode: names with letters of all scripts in ASCII. The ASCII characters of a label come first; the
other characters follow in increasing order, each as the number of places that it is away from the
one before it, in digits whose bounds adapt to the numbers so far.
-/

namespace FollowClient.Net.Punycode

/-- The digit for a number below thirty-six. -/
def digit (d : Nat) : Char := if d < 26 then Char.ofNat (0x61 + d) else Char.ofNat (0x16 + d)

/-- The number that a digit stands for. -/
def digitValue? (c : Char) : Option Nat :=
  let n := c.toLower.toNat
  if 0x61 ≤ n ∧ n ≤ 0x7A then some (n - 0x61)
  else if 0x30 ≤ n ∧ n ≤ 0x39 then some (n - 0x16)
  else none

/-- The bound of the digit at place `k`. -/
def bound (k bias : Nat) : Nat := Nat.min 26 (Nat.max 1 (k - bias))

theorem bound_pos (k bias : Nat) : 1 ≤ bound k bias := by
  unfold bound
  exact Nat.le_min.2 ⟨by decide, Nat.le_max_left 1 _⟩

/-- Divides until the number is small, and counts the divisions. -/
def shrink (delta k : Nat) : Nat × Nat :=
  if 455 < delta then shrink (delta / 35) (k + 36) else (delta, k)
termination_by delta
decreasing_by omega

/-- The bias after a number; `count` characters have been placed, of which it was the first one if
`first` holds. -/
def adapt (delta count : Nat) (first : Bool) : Nat :=
  let start := if first then delta / 700 else delta / 2
  let (rest, k) := shrink (start + start / count) 0
  k + 36 * rest / (rest + 38)

/-- The digits of a number from place `k` on. -/
def digits (bias k n : Nat) : List Char :=
  let t := bound k bias
  if n < t then [digit n]
  else digit (t + (n - t) % (36 - t)) :: digits bias (k + 36) ((n - t) / (36 - t))
termination_by n
decreasing_by
  have h := bound_pos k bias
  have := Nat.div_le_self (n - bound k bias) (36 - bound k bias)
  omega

/-- How far a label has been written. -/
structure Progress where
  out : List Char
  /-- The places since the last character that was placed. -/
  delta : Nat
  bias : Nat
  /-- How many characters have been placed. -/
  placed : Nat

/-- Passes a character while those with number `m` are placed; `ascii` is how many came first. -/
def Progress.pass (ascii m : Nat) (p : Progress) (c : Char) : Progress :=
  if c.toNat < m then { p with delta := p.delta + 1 }
  else if c.toNat = m then
    ⟨p.out ++ digits p.bias 36 p.delta, 0, adapt p.delta (p.placed + 1) (p.placed = ascii),
      p.placed + 1⟩
  else p

/-- Places the characters with the numbers of a list in increasing order, all above `last`. -/
def Progress.place (label : List Char) (ascii : Nat) (p : Progress) (last : Nat) :
    List Nat → Progress
  | [] => p
  | m :: rest =>
    let q := label.foldl (Progress.pass ascii m)
      { p with delta := p.delta + (m - last) * (p.placed + 1) }
    Progress.place label ascii { q with delta := q.delta + 1 } (m + 1) rest

/-- Puts a number into an increasing list. -/
def put (n : Nat) : List Nat → List Nat
  | [] => [n]
  | m :: rest => if n < m then n :: m :: rest else if n = m then m :: rest else m :: put n rest

/-- The numbers of the characters beyond ASCII, in increasing order. -/
def beyond (label : List Char) : List Nat :=
  ((label.filter (0x80 ≤ ·.toNat)).map Char.toNat).foldr put []

/-- The written form of a label. -/
def encode (label : List Char) : List Char :=
  let ascii := label.filter (·.toNat < 0x80)
  let p := Progress.place label ascii.length ⟨[], 0, 72, ascii.length⟩ 0x80 (beyond label)
  ascii ++ (if ascii.isEmpty then [] else ['-']) ++ p.out

/-- Reads a number from place `k` on with weight `w`: the sum with `acc`, and what follows it. -/
def number? (bias : Nat) : Nat → Nat → Nat → List Char → Option (Nat × List Char)
  | _, _, _, [] => none
  | k, w, acc, c :: rest =>
    (digitValue? c).bind fun d =>
      let t := bound k bias
      if d < t then some (acc + d * w, rest)
      else number? bias (k + 36) (w * (36 - t)) (acc + d * w) rest

/-- Places the characters that a text of numbers tells, at most `fuel` of them; `n` is the number of
the last one and `i` its place. -/
def placeAll? (ascii : Nat) : Nat → Nat → Nat → Nat → List Char → List Char → Option (List Char)
  | _, _, _, _, out, [] => some out
  | 0, _, _, _, _, _ => none
  | fuel + 1, n, i, bias, out, cs => do
    let (j, rest) ← number? bias 36 1 i cs
    let count := out.length + 1
    let m := n + j / count
    let place := j % count
    if m.isValidChar then
      placeAll? ascii fuel m (place + 1) (adapt (j - i) count (out.length = ascii))
        (out.take place ++ Char.ofNat m :: out.drop place) rest
    else none

/-- The label of a written form. -/
def decode? (cs : List Char) : Option (List Char) :=
  let rev := cs.reverse
  let ascii := (rev.dropWhile (· ≠ '-')).tail.reverse
  let tail := (rev.takeWhile (· ≠ '-')).reverse
  placeAll? ascii.length (tail.length + 1) 0x80 0 72 ascii tail

end FollowClient.Net.Punycode
