import FollowClient.Net.Punycode
import FollowClient.Text.Decimal
import FollowClient.Text.Percent
import FollowClient.Text.Trim
import FollowClient.Text.Unprintable

/-!
Hosts of addresses: names, and numbers of networks. A name is written in ASCII; a name that ends in
a number is the number of a network with four bytes, and a number with sixteen bytes stands in
brackets. Each host has one written form.

Names in other letters are read in part only. Latin, Greek and Cyrillic capitals and wide signs get
their plain form (`Host.narrow`); capitals of other blocks stay what they are, and marks are not
joined with the letters before them. So two spellings that a resolver takes for one name can be two
here, and a theorem in which hosts matter takes their reading as a parameter
(`Repository.ReadsHosts`).
-/

namespace FollowClient.Net

open Text

/-- A host. -/
inductive Host where
  | name (cs : List Char)
  /-- The number of a network with four bytes. -/
  | four (n : Nat)
  /-- The number of a network with sixteen bytes, as eight pieces. -/
  | sixteen (pieces : List Nat)
  deriving DecidableEq, Repr

namespace Host

/-- The digits of a number to a base up to sixteen, in small letters. -/
def hexText (n : Nat) : List Char := Nat.toDigits 16 n

/-! ### Four bytes -/

/-- The value of a digit to a base. -/
def digitOf? (base : Nat) (c : Char) : Option Nat := (Percent.anyHexValue? c).filter (· < base)

/-- The value of digits to a base after `acc`. -/
def digitsOf? (base acc : Nat) : List Char → Option Nat
  | [] => some acc
  | c :: rest => (digitOf? base c).bind fun d => digitsOf? base (base * acc + d) rest

/-- A part of a number: decimal, octal after a zero, or hexadecimal after `0x`. -/
def part? : List Char → Option Nat
  | [] => none
  | '0' :: 'x' :: ds => digitsOf? 16 0 ds
  | '0' :: 'X' :: ds => digitsOf? 16 0 ds
  | '0' :: d :: ds => digitsOf? 8 0 (d :: ds)
  | ds => digitsOf? 10 0 ds

/-- The parts of a name between its dots, without an empty one at its end. -/
def parts (cs : List Char) : List (List Char) :=
  let ps := splitOn (· = '.') cs
  if ps.getLast? = some [] then ps.dropLast else ps

/-- The name ends in a number. -/
def endsInNumber (cs : List Char) : Bool :=
  match (parts cs).getLast? with
  | some last => (!last.isEmpty && last.all Char.isDigit) || (part? last).isSome
  | none => false

/-- The number of parts, of which the last one fills all the bytes that are left. -/
def ofParts? : Nat → List Nat → Option Nat
  | _, [] => none
  | bytes, [last] => if last < Nat.pow 256 bytes then some last else none
  | bytes, n :: rest =>
    if n < 256 then (ofParts? (bytes - 1) rest).map (n * Nat.pow 256 (bytes - 1) + ·) else none

/-- The number of a network with four bytes: one to four parts. -/
def four? (cs : List Char) : Option Nat :=
  let ps := parts cs
  if ps.length ≤ 4 then (ps.mapM part?).bind (ofParts? 4) else none

/-! ### Sixteen bytes -/

/-- A piece: one to four hexadecimal digits. -/
def piece? (cs : List Char) : Option Nat :=
  if 1 ≤ cs.length ∧ cs.length ≤ 4 then digitsOf? 16 0 cs else none

/-- A byte in decimal, without zeros in front. -/
def byte? (cs : List Char) : Option Nat :=
  match cs with
  | [] => none
  | ['0'] => some 0
  | '0' :: _ => none
  | cs => (digitsOf? 10 0 cs).filter (· < 256)

/-- The two pieces of four bytes in decimal. -/
def bytePieces? (cs : List Char) : Option (List Nat) :=
  match (splitOn (· = '.') cs).mapM byte? with
  | some [a, b, c, d] => some [256 * a + b, 256 * c + d]
  | _ => none

/-- The pieces of texts; the last one may be four bytes in decimal. -/
def piecesOf? : List (List Char) → Option (List Nat)
  | [] => some []
  | [last] => (bytePieces? last).or ((piece? last).map ([·]))
  | p :: rest => do
    let n ← piece? p
    let ns ← piecesOf? rest
    pure (n :: ns)

/-- The texts between colons; an empty text has none. -/
def pieceTexts (cs : List Char) : List (List Char) :=
  if cs.isEmpty then [] else splitOn (· = ':') cs

/-- The text before the first pair of colons, and the text behind it if there is a pair. -/
def splitPair : List Char → List Char × Option (List Char)
  | [] => ([], none)
  | ':' :: ':' :: rest => ([], some rest)
  | c :: rest => let (before, behind) := splitPair rest; (c :: before, behind)

/-- The number of a network with sixteen bytes: eight pieces, of which a pair of colons leaves out
one or more that are zero. -/
def sixteen? (cs : List Char) : Option (List Nat) :=
  match splitPair cs with
  | (all, none) => (piecesOf? (pieceTexts all)).filter (·.length = 8)
  | (before, some behind) => do
    let front ← (pieceTexts before).mapM piece?
    let back ← piecesOf? (pieceTexts behind)
    if front.length + back.length < 8 then
      some (front ++ List.replicate (8 - front.length - back.length) 0 ++ back)
    else none

/-- How many zeros a list starts with. -/
def zeros (ps : List Nat) : Nat := (ps.takeWhile (· = 0)).length

/-- The length of the longest run of zeros. -/
def longestRun : List Nat → Nat
  | [] => 0
  | p :: rest => Nat.max (zeros (p :: rest)) (longestRun rest)

/-- The pieces with colons between them. -/
def joinPieces : List Nat → List Char
  | [] => []
  | [p] => hexText p
  | p :: rest => hexText p ++ ':' :: joinPieces rest

/-- The pieces before the first run of `run` zeros, and those behind it. -/
def splitRun (run : Nat) : List Nat → List Nat × List Nat
  | [] => ([], [])
  | p :: rest =>
    if run ≤ zeros (p :: rest) then ([], (p :: rest).drop run)
    else let (before, behind) := splitRun run rest; (p :: before, behind)

/-- The written form of pieces: a pair of colons stands for the first of the longest runs of two
zeros or more. -/
def sixteenText (ps : List Nat) : List Char :=
  let run := longestRun ps
  if run < 2 then joinPieces ps
  else let (before, behind) := splitRun run ps; joinPieces before ++ ':' :: ':' :: joinPieces behind

/-! ### Names -/

/-- The characters that no name holds. -/
def isRefused (c : Char) : Bool :=
  c.toNat ≤ 0x20 || c.toNat = 0x7F ||
    "%#/:<>?@[\\]^|".toList.contains c || (0x80 ≤ c.toNat && isUnprintable c)

/-- The characters that a name drops: they show nothing and join nothing. -/
def isDropped (c : Char) : Bool :=
  let n := c.toNat
  n = 0xAD || n = 0x200B || n = 0x2060 || n = 0xFEFF || (0xFE00 ≤ n && n ≤ 0xFE0F)

/-- The small form of a letter of the Latin, Greek or Cyrillic script, and the narrow form of a wide
sign; any other character stays. -/
def narrow (c : Char) : Char :=
  let n := c.toNat
  if n = 0x3002 || n = 0xFF61 then '.'
  else if 0xFF01 ≤ n && n ≤ 0xFF5E then (Char.ofNat (n - 0xFEE0)).toLower
  else if (0xC0 ≤ n && n ≤ 0xDE && n ≠ 0xD7) || (0x391 ≤ n && n ≤ 0x3A9 && n ≠ 0x3A2) ||
    (0x410 ≤ n && n ≤ 0x42F) then Char.ofNat (n + 0x20)
  else if 0x400 ≤ n && n ≤ 0x40F then Char.ofNat (n + 0x50)
  else c.toLower

/-- The characters of a name as they count. -/
def folded (cs : List Char) : List Char := (cs.filter (!isDropped ·)).map narrow

/-- What the written form of a label with other letters starts with. -/
def mark : List Char := "xn--".toList

/-- The text behind the mark is the written form of a label with other letters, which counts as it
stands. -/
def isWritten (cs : List Char) : Bool :=
  match Punycode.decode? cs with
  | some label =>
    label.any (0x80 ≤ ·.toNat) && folded label = label && !label.any isRefused &&
      !mark.isPrefixOf label && Punycode.encode label = cs
  | none => false

/-- A label in ASCII; one that starts with the mark has to be the written form of another label. -/
def label? (cs : List Char) : Option (List Char) :=
  if mark.isPrefixOf cs then if isWritten (cs.drop mark.length) then some cs else none
  else if cs.all (·.toNat < 0x80) then some cs
  else some (mark ++ Punycode.encode cs)

/-- Labels with dots between them. -/
def joinLabels : List (List Char) → List Char
  | [] => []
  | [l] => l
  | l :: rest => l ++ '.' :: joinLabels rest

/-- The ASCII form of a name. -/
def name? (s : String) : Option (List Char) :=
  let cs := folded s.toList
  if cs.any isRefused then none else ((splitOn (· = '.') cs).mapM label?).map joinLabels

/-! ### Reading and writing -/

/-- The text between brackets. -/
def bracketed? : List Char → Option (List Char)
  | '[' :: cs => if cs.getLast? = some ']' then some cs.dropLast else none
  | _ => none

/-- The host of an address whose scheme is one of the web. -/
def read? (cs : List Char) : Option Host :=
  if cs.head? = some '[' then ((bracketed? cs).bind sixteen?).map .sixteen
  else
    match (Percent.text? cs).bind name? with
    | some (c :: rest) =>
      if endsInNumber (c :: rest) then (four? (c :: rest)).map .four else some (.name (c :: rest))
    | _ => none

/-- The characters that no host of an address with another scheme holds. -/
def isRefusedElsewhere (c : Char) : Bool :=
  c.toNat = 0 || "\t\n\r #/:<>?@[\\]^|".toList.contains c

/-- A printable ASCII character. -/
def isGraphic (c : Char) : Bool := 0x20 ≤ c.toNat && c.toNat ≤ 0x7E

/-- The host of an address with another scheme, which is kept as it is written. -/
def readElsewhere? (cs : List Char) : Option Host :=
  if cs.head? = some '[' then ((bracketed? cs).bind sixteen?).map .sixteen
  else if cs.any isRefusedElsewhere then none
  else some (.name (Percent.escape isGraphic cs))

/-- The written form of a host. -/
def text : Host → List Char
  | name cs => cs
  | four n =>
    Decimal.write (n / 0x1000000 % 256) ++ '.' :: Decimal.write (n / 0x10000 % 256) ++
      '.' :: Decimal.write (n / 0x100 % 256) ++ '.' :: Decimal.write (n % 256)
  | sixteen ps => '[' :: sixteenText ps ++ [']']

end Host

end FollowClient.Net
