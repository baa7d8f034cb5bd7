import FollowClient.Json.Escape
import FollowClient.Json.Number

/-!
The tokens of a JSON text. A scanner goes through the bytes once. It refuses bytes that belong to
no token, control characters inside a string, escapes that are none, and numbers that are no
literals; it looks neither at the size of a number nor at the characters a string stands for.
-/

namespace FollowClient.Json

/-- A token of a JSON text. -/
inductive Token where
  | openList
  | closeList
  | openObject
  | closeObject
  | comma
  | colon
  | null
  | bool (b : Bool)
  | number (l : Literal)
  | text (raw : List UInt8)

namespace Token

/-- What the scanner is in the middle of; what it has read of it comes last first. -/
inductive Reading where
  | nothing
  | word (rev : List Char)
  | number (rev : List Char)
  | text (rev : List UInt8) (escaped : Bool)

/-- The scanner: what it is reading, and the finished tokens, last first. -/
structure Scanner where
  reading : Reading
  done : List Token

/-- The bytes that number literals are made of. -/
def isNumberByte (b : UInt8) : Bool :=
  let n := b.toNat
  (0x30 ≤ n && n ≤ 0x39) || n == 0x2B || n == 0x2D || n == 0x2E || n == 0x45 || n == 0x65

/-- The small ASCII letters. -/
def isWordByte (b : UInt8) : Bool := 0x61 ≤ b.toNat && b.toNat ≤ 0x7A

/-- The token a word stands for. -/
def ofWord? (word : List Char) : Option Token :=
  if word = ['n', 'u', 'l', 'l'] then some .null
  else if word = ['t', 'r', 'u', 'e'] then some (.bool true)
  else if word = ['f', 'a', 'l', 's', 'e'] then some (.bool false)
  else none

/-- Starts with the first byte of a token, or skips a blank. -/
def Scanner.start (done : List Token) (b : UInt8) : Option Scanner :=
  match b.toNat with
  | 0x20 | 0x09 | 0x0A | 0x0D => some ⟨.nothing, done⟩
  | 0x5B => some ⟨.nothing, .openList :: done⟩
  | 0x5D => some ⟨.nothing, .closeList :: done⟩
  | 0x7B => some ⟨.nothing, .openObject :: done⟩
  | 0x7D => some ⟨.nothing, .closeObject :: done⟩
  | 0x2C => some ⟨.nothing, .comma :: done⟩
  | 0x3A => some ⟨.nothing, .colon :: done⟩
  | 0x22 => some ⟨.text [] false, done⟩
  | n =>
    if isWordByte b then some ⟨.word [Char.ofNat n], done⟩
    else if isNumberByte b then some ⟨.number [Char.ofNat n], done⟩
    else none

/-- Ends a word or number at a byte that does not belong to it; nothing ends a string but a
quote. -/
def Scanner.finish (s : Scanner) : Option (List Token) :=
  match s.reading with
  | .nothing => some s.done
  | .word rev => (ofWord? rev.reverse).map (· :: s.done)
  | .number rev => (Literal.read? rev.reverse).map (.number · :: s.done)
  | .text _ _ => none

/-- Takes one byte. -/
def Scanner.step (s : Scanner) (b : UInt8) : Option Scanner :=
  match s.reading with
  | .text rev escaped =>
    if b.toNat < 0x20 then none
    else if escaped then some { s with reading := .text (b :: rev) false }
    else if b.toNat = 0x22 then
      let raw := rev.reverse
      if Escape.wellFormed raw then some ⟨.nothing, .text raw :: s.done⟩ else none
    else some { s with reading := .text (b :: rev) (b.toNat = 0x5C) }
  | .word rev =>
    if isWordByte b then some { s with reading := .word (Char.ofNat b.toNat :: rev) }
    else s.finish.bind fun done => start done b
  | .number rev =>
    if isNumberByte b then some { s with reading := .number (Char.ofNat b.toNat :: rev) }
    else s.finish.bind fun done => start done b
  | .nothing => start s.done b

/-- The tokens of a JSON text. -/
def scan? (bytes : List UInt8) : Option (List Token) := do
  let s ← bytes.foldlM Scanner.step ⟨.nothing, []⟩
  let done ← s.finish
  pure done.reverse

end Token

end FollowClient.Json
