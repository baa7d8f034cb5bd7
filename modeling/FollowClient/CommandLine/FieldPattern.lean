import FollowClient.Text.Alphanumeric
import FollowClient.Text.Trim

/-!
Patterns for the values of fields. `check` tells whether a text is a pattern: groups, alternatives,
repetitions, escapes and bracketed classes. A pattern is written in a part of a filter, where no
closing brace, comma or equals sign can stand, so a pattern never counts its repetitions and never
names a property. Classes that need tables of letters are not known, nor is folding of letters.
-/

namespace FollowClient.CommandLine.FieldPattern

/-! ### Flags -/

/-- The flags that matter for what is a pattern. -/
structure Flags where
  /-- Blanks and comments between the items do not count. -/
  spaced : Bool
  /-- Letters match in either case. -/
  fold : Bool
  /-- Characters are matched, not bytes. -/
  chars : Bool
  deriving DecidableEq, Repr

/-- The flags at the start of a pattern. -/
def Flags.default : Flags := ⟨false, false, true⟩

/-- The flags after one of them was set; flags without a field are known and change nothing. -/
def Flags.set (f : Flags) (c : Char) (on : Bool) : Option Flags :=
  if c = 'x' then some { f with spaced := on }
  else if c = 'i' then some { f with fold := on }
  else if c = 'u' then some { f with chars := on }
  else if c ∈ ['m', 's', 'U', 'R'] then some f
  else none

/-- The characters after blanks and comments. -/
def skipSpace (comment : Bool) : List Char → List Char
  | [] => []
  | c :: rest =>
    if comment then skipSpace (c ≠ '\n') rest
    else if Text.isBlank c then skipSpace false rest
    else if c = '#' then skipSpace true rest
    else c :: rest

/-- The characters from the next one that counts. -/
def Flags.skip (f : Flags) (cs : List Char) : List Char :=
  if f.spaced then skipSpace false cs else cs

/-- Flags up to a colon or a closing parenthesis: the new flags, whether there were any, the
character at their end, and what follows it. Each may stand once, and a minus needs a flag. -/
def readFlags (on dangling : Bool) (seen : List Char) (f : Flags) :
    List Char → Option (Flags × Bool × Char × List Char)
  | [] => none
  | c :: rest =>
    if c = ':' || c = ')' then if dangling then none else some (f, !seen.isEmpty, c, rest)
    else if c ∈ seen then none
    else if c = '-' then readFlags false true (c :: seen) f rest
    else (f.set c on).bind fun f => readFlags on false (c :: seen) f rest

/-! ### Escapes -/

/-- A single item of a pattern or a class. -/
inductive Item where
  /-- A character, and whether it was written as a byte. -/
  | literal (c : Char) (byte : Bool)
  /-- A class of letters, digits or blanks, or all others. -/
  | family (negated : Bool)
  /-- A class by a property of characters. -/
  | property
  /-- A place at the start or end of a word. -/
  | wordPlace
  /-- A place at the start or end of the text. -/
  | textPlace
  deriving DecidableEq, Repr

/-- The value of a hexadecimal digit. -/
def hexValue? (c : Char) : Option Nat :=
  let n := c.toNat
  if 0x30 ≤ n ∧ n ≤ 0x39 then some (n - 0x30)
  else if 0x41 ≤ n ∧ n ≤ 0x46 then some (n - 0x37)
  else if 0x61 ≤ n ∧ n ≤ 0x66 then some (n - 0x57)
  else none

/-- A character by `count` more hexadecimal digits after those that make `acc`. -/
def hexChar? (f : Flags) (byte : Bool) : Nat → Nat → List Char → Option (Item × List Char)
  | 0, acc, cs => if acc.isValidChar then some (.literal (Char.ofNat acc) byte, cs) else none
  | count + 1, acc, cs =>
    match f.skip cs with
    | [] => none
    | c :: rest => (hexValue? c).bind fun d => hexChar? f byte count (16 * acc + d) rest

/-- The signs that stand for themselves after a backslash: all of ASCII but letters, digits and
angle brackets. -/
def isEscapable (c : Char) : Bool :=
  c.toNat < 0x80 && !c.isAlphanum && c ≠ '<' && c ≠ '>'

/-- The control characters that have a letter after a backslash. -/
def controls : List (Char × Nat) :=
  [('a', 0x07), ('f', 0x0C), ('t', 0x09), ('n', 0x0A), ('r', 0x0D), ('v', 0x0B)]

/-- The character that an escape with one sign stands for. -/
def escaped? (c : Char) : Option Char :=
  ((controls.lookup c).map Char.ofNat).or (if isEscapable c then some c else none)

/-- The item after a backslash. -/
def escape? (f : Flags) : List Char → Option (Item × List Char)
  | [] => none
  | c :: rest =>
    if c = 'x' then hexChar? f true 2 0 rest
    else if c = 'u' then hexChar? f false 4 0 rest
    else if c = 'U' then hexChar? f false 8 0 rest
    else if c = 'p' || c = 'P' then
      match f.skip rest with
      | [] => none
      | name :: rest => if name = '\x7b' || name = '\\' then none else some (.property, rest)
    else if c ∈ ['d', 's', 'w'] then some (.family false, rest)
    else if c ∈ ['D', 'S', 'W'] then some (.family true, rest)
    else if c = 'A' || c = 'z' then some (.textPlace, rest)
    else if c = 'b' then
      match rest with
      | '\x7b' :: _ => none
      | _ => some (.wordPlace, rest)
    else if c ∈ ['B', '<', '>'] then some (.wordPlace, rest)
    else (escaped? c).map fun c => (.literal c false, rest)

/-- The item can be matched outside a class. -/
def Item.isKnown (f : Flags) : Item → Bool
  | .literal c byte => if f.chars then !f.fold else !byte || c.toNat < 0x80
  | .family negated => !f.chars && !negated
  | .property => false
  | .wordPlace => true
  | .textPlace => true

/-- The item can be matched inside a class. -/
def Item.isKnownInClass (f : Flags) : Item → Bool
  | .literal c _ => if f.chars then !f.fold else c.toNat < 0x80
  | .family negated => !f.chars && !negated
  | _ => false

/-! ### Bracketed classes -/

/-- The names of ASCII classes. -/
def classNames : List String :=
  ["alnum", "alpha", "ascii", "blank", "cntrl", "digit", "graph", "lower", "print", "punct",
    "space", "upper", "word", "xdigit"]

/-- An ASCII class after its opening bracket: whether it is negated, and what follows it. -/
def namedClass? : List Char → Option (Bool × List Char)
  | ':' :: cs =>
    let (negated, cs) := match cs with
      | '^' :: cs => (true, cs)
      | cs => (false, cs)
    if String.ofList (cs.takeWhile (· ≠ ':')) ∈ classNames then
      match cs.dropWhile (· ≠ ':') with
      | ':' :: ']' :: rest => some (negated, rest)
      | _ => none
    else none
  | _ => none

/-- The start of a class after its opening bracket: whether it is negated, and what follows the
minus signs, or the closing bracket, that stand for themselves there. -/
def classStart? (f : Flags) (cs : List Char) : Option (Bool × List Char) :=
  let (negated, cs) := match f.skip cs with
    | '^' :: cs => (true, f.skip cs)
    | cs => (false, cs)
  match minuses cs with
  | (_, []) => none
  | (false, ']' :: rest) => if (f.skip rest).isEmpty then none else some (negated, f.skip rest)
  | (_, cs) => some (negated, cs)
where
  /-- Whether there are minus signs, and what follows them. -/
  minuses : List Char → Bool × List Char
    | '-' :: rest => (true, (minuses rest).2)
    | c :: rest => if f.spaced && Text.isBlank c then minuses rest else (false, c :: rest)
    | [] => (false, [])

/-- A character or an escape in a class. -/
def classItem? (f : Flags) : List Char → Option (Item × List Char)
  | '\\' :: rest => escape? f rest
  | c :: rest => some (.literal c false, rest)
  | [] => none

/-- Two items are the ends of a range. -/
def isRange (f : Flags) : Item → Item → Bool
  | .literal a x, .literal b y =>
    a ≤ b && (Item.literal a x).isKnownInClass f && (Item.literal b y).isKnownInClass f
  | _, _ => false

/-- What follows the bracketed classes that are open at the start, `depth` many, if they are well
formed; at most `fuel` of their items are read. -/
def afterClass? (f : Flags) : Nat → Nat → List Char → Option (List Char)
  | 0, _, _ => none
  | fuel + 1, depth, cs =>
    match f.skip cs with
    | [] => none
    | '[' :: rest =>
      match namedClass? rest with
      | some (negated, rest) => if negated && !f.chars then none else afterClass? f fuel depth rest
      | none =>
        (classStart? f rest).bind fun s =>
          if s.1 && !f.chars then none else afterClass? f fuel (depth + 1) s.2
    | ']' :: rest => if depth ≤ 1 then some rest else afterClass? f fuel (depth - 1) rest
    | '&' :: '&' :: rest => afterClass? f fuel depth rest
    | '-' :: '-' :: rest => afterClass? f fuel depth rest
    | '~' :: '~' :: rest => afterClass? f fuel depth rest
    | cs =>
      (classItem? f cs).bind fun (first, rest) =>
        let single := if first.isKnownInClass f then afterClass? f fuel depth rest else none
        match f.skip rest with
        | '-' :: behind =>
          match f.skip behind with
          | [] => none
          | ']' :: _ => single
          | '-' :: _ => single
          | behind =>
            (classItem? f behind).bind fun (last, rest) =>
              if isRange f first last then afterClass? f fuel depth rest else none
        | _ => single

/-- What follows a bracketed class after its opening bracket, if it is well formed. -/
def bracketed? (f : Flags) (cs : List Char) : Option (List Char) :=
  (classStart? f cs).bind fun s =>
    if s.1 && !f.chars then none else afterClass? f (s.2.length + 1) 1 s.2

/-! ### Groups -/

/-- The characters of the name of a group. -/
def isNameChar (first : Bool) (c : Char) : Bool :=
  c = '_' || (if first then Text.isAlphanumeric c && !c.isDigit
    else c = '.' || c = '[' || c = ']' || Text.isAlphanumeric c)

/-- The name of a group, and what follows the angle bracket behind it. -/
def groupName? (cs : List Char) : Option (List Char × List Char) :=
  let name := cs.takeWhile (· ≠ '>')
  match name, cs.dropWhile (· ≠ '>') with
  | c :: others, '>' :: rest =>
    if isNameChar true c && others.all (isNameChar false) then some (name, rest) else none
  | _, _ => none

/-- How far a pattern has been read. -/
structure Progress where
  flags : Flags
  /-- The flags around the groups that are open, innermost first. -/
  around : List Flags
  /-- The names of groups so far. -/
  names : List (List Char)
  /-- There is an item that can be repeated. -/
  repeatable : Bool
  /-- The pattern asks for the start or end of a word of any script. -/
  asksForWords : Bool

/-- A group opens. -/
def Progress.enter (p : Progress) (f : Flags) : Progress :=
  { p with flags := f, around := p.flags :: p.around, repeatable := false }

/-- The start of a group after its parenthesis, or flags in parentheses. -/
def openGroup? (p : Progress) (cs : List Char) : Option (Progress × List Char) :=
  match p.flags.skip cs with
  | '?' :: '=' :: _ => none
  | '?' :: '!' :: _ => none
  | '?' :: '<' :: '=' :: _ => none
  | '?' :: '<' :: '!' :: _ => none
  | '?' :: 'P' :: '<' :: rest => named rest
  | '?' :: '<' :: rest => named rest
  | '?' :: rest =>
    (readFlags true false [] p.flags rest).bind fun (f, any, last, rest) =>
      if last = ':' then some (p.enter f, rest)
      else if any then some ({ p with flags := f, repeatable := false }, rest)
      else none
  | rest => some (p.enter p.flags, rest)
where
  /-- The start of a group with a name. -/
  named (rest : List Char) : Option (Progress × List Char) :=
    (groupName? rest).bind fun (name, rest) =>
      if name ∈ p.names then none
      else some ({ p with names := name :: p.names }.enter p.flags, rest)

/-! ### Patterns -/

/-- Takes up an item. -/
def Progress.take (p : Progress) (i : Item) : Option Progress :=
  if i.isKnown p.flags then
    some { p with
      repeatable := true
      asksForWords := p.asksForWords || (i = .wordPlace && p.flags.chars) }
  else none

/-- Reads on, at most `fuel` items. -/
def scan : Nat → Progress → List Char → Option Progress
  | 0, _, _ => none
  | fuel + 1, p, cs =>
    match p.flags.skip cs with
    | [] => if p.around.isEmpty then some p else none
    | '(' :: rest => (openGroup? p rest).bind fun s => scan fuel s.1 s.2
    | ')' :: rest =>
      match p.around with
      | [] => none
      | f :: around => scan fuel { p with flags := f, around, repeatable := true } rest
    | '|' :: rest => scan fuel { p with repeatable := false } rest
    | '[' :: rest =>
      if p.flags.chars && p.flags.fold then none
      else (bracketed? p.flags rest).bind fun rest => scan fuel { p with repeatable := true } rest
    | '\x7b' :: _ => none
    | '\\' :: rest =>
      (escape? p.flags rest).bind fun s => (p.take s.1).bind fun p => scan fuel p s.2
    | c :: rest =>
      if c = '?' || c = '*' || c = '+' then
        if p.repeatable then
          match rest with
          | '?' :: rest => scan fuel p rest
          | _ => scan fuel p rest
        else none
      else if c = '.' then
        if p.flags.chars then scan fuel { p with repeatable := true } rest else none
      else if c = '^' || c = '$' then scan fuel { p with repeatable := true } rest
      else (p.take (.literal c false)).bind fun p => scan fuel p rest

/-- What is wrong with a pattern. -/
inductive Fault where
  | malformed
  /-- It asks for the start or end of a word of any script. -/
  | words
  deriving DecidableEq, Repr

/-- What is said about a fault. -/
def Fault.message : Fault → String
  | .malformed => "error building NFA"
  | .words => "unsupported regex feature for DFAs: cannot build DFAs for regexes with Unicode " ++
      "word boundaries; switch to ASCII word boundaries, or heuristically enable Unicode word " ++
      "boundaries or use a different regex engine"

/-- What is wrong with a text as a pattern, if anything is. -/
def check (cs : List Char) : Option Fault :=
  match scan (cs.length + 1) ⟨.default, [], [], false, false⟩ cs with
  | none => some .malformed
  | some p => if p.asksForWords then some .words else none

/-! ### Values -/

/-- The text is a number with a sign and digits, of which a point and an exponent may be part. -/
def isSignedNumber : List Char → Bool
  | '+' :: cs =>
    let whole := cs.takeWhile Char.isDigit
    let rest := cs.dropWhile Char.isDigit
    let (places, rest) := match rest with
      | '.' :: rest => (rest.takeWhile Char.isDigit, rest.dropWhile Char.isDigit)
      | rest => ([], rest)
    let word := String.ofList (cs.map Char.toLower)
    word = "inf" || word = "infinity" || word = "nan" ||
      (!(whole.isEmpty && places.isEmpty) && isExponent rest)
  | _ => false
where
  /-- The text is an exponent, or nothing. -/
  isExponent : List Char → Bool
    | [] => true
    | e :: cs =>
      let digits := match cs with
        | '+' :: ds => ds
        | '-' :: ds => ds
        | ds => ds
      (e = 'e' || e = 'E') && !digits.isEmpty && digits.all Char.isDigit

/-- What is wrong with the value of a field, if anything is: a number is a value, and every other
value is a pattern. Numbers without a plus sign are patterns as well. -/
def fault? (value : List Char) : Option Fault :=
  if isSignedNumber value then none else check value

end FollowClient.CommandLine.FieldPattern
