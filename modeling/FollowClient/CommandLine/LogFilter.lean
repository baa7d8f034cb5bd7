import FollowClient.CommandLine.FieldPattern
import FollowClient.Text.Decimal
import FollowClient.Text.Trim

/-!
Filters of the log. A filter is a list of parts between commas; a part names a level, a target, or a
target and a level, and may name a span with fields in brackets. A filter with a part that is none of
these is not used: its text then stands for the level of this program, and the parts that are wrong in
that filter are complained about.

The words of a part are found in its trimmed text, but they are taken from the part as it is written,
at the same places. So blanks before a part shift its words.
-/

namespace FollowClient.CommandLine.LogFilter

/-- What is wrong with a part. -/
inductive Fault where
  | level
  | directive
  | field (fault : FieldPattern.Fault)
  /-- A word starts or ends inside a character; the program breaks off. -/
  | torn
  deriving DecidableEq, Repr

/-- What is said about a fault. -/
def Fault.message : Fault → String
  | .level => "error parsing level filter: expected one of \"off\", \"error\", \"warn\", " ++
      "\"info\", \"debug\", \"trace\", or a number 0-5"
  | .directive => "invalid filter directive"
  | .field fault => "invalid field filter: " ++ fault.message
  | .torn => ""

/-! ### Words -/

/-- The words for levels. -/
def levels : List String := ["off", "error", "warn", "info", "debug", "trace"]

/-- The text names a level. -/
def isLevel (s : String) : Bool :=
  s.isEmpty || levels.contains (Text.lower s) || (Text.Decimal.read? 6 s).isSome

/-- The characters after the first `n` bytes, if these end with a character. -/
def dropBytes? : Nat → List Char → Option (List Char)
  | 0, cs => some cs
  | _, [] => none
  | n, c :: cs => if c.utf8Size ≤ n then dropBytes? (n - c.utf8Size) cs else none

/-- The characters of the first `n` bytes, if these end with a character. -/
def takeBytes? : Nat → List Char → Option (List Char)
  | 0, _ => some []
  | _, [] => none
  | n, c :: cs =>
    if c.utf8Size ≤ n then (takeBytes? (n - c.utf8Size) cs).map (c :: ·) else none

/-- The word of a text between two places, counted in bytes. -/
def word (cs : List Char) (first last : Nat) : Except Fault (List Char) :=
  match (dropBytes? first cs).bind (takeBytes? (last - first)) with
  | some w => .ok w
  | none => .error .torn

/-- The word of a text from a place to its end. -/
def lastWord (cs : List Char) (first : Nat) : Except Fault (List Char) :=
  match dropBytes? first cs with
  | some w => .ok w
  | none => .error .torn

/-! ### Fields -/

/-- The value that a field is to have, if one is asked for. -/
def valueOf? (field : List Char) : Option (List Char) :=
  match field.dropWhile (· ≠ '=') with
  | [] => none
  | _ :: value => some (value.takeWhile (· ≠ '='))

/-- A field has a text, and its value is well formed. -/
def checkField (field : List Char) : Except Fault Unit :=
  if field.isEmpty then .error .directive
  else
    match (valueOf? field).bind FieldPattern.fault? with
    | some fault => .error (.field fault)
    | none => .ok ()

/-! ### Parts -/

/-- Where a part is being read, and where the present word has started. -/
inductive Place where
  | start
  | name (first : Nat)
  | span (first : Nat)
  | field (first : Nat)
  | afterFields
  | afterSpan
  | level (first : Nat)
  deriving DecidableEq, Repr

/-- The characters that may start a target. -/
def startsName (c : Char) : Bool := c = '-' || c = ':' || c = '_' || Text.isAlphanumeric c

/-- The next character of a part, at place `i` of the trimmed text; `part` is its whole text. -/
def Place.step (part : List Char) (i : Nat) (c : Char) : Place → Except Fault Place
  | .start =>
    if c = '[' then .ok (.span (i + 1)) else if startsName c then .ok (.name i) else
      .error .directive
  | .name first =>
    if c = '=' then (word part first i).map fun _ => .level (i + 1)
    else if c = '[' then (word part first i).map fun _ => .span (i + 1)
    else .ok (.name first)
  | .span first =>
    if c = ']' then (word part first i).map fun _ => .afterSpan
    else if c = '\x7b' then (word part first i).map fun _ => .field (i + 1)
    else .ok (.span first)
  | .field first =>
    if c = '\x7d' then ((word part first i).bind checkField).map fun _ => .afterFields
    else .ok (.field first)
  | .afterFields => if c = ']' then .ok .afterSpan else .error .directive
  | .afterSpan => if c = '=' then .ok (.level (i + 1)) else .error .directive
  | .level first => .ok (.level first)

/-- Reads characters from place `i` on. -/
def Place.steps (part : List Char) (i : Nat) (p : Place) : List Char → Except Fault Place
  | [] => .ok p
  | c :: cs => (p.step part i c).bind fun p => p.steps part (i + c.utf8Size) cs

/-- The end of a part. -/
def Place.finish (part : List Char) : Place → Except Fault Unit
  | .name first => (lastWord part first).map fun _ => ()
  | .level first =>
    (lastWord part first).bind fun w =>
      if isLevel (String.ofList w) then .ok () else .error .level
  | .afterSpan => .ok ()
  | _ => .error .directive

/-- What is wrong with a part, if anything is. -/
def fault? (part : String) : Option Fault :=
  let cs := part.toList
  match (Place.start.steps cs 0 (Text.strip Text.isBlank cs)).bind (Place.finish cs) with
  | .ok () => none
  | .error fault => some fault

/-! ### Filters -/

/-- The parts of a filter. -/
def parts (filter : String) : List String :=
  ((Text.splitOn (· = ',') filter.toList).map String.ofList).filter (!·.isEmpty)

/-- The complaints about the parts of a filter, none if the program breaks off. -/
def complaintsAbout? : List String → Option (List String)
  | [] => some []
  | part :: rest =>
    match fault? part with
    | none => complaintsAbout? rest
    | some .torn => none
    | some fault =>
      (complaintsAbout? rest).map (("ignoring `" ++ part ++ "`: " ++ fault.message) :: ·)

/-- The complaints about a level that the environment may name, none if the program breaks off. A
level that is a usable filter, or that is not named, gives no complaints. -/
def complaints? (named : Option String) : Option (List String) :=
  match named with
  | none => some []
  | some filter =>
    match (parts filter).findSome? fault? with
    | none => some []
    | some .torn => none
    | some _ => complaintsAbout? (parts ("fedi3_follow=" ++ filter))

end FollowClient.CommandLine.LogFilter
