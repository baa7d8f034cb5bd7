import FollowClient.Json.Token

/-!
JSON texts as they are written: the tree of a text before its numbers and strings are looked at,
with every member of an object in its place. The builder takes one token after the other and keeps
the arrays and objects that are still open on a stack, so a text may nest to any depth.
-/

namespace FollowClient.Json

/-- A JSON text as it is written. -/
inductive Written where
  | null
  | bool (b : Bool)
  | number (l : Literal)
  | text (raw : List UInt8)
  | list (items : List Written)
  | members (ms : List (List UInt8 × Written))

namespace Written

/-- An array or object that is still open, its finished parts last first. -/
inductive Open where
  | list (done : List Written)
  | members (done : List (List UInt8 × Written)) (key : List UInt8)

/-- What may come next. -/
inductive Expects where
  | value
  | valueOrClose
  | keyOrClose (done : List (List UInt8 × Written))
  | key (done : List (List UInt8 × Written))
  | colon
  | commaOrClose
  | nothing (whole : Written)

/-- The builder: what may come next, and what is open around it, innermost first. -/
structure Builder where
  expects : Expects
  stack : List Open

/-- A value has ended: it joins what is open around it, or is the whole text. -/
def Builder.ended (w : Written) : List Open → Builder
  | [] => ⟨.nothing w, []⟩
  | .list done :: rest => ⟨.commaOrClose, .list (w :: done) :: rest⟩
  | .members done key :: rest => ⟨.commaOrClose, .members ((key, w) :: done) key :: rest⟩

/-- A token that starts a value. -/
def Builder.begin? (stack : List Open) : Token → Option Builder
  | .null => some (ended .null stack)
  | .bool b => some (ended (.bool b) stack)
  | .number l => some (ended (.number l) stack)
  | .text raw => some (ended (.text raw) stack)
  | .openList => some ⟨.valueOrClose, .list [] :: stack⟩
  | .openObject => some ⟨.keyOrClose [], stack⟩
  | _ => none

/-- Takes one token. -/
def Builder.step (b : Builder) (t : Token) : Option Builder :=
  match b.expects, t, b.stack with
  | .value, t, stack => begin? stack t
  | .valueOrClose, .closeList, .list done :: rest => some (ended (.list done.reverse) rest)
  | .valueOrClose, t, stack => begin? stack t
  | .keyOrClose done, .closeObject, stack => some (ended (.members done.reverse) stack)
  | .keyOrClose done, .text raw, stack => some ⟨.colon, .members done raw :: stack⟩
  | .key done, .text raw, stack => some ⟨.colon, .members done raw :: stack⟩
  | .colon, .colon, stack => some ⟨.value, stack⟩
  | .commaOrClose, .comma, .list done :: rest => some ⟨.value, .list done :: rest⟩
  | .commaOrClose, .closeList, .list done :: rest => some (ended (.list done.reverse) rest)
  | .commaOrClose, .comma, .members done _ :: rest => some ⟨.key done, rest⟩
  | .commaOrClose, .closeObject, .members done _ :: rest =>
    some (ended (.members done.reverse) rest)
  | _, _, _ => none

/-- The tree of a JSON text. -/
def read? (bytes : List UInt8) : Option Written := do
  let tokens ← Token.scan? bytes
  let b ← tokens.foldlM Builder.step ⟨.value, []⟩
  match b.expects with
  | .nothing whole => some whole
  | _ => none

/-! ### The value of a whole text -/

mutual

/-- The value of a text that nests at most `depth` deep: every number must be in range, every string
must be text, and the last member of a repeated key counts. -/
def toJson? : Nat → Written → Option Json
  | _, .null => some .null
  | _, .bool b => some (.bool b)
  | _, .number l => ofLiteral? l
  | _, .text raw => (Escape.text? raw).map .str
  | 0, .list _ => none
  | depth + 1, .list items => (toJsons? depth items).map .arr
  | 0, .members _ => none
  | depth + 1, .members ms => (toMembers? depth ms).map Json.object

/-- The values of the items of an array. -/
def toJsons? : Nat → List Written → Option (List Json)
  | _, [] => some []
  | depth, w :: rest => do
    let v ← toJson? depth w
    let vs ← toJsons? depth rest
    pure (v :: vs)

/-- The members of an object. -/
def toMembers? : Nat → List (List UInt8 × Written) → Option (List (String × Json))
  | _, [] => some []
  | depth, (key, w) :: rest => do
    let k ← Escape.text? key
    let v ← toJson? depth w
    let ms ← toMembers? depth rest
    pure ((k, v) :: ms)

end

end Written

/-- The deepest nesting that a body may have. -/
def depthLimit : Nat := 127

/-- Reads a JSON text as a value. -/
def read? (bytes : List UInt8) : Option Json :=
  (Written.read? bytes).bind (Written.toJson? depthLimit)

end FollowClient.Json
