import FollowClient.Text.Alphanumeric
import FollowClient.Text.Trim

/-!
Environments and the files that add to them. A variable of a process may hold what is no text, and
then reading it is like reading one that is not set. What loads the file of a client is not part of
it: a `Loader` may be anything that makes other variables of those of a process, and may break the
program off instead.

The loader that the program runs with is `EnvFile.loader`. Its files have a line for each variable,
`NAME=value`; blank lines and lines that start with `#` say nothing. A value may be quoted, may name
other variables, and ends at a blank outside quotes, after which only a comment may follow. Reading
stops at the first line that is none of these. A variable that can be read already keeps its value,
and setting one to a text with a null character breaks the program off.
-/

namespace FollowClient

/-! ### Variables -/

/-- A variable of a process. -/
inductive Variable where
  | unset
  /-- It is set to bytes that are no text. -/
  | unreadable
  | text (value : String)
  deriving DecidableEq, Repr

/-- The variables of a process, by their names. -/
abbrev Variables := String → Variable

/-- The value of a variable, if it can be read. -/
def Variables.read? (vars : Variables) (name : String) : Option String :=
  match vars name with
  | .text value => some value
  | _ => none

/-- What loads a file of variables into a process, or breaks the program off. -/
abbrev Loader := Variables → Option Variables

/-- The variables that can be read, with their values; the first value of a name counts. -/
abbrev Environment := List (String × String)

namespace Environment

/-- The value of a variable. -/
def get? (env : Environment) (name : String) : Option String := env.lookup name

/-- A process with these variables and no others. -/
def process (env : Environment) : Variables := fun name =>
  match env.get? name with
  | some value => .text value
  | none => .unset

@[simp] theorem read?_process (env : Environment) : env.process.read? = env.get? := by
  funext name
  unfold Variables.read? process
  cases env.get? name <;> rfl

end Environment

/-- The variables with other values for those that cannot be read. -/
def Variables.fill (vars : Variables) (env : Environment) : Variables := fun name =>
  if (vars.read? name).isSome then vars name
  else
    match env.get? name with
    | some value => .text value
    | none => vars name

theorem Variables.read?_fill (vars : Variables) (env : Environment) (name : String) :
    (vars.fill env).read? name = (vars.read? name).or (env.get? name) := by
  cases own : vars.read? name with
  | some value =>
    have same : (vars.fill env) name = vars name := by simp [fill, own]
    rw [Option.some_or, ← own, read?, same, ← read?]
  | none =>
    rw [Option.none_or]
    cases given : env.get? name with
    | some value =>
      have set : (vars.fill env) name = .text value := by simp [fill, own, given]
      rw [read?, set]
    | none =>
      have same : (vars.fill env) name = vars name := by simp [fill, own, given]
      rw [← own, read?, same, ← read?]

namespace EnvFile

/-! ### Values -/

/-- Where a value is being read. -/
inductive Place where
  | plain
  /-- Between single quotes, where every character stands for itself. -/
  | single
  /-- Between double quotes. -/
  | double
  /-- After a backslash, and whether that stood between double quotes. -/
  | escape (quoted : Bool)
  /-- In the name of a variable after `$`, last character first. -/
  | name (quoted : Bool) (rev : List Char)
  /-- In the name of a variable in braces. -/
  | braced (quoted : Bool) (rev : List Char)
  /-- After the value: blanks, up to a comment. -/
  | after
  /-- In a comment after the value. -/
  | comment
  deriving DecidableEq, Repr

/-- Between double quotes or outside. -/
def Place.of (quoted : Bool) : Place := if quoted then .double else .plain

/-- A value being read: the place, and what the value has so far, last character first. -/
structure Reading where
  place : Place
  rev : List Char

/-- Adds a text to the value. -/
def Reading.add (r : Reading) (s : String) (place : Place) : Reading :=
  ⟨place, s.toList.reverse ++ r.rev⟩

/-- The next character of a value; `look` gives the values of variables. -/
def Reading.step (look : String → String) (r : Reading) (c : Char) : Option Reading :=
  match r.place with
  | .comment => some r
  | .after =>
    if c = ' ' || c = '\t' then some r
    else if c = '#' then some { r with place := .comment }
    else none
  | .escape quoted =>
    if c = '\\' || c = '\'' || c = '"' || c = '$' || c = ' ' then some ⟨.of quoted, c :: r.rev⟩
    else if c = 'n' then some ⟨.of quoted, '\n' :: r.rev⟩
    else none
  | .single => if c = '\'' then some { r with place := .plain } else some ⟨.single, c :: r.rev⟩
  | .name quoted rev =>
    if Text.isAlphanumeric c then some { r with place := .name quoted (c :: rev) }
    else if c = '\x7b' && rev.isEmpty then some { r with place := .braced quoted [] }
    else
      let value := look (String.ofList rev.reverse)
      if c = '$' then some (r.add value (.name quoted []))
      else some (r.add (value.push c) (.of quoted))
  | .braced quoted rev =>
    if c = '\x7d' then some (r.add (look (String.ofList rev.reverse)) (.of quoted))
    else some { r with place := .braced quoted (c :: rev) }
  | .double =>
    if c = '$' then some { r with place := .name true [] }
    else if c = '"' then some { r with place := .plain }
    else if c = '\\' then some { r with place := .escape true }
    else some ⟨.double, c :: r.rev⟩
  | .plain =>
    if c = '$' then some { r with place := .name false [] }
    else if c = '\'' then some { r with place := .single }
    else if c = '"' then some { r with place := .double }
    else if c = '\\' then some { r with place := .escape false }
    else if c = ' ' || c = '\t' then some { r with place := .after }
    else some ⟨.plain, c :: r.rev⟩

/-- The value that has been read, if it is complete. -/
def Reading.value? (look : String → String) (r : Reading) : Option String :=
  match r.place with
  | .single | .double | .braced _ _ | .name true _ | .escape true => none
  | .name false rev =>
    some (String.ofList r.rev.reverse ++ look (String.ofList rev.reverse))
  | _ => some (String.ofList r.rev.reverse)

/-- Reads the value at the start of a line's rest. -/
def value? (look : String → String) (cs : List Char) : Option String :=
  (cs.foldlM (Reading.step look) ⟨.plain, []⟩).bind (Reading.value? look)

/-! ### Lines -/

/-- The characters of a name after the first. -/
def isNameChar (c : Char) : Bool := c.isAlphanum || c = '_' || c = '.'

/-- The name at the start of a line, and the rest without blanks before it. -/
def name? (cs : List Char) : Option (String × List Char) :=
  match cs with
  | c :: _ =>
    if c.isAlpha || c = '_' then
      some (String.ofList (cs.takeWhile isNameChar),
        (cs.dropWhile isNameChar).dropWhile Text.isBlank)
    else none
  | [] => none

/-- What follows an equals sign, without blanks before it. -/
def afterEquals? : List Char → Option (List Char)
  | '=' :: rest => some (rest.dropWhile Text.isBlank)
  | _ => none

/-- The line says nothing. -/
def isSilent (cs : List Char) : Bool :=
  match cs with
  | [] => true
  | c :: _ => c = '#'

/-- The variable that a line sets and its value; a word `export` may stand before it. -/
def assignment? (look : String → String) (cs : List Char) : Option (String × String) := do
  let (name, rest) ← name? cs
  let (name, rest) ←
    match afterEquals? rest with
    | some rest => some (name, rest)
    | none =>
      if name = "export" then do
        let (name, rest) ← name? rest
        let rest ← afterEquals? rest
        pure (name, rest)
      else none
  if isSilent rest then pure (name, "") else
    let value ← value? look rest
    pure (name, value)

/-! ### Loading -/

/-- What loading a file comes to. -/
structure Loaded where
  /-- The variables that were set. -/
  added : Environment
  /-- A value that no variable can hold has broken the program off. -/
  broke : Bool
  deriving DecidableEq, Repr

/-- Loads lines where variables can be read so far, after those that earlier lines have added. -/
def loadLines (read? : String → Option String) (added : Environment) : List (List Char) → Loaded
  | [] => ⟨added, false⟩
  | line :: rest =>
    let cs := Text.strip Text.isBlank line
    if isSilent cs then loadLines read? added rest
    else
      let now? := fun name => (read? name).or (added.get? name)
      match assignment? (fun name => (now? name).getD "") cs with
      | none => ⟨added, false⟩
      | some (name, value) =>
        if (now? name).isSome then loadLines read? added rest
        else if value.toList.contains '\x00' then ⟨added, true⟩
        else loadLines read? (added ++ [(name, value)]) rest

/-- Loads a file where variables can be read. -/
def load (read? : String → Option String) (file : String) : Loaded :=
  loadLines read? [] (Text.splitOn (· = '\n') file.toList)

/-- The loader of a file. -/
def loader (file : String) : Loader := fun vars =>
  let loaded := load vars.read? file
  if loaded.broke then none else some (vars.fill loaded.added)

end EnvFile

end FollowClient
