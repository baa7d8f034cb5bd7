import FollowClient.Text.Decimal

/-!
The arguments of the command line: the name of a command, then its texts and options. An argument
that starts with `-` is an option unless `--` stands before it or it is `-` alone.
-/

namespace FollowClient.CommandLine

/-- A command. -/
inductive Command where
  /-- Shows the profile of an actor. -/
  | profile (actor : String)
  /-- Shows the follow status of an actor. -/
  | status (actor : String)
  /-- Follows an actor, or no longer follows it. -/
  | follow (actor : String)
  /-- Shows the follow status of an actor and its changes. -/
  | watch (actor : String) (secs : Nat)
  /-- Shows what a relay knows. -/
  | relays (relay : Option String)
  /-- Shows the migration status. -/
  | migration
  /-- Stores the legacy aliases. -/
  | aliases (list : String)
  deriving DecidableEq, Repr

/-- What the arguments ask for. -/
inductive Asked where
  | run (command : Command)
  | version
  | help
  /-- The arguments cannot be understood. -/
  | misuse
  deriving DecidableEq, Repr

/-- How an argument is understood. -/
inductive Argument where
  | text (s : String)
  /-- Letters after a single minus. -/
  | letters (cs : List Char)
  /-- A name after two minuses, and the value attached to it. -/
  | option (name : List Char) (value : Option (List Char))
  /-- All that follows are texts. -/
  | separator
  deriving DecidableEq, Repr

/-- How an argument before the separator is understood. -/
def Argument.of (s : String) : Argument :=
  match s.toList with
  | ['-'] => .text s
  | ['-', '-'] => .separator
  | '-' :: '-' :: cs =>
    .option (cs.takeWhile (· ≠ '='))
      (match cs.dropWhile (· ≠ '=') with
        | [] => none
        | _ :: value => some value)
  | '-' :: cs => .letters cs
  | _ => .text s

/-- What a command takes. -/
structure Taken where
  /-- How many texts it takes at most. -/
  texts : Nat
  /-- It has the option that limits its time. -/
  timed : Bool
  deriving DecidableEq, Repr

/-- The arguments of a command: its texts in order, and the value of its option. -/
structure Given where
  texts : List String
  secs : Option Nat
  deriving DecidableEq, Repr

/-- Why the arguments of a command are not read to their end. -/
inductive Stop where
  | help
  | misuse
  deriving DecidableEq, Repr

/-- A number of seconds. -/
def secs? (s : String) : Option Nat := Text.Decimal.read? Text.Decimal.wordBound s

/-- Takes a text. -/
def Given.addText (g : Given) (t : Taken) (s : String) : Except Stop Given :=
  if g.texts.length < t.texts then .ok { g with texts := g.texts ++ [s] } else .error .misuse

/-- Takes texts. -/
def Given.addTexts (g : Given) (t : Taken) (ss : List String) : Except Stop Given :=
  ss.foldlM (fun g s => g.addText t s) g

/-- Takes the value of the option, which may be given once. -/
def Given.setSecs (g : Given) (v : String) : Except Stop Given :=
  match g.secs, secs? v with
  | none, some n => .ok { g with secs := some n }
  | _, _ => .error .misuse

/-- Reads the arguments of a command, one after the other: the first one that asks for help or that
cannot be understood ends the reading. The value of the option is attached to it or is the text that
follows it. -/
def read? (t : Taken) (g : Given) : List String → Except Stop Given
  | [] => .ok g
  | a :: rest =>
    match Argument.of a with
    | .separator => g.addTexts t rest
    | .text s => (g.addText t s).bind fun g => read? t g rest
    | .letters cs => .error (if cs.head? = some 'h' then .help else .misuse)
    | .option name value =>
      if name = "help".toList then .error (if value.isNone then .help else .misuse)
      else if t.timed && name = "secs".toList then
        match value, rest with
        | some v, rest => (g.setSecs (String.ofList v)).bind fun g => read? t g rest
        | none, b :: rest =>
          match Argument.of b with
          | .text v => (g.setSecs v).bind fun g => read? t g rest
          | _ => .error .misuse
        | none, [] => .error .misuse
      else .error .misuse

/-- How long a watch lasts unless it is told, in seconds. -/
def defaultSecs : Nat := 60

/-- What each command takes. -/
def commands : List (String × Taken) :=
  [("profile", ⟨1, false⟩), ("status", ⟨1, false⟩), ("follow", ⟨1, false⟩), ("watch", ⟨1, true⟩),
    ("relays", ⟨1, false⟩), ("migration", ⟨0, false⟩), ("aliases", ⟨1, false⟩)]

/-- The names of the commands. -/
def commandNames : List String := commands.map (·.1)

/-- The command with a name and what was given to it. -/
def command? (name : String) (g : Given) : Option Command :=
  match name, g.texts with
  | "profile", [actor] => some (.profile actor)
  | "status", [actor] => some (.status actor)
  | "follow", [actor] => some (.follow actor)
  | "watch", [actor] => some (.watch actor (g.secs.getD defaultSecs))
  | "relays", [] => some (.relays none)
  | "relays", [relay] => some (.relays (some relay))
  | "migration", [] => some .migration
  | "aliases", [list] => some (.aliases list)
  | _, _ => none

/-- Asks for help about the program or about one command. -/
def readHelp : List String → Asked
  | [] => .help
  | [name] => if name = "help" ∨ name ∈ commandNames then .help else .misuse
  | _ => .misuse

/-- What the arguments ask for. -/
def read : List String → Asked
  | [] => .misuse
  | first :: rest =>
    match Argument.of first with
    | .letters ('V' :: _) => .version
    | .letters ('h' :: _) => .help
    | .option name none =>
      if name = "version".toList then .version
      else if name = "help".toList then .help
      else .misuse
    | .text name =>
      if name = "help" then readHelp rest
      else
        match commands.lookup name with
        | none => .misuse
        | some t =>
          match read? t ⟨[], none⟩ rest with
          | .error .help => .help
          | .error .misuse => .misuse
          | .ok g => ((command? name g).map Asked.run).getD .misuse
    | _ => .misuse

end FollowClient.CommandLine
