import FollowClient.Net.Host

/-!
Addresses of requests. An address has a scheme and what follows its colon: a host with a path, or a
text of its own kind. Reading an address brings it into its one written form; a text without a scheme
or with a malformed host is none. For names of hosts in other letters see `FollowClient.Net.Host`.
-/

namespace FollowClient.Net

open Text

/-- The base of the URLs of a server: trimmed, and without slashes at its end. -/
def baseOf (url : String) : String :=
  String.ofList (dropEndWhile (· = '/') (strip isBlank url.toList))

theorem baseOf_toList (url : String) :
    (baseOf url).toList = dropEndWhile (· = '/') (strip isBlank url.toList) :=
  String.toList_ofList

theorem baseOf_trim (url : String) : baseOf (trim url) = baseOf url := by
  rw [baseOf, trim_toList, strip_strip, baseOf]

/-- Whose address it is: credentials, a host, and a port if it is not the usual one. -/
structure Authority where
  /-- The name and, after a colon, the word that lead in; empty if there are none. -/
  credentials : List Char
  /-- Some schemes have addresses with an empty host. -/
  host : Option Host
  port : Option Nat
  deriving DecidableEq, Repr

/-- An address. -/
structure Address where
  scheme : List Char
  authority : Option Authority
  path : List Char
  query : Option (List Char)
  fragment : Option (List Char)
  deriving DecidableEq, Repr

namespace Address

/-! ### Schemes -/

/-- The characters of a scheme after its first letter. -/
def isSchemeChar (c : Char) : Bool := c.isAlphanum || c = '+' || c = '-' || c = '.'

/-- The scheme and what follows its colon. -/
def scheme? (cs : List Char) : Option (List Char × List Char) :=
  match cs.takeWhile isSchemeChar, cs.dropWhile isSchemeChar with
  | c :: scheme, ':' :: rest =>
    if c.isAlpha then some ((c :: scheme).map Char.toLower, rest) else none
  | _, _ => none

/-- The schemes whose addresses always name a host, with their usual ports. -/
def usualPorts : List (List Char × Nat) :=
  [("http".toList, 80), ("https".toList, 443), ("ws".toList, 80), ("wss".toList, 443),
    ("ftp".toList, 21)]

/-- The scheme of files. -/
def fileScheme : List Char := "file".toList

/-- The schemes of the web, whose addresses have one way to be written. -/
def isSpecial (scheme : List Char) : Bool :=
  scheme = fileScheme || (usualPorts.lookup scheme).isSome

/-- The schemes that a request can be made with. -/
def isWeb (scheme : List Char) : Bool := scheme = "http".toList || scheme = "https".toList

/-! ### Characters that stand for themselves -/

/-- In a fragment. -/
def isFragmentChar (c : Char) : Bool := Host.isGraphic c && !" \"<>`".toList.contains c

/-- In a path. -/
def isPathChar (c : Char) : Bool := isFragmentChar c && !"#?\x7b\x7d".toList.contains c

/-- In a name or a word that leads in. -/
def isCredentialChar (c : Char) : Bool := isPathChar c && !"/:;=@[\\]^|".toList.contains c

/-- In a query. -/
def isQueryChar (special : Bool) (c : Char) : Bool :=
  Host.isGraphic c && !" \"#<>".toList.contains c && !(special && c = '\'')

/-! ### Paths -/

/-- The characters between the segments of a path. -/
def isSlash (special : Bool) (c : Char) : Bool := c = '/' || (special && c = '\\')

/-- The segment stands for the one that it is in. -/
def isHere (segment : List Char) : Bool :=
  [".", "%2e"].any fun s => s.toList = segment.map Char.toLower

/-- The segment stands for the one above. -/
def isAbove (segment : List Char) : Bool :=
  ["..", ".%2e", "%2e.", "%2e%2e"].any fun s => s.toList = segment.map Char.toLower

/-- A letter and a colon or a bar, which name a drive. -/
def isDrive (segment : List Char) : Bool :=
  match segment with
  | [c, d] => c.isAlpha && (d = ':' || d = '|')
  | _ => false

/-- The segments without the last one, which comes first; a drive of files stays. -/
def goUp (files : Bool) (above : List (List Char)) : List (List Char) :=
  match above with
  | [] => []
  | [d] => if files && isDrive d then [d] else []
  | _ :: rest => rest

/-- A segment as it is kept below others: the first one of files may be a drive. -/
def kept (files : Bool) (above : List (List Char)) (segment : List Char) : List Char :=
  match above, segment with
  | [], [c, _] => if files && isDrive segment then [c, ':'] else segment
  | _, _ => segment

/-- The segments of a path, last one first, after those that stand for others have been resolved. -/
def resolve (files : Bool) (above : List (List Char)) : List (List Char) → List (List Char)
  | [] => above
  | [last] =>
    if isAbove last then [] :: goUp files above
    else if isHere last then [] :: above
    else kept files above last :: above
  | s :: rest =>
    if isAbove s then resolve files (goUp files above) rest
    else if isHere s then resolve files above rest
    else resolve files (kept files above s :: above) rest

/-- The written form of segments. -/
def joinSegments (segments : List (List Char)) : List Char := segments.flatMap ('/' :: ·)

/-- The path of a text, whose first slash does not count. -/
def pathOf (scheme : List Char) (cs : List Char) : List Char :=
  let special := isSpecial scheme
  let files := scheme = fileScheme
  let cs := match cs with
    | c :: rest => if isSlash special c then rest else c :: rest
    | [] => []
  let segments := (splitOn (isSlash special) cs).map (Percent.escape isPathChar)
  let path := joinSegments (resolve files [] segments).reverse
  if files then '/' :: path.dropWhile (· = '/') else path

/-! ### Authorities -/

/-- The parts of a text before and after its last `@`. -/
def splitCredentials (cs : List Char) : Option (List Char) × List Char :=
  if cs.contains '@' then
    (some ((cs.reverse.dropWhile (· ≠ '@')).tail.reverse), (cs.reverse.takeWhile (· ≠ '@')).reverse)
  else (none, cs)

/-- The written form of credentials; an empty word after the colon is left out. -/
def credentialsOf (cs : List Char) : List Char :=
  let name := Percent.escape isCredentialChar (cs.takeWhile (· ≠ ':'))
  match cs.dropWhile (· ≠ ':') with
  | _ :: c :: rest => name ++ ':' :: Percent.escape isCredentialChar (c :: rest)
  | _ => name

/-- The text of a host, and what follows it: a colon outside brackets ends it. -/
def splitHost (inside : Bool) : List Char → List Char × List Char
  | [] => ([], [])
  | c :: rest =>
    if c = ':' && !inside then ([], c :: rest)
    else
      let (host, behind) := splitHost (c = '[' || (inside && c ≠ ']')) rest
      (c :: host, behind)

/-- The port in what follows a host, if it is well formed: digits for a number of sixteen bits; the
usual port of the scheme is left out. -/
def port? (scheme : List Char) : List Char → Option (Option Nat)
  | [] => some none
  | ':' :: ds =>
    if ds.isEmpty then some none
    else if ds.all Char.isDigit then
      match Decimal.digits? 0 ds with
      | some n =>
        if 65535 < n then none
        else some (if usualPorts.lookup scheme = some n then none else some n)
      | none => none
    else none
  | _ => none

/-- The authority of a text, if it is well formed. Only an address of a scheme outside the web may
have an empty host, and it then has neither credentials nor a port. -/
def authority? (scheme cs : List Char) : Option Authority :=
  let special := isSpecial scheme
  let (credentials, cs) := splitCredentials cs
  let (host, behind) := splitHost false cs
  if host.isEmpty then
    if special || credentials.isSome || !behind.isEmpty then none else some ⟨[], none, none⟩
  else do
    let host ← if special then Host.read? host else Host.readElsewhere? host
    let port ← port? scheme behind
    pure ⟨(credentials.map credentialsOf).getD [], some host, port⟩

/-! ### Reading -/

/-- The address of a file, after the colon: two slashes come before a host, which `localhost` is not,
nor a drive. -/
def fileAddress? (cs : List Char) : Option (Option Host × List Char) :=
  match cs with
  | a :: b :: rest =>
    if isSlash true a && isSlash true b then
      let host := rest.takeWhile (!isSlash true ·)
      let path := rest.dropWhile (!isSlash true ·)
      if isDrive host then some (none, rest)
      else if host.isEmpty then some (none, path)
      else
        (Host.read? host).map fun h =>
          (if h = .name "localhost".toList then none else some h, path)
    else some (none, cs)
  | _ => some (none, cs)

/-- What follows the colon of a scheme, before a query and a fragment: an authority and a path. -/
def hierarchy? (scheme cs : List Char) : Option (Option Authority × List Char) :=
  if scheme = fileScheme then
    (fileAddress? cs).map fun (host, path) => (some ⟨[], host, none⟩, pathOf scheme path)
  else if isSpecial scheme then
    let rest := cs.dropWhile (isSlash true)
    (authority? scheme (rest.takeWhile (!isSlash true ·))).map fun a =>
      (some a, pathOf scheme (rest.dropWhile (!isSlash true ·)))
  else
    match cs with
    | '/' :: '/' :: rest =>
      (authority? scheme (rest.takeWhile (· ≠ '/'))).map fun a =>
        match rest.dropWhile (· ≠ '/') with
        | [] => (some a, [])
        | path => (some a, pathOf scheme path)
    | '/' :: _ =>
      match pathOf scheme cs with
      | '/' :: '/' :: path => some (none, "/.//".toList ++ path)
      | path => some (none, path)
    | _ => some (none, Percent.escape Host.isGraphic cs)

/-- What follows the first character `c`, if there is one. -/
def after? (c : Char) (cs : List Char) : Option (List Char) :=
  match cs.dropWhile (· ≠ c) with
  | [] => none
  | _ :: rest => some rest

/-- Reads an address. Blanks and control characters around it do not count, nor do tabs and line
ends in it. -/
def read? (url : String) : Option Address := do
  let cs := (strip (·.toNat ≤ 0x20) url.toList).filter fun c => c ≠ '\t' && c ≠ '\n' && c ≠ '\r'
  let (scheme, rest) ← scheme? cs
  let front := rest.takeWhile (· ≠ '#')
  let (authority, path) ← hierarchy? scheme (front.takeWhile (· ≠ '?'))
  pure {
    scheme, authority, path
    query := (after? '?' front).map (Percent.escape (isQueryChar (isSpecial scheme)))
    fragment := (after? '#' rest).map (Percent.escape isFragmentChar) }

/-! ### Writing -/

/-- The written form of an authority. -/
def authorityText (a : Authority) : List Char :=
  "//".toList ++ (if a.credentials.isEmpty then [] else a.credentials ++ ['@']) ++
    ((a.host.map Host.text).getD []) ++ ((a.port.map fun n => ':' :: Decimal.write n).getD [])

/-- The written form of an address without its fragment. -/
def wire (a : Address) : String :=
  String.ofList (a.scheme ++ ':' :: (a.authority.map authorityText).getD [] ++ a.path ++
    ((a.query.map ('?' :: ·)).getD []))

/-- The written form of an address. -/
def text (a : Address) : String :=
  a.wire ++ String.ofList ((a.fragment.map ('#' :: ·)).getD [])

/-! ### Requests -/

/-- The host of an address. -/
def host? (a : Address) : Option Host := a.authority.bind (·.host)

/-- Credentials can be told apart from the address: a name, or a word without a name, that is a
text. -/
def tellsCredentials (cs : List Char) : Bool :=
  let name := cs.takeWhile (· ≠ ':')
  let word := (cs.dropWhile (· ≠ ':')).tail
  (Percent.text? name).isSome &&
    (!name.isEmpty || (!word.isEmpty && (Percent.text? word).isSome))

/-- The address without its credentials, which a request tells in another way. -/
def withoutCredentials (a : Address) : Address :=
  match a.authority with
  | some authority =>
    if tellsCredentials authority.credentials then
      { a with authority := some { authority with credentials := [] } }
    else a
  | none => a

/-- The longest address of a request, in bytes. -/
def maxLength : Nat := 65534

/-- A request can be made with the address: it is one of the web, not too long, and its host holds
none of the signs that a request cannot carry. -/
def isSendable (a : Address) : Bool :=
  isWeb a.scheme && a.text.utf8ByteSize ≤ maxLength &&
    ((a.host?.map Host.text).getD []).all (!"\"`\x7b\x7d".toList.contains ·)

/-- The host that a URL names, if it is a web address. -/
def hostOf? (url : String) : Option Host :=
  (read? url).bind fun a => if isWeb a.scheme then a.host? else none

end Address

end FollowClient.Net
