import PoolFeed.Url.Path

/-!
# URLs

A URL in its parts, read by the rules that browsers follow, and written back. Blanks and control
characters around a URL and line breaks inside it do not count. Schemes such as `http` are special:
they always have a host, a backslash is a slash to them, and they have a port that is understood.
-/

namespace PoolFeed

namespace Url

/-- Where a URL leads to, and as whom. User name and password are encoded, and empty if absent. -/
structure Authority where
  username : List Char
  password : List Char
  host : Host
  port : Option Nat
  deriving DecidableEq, Repr

end Url

/-- A URL in its parts. -/
structure Url where
  scheme : List Char
  authority : Option Url.Authority
  path : Url.Path
  query : Option (List Char)
  fragment : Option (List Char)
  deriving DecidableEq, Repr

namespace Url

/-! ## Writing -/

/-- User name and password as they stand before a host. -/
def Authority.userinfo (a : Authority) : List Char :=
  if a.username.isEmpty && a.password.isEmpty then []
  else a.username ++ (if a.password.isEmpty then [] else ':' :: a.password) ++ ['@']

/-- The text of an authority, with the slashes that announce it. -/
def Authority.chars (a : Authority) : List Char :=
  ['/', '/'] ++ a.userinfo ++ a.host.chars
    ++ (match a.port with
        | some port => ':' :: Nat.toDigits 10 port
        | none => [])

/-- A part behind its mark, if there is such a part. -/
def markedPart (mark : Char) : Option (List Char) → List Char
  | some part => mark :: part
  | none => []

/-- A dot before a path that would be taken for an authority. -/
def pathGuard (u : Url) : List Char :=
  if u.authority.isNone && ['/', '/'].isPrefixOf u.path.chars then ['/', '.'] else []

/-- The text of a URL. -/
def chars (u : Url) : List Char :=
  u.scheme ++ ':' :: (u.authority.map Authority.chars).getD [] ++ u.pathGuard ++ u.path.chars
    ++ markedPart '?' u.query ++ markedPart '#' u.fragment

def text (u : Url) : String := String.ofList u.chars

/-! ## Reading -/

/-- The special schemes that have hosts, with the ports that are understood. -/
def specialPorts : List (List Char × Nat) :=
  [("http".toList, 80), ("https".toList, 443), ("ws".toList, 80), ("wss".toList, 443),
   ("ftp".toList, 21)]

/-- The scheme of files, which is special without having a port. -/
def fileScheme : List Char := "file".toList

def isSpecial (scheme : List Char) : Bool :=
  scheme = fileScheme || specialPorts.any (·.1 = scheme)

/-- Whether a character around a URL does not count. -/
def isPadding (c : Char) : Bool := c.toNat ≤ 0x20

/-- A text without what does not count around a URL. -/
def withoutPadding (cs : List Char) : List Char :=
  ((cs.dropWhile isPadding).reverse.dropWhile isPadding).reverse

/-- Whether a character can stand in a scheme. -/
def inScheme (c : Char) : Bool := c.isAlphanum || c = '+' || c = '-' || c = '.'

/-- The scheme in front of the first colon, in lower case, and what follows the colon. -/
def splitScheme? (cs : List Char) : Option (List Char × List Char) :=
  match cs with
  | [] => none
  | c :: _ =>
    if !c.isAlpha then none
    else
      match cs.dropWhile inScheme with
      | ':' :: rest => some ((cs.takeWhile inScheme).map Char.toLower, rest)
      | _ => none

/-- Whether a character is a slash to URLs that are special or not. -/
def isSlash (special : Bool) (c : Char) : Bool := c = '/' || (special && c = '\\')

def endsAuthority (special : Bool) (c : Char) : Bool := isSlash special c || c = '?' || c = '#'

/-- What stands before and behind the last `@`, if there is one. -/
def splitUserinfo (cs : List Char) : Option (List Char × List Char) :=
  if '@' ∈ cs then
    let host := (cs.reverse.takeWhile (· ≠ '@')).reverse
    some (cs.take (cs.length - host.length - 1), host)
  else none

/-- The characters of a host, up to a colon outside brackets, and the rest. -/
def splitHost (inBrackets : Bool) : List Char → List Char × List Char
  | [] => ([], [])
  | c :: rest =>
    if c = ':' && !inBrackets then ([], c :: rest)
    else
      let inBrackets' := if c = '[' then true else if c = ']' then false else inBrackets
      let (host, rest') := splitHost inBrackets' rest
      (c :: host, rest')

/-- The port behind a host, the default one left out, and what follows the digits. -/
def splitPort? (default : Option Nat) : List Char → Option (Option Nat × List Char)
  | ':' :: rest => do
    let digits := rest.takeWhile Char.isDigit
    let port ← readDigits 10 digits
    if 65535 < port then none
    match rest.dropWhile Char.isDigit with
    | c :: _ => if c ≠ '\\' then none
    | [] => pure ()
    return (if digits.isEmpty || some port = default then none else some port,
      rest.dropWhile Char.isDigit)
  | rest => some (none, rest)

/-- The authority of some text, and what follows its port. -/
def authority? (scheme cs : List Char) : Option (Authority × List Char) := do
  let (userinfo, hostAndPort) := (splitUserinfo cs).getD ([], cs)
  let username := userinfo.takeWhile (· ≠ ':')
  let password := (userinfo.dropWhile (· ≠ ':')).drop 1
  let (hostText, portText) := splitHost false hostAndPort
  let special := isSpecial scheme
  let host ← if special then Host.ofDomain? hostText else Host.ofText? hostText
  let named := !username.isEmpty || !password.isEmpty
  -- Neither a user nor a port goes without a host.
  if host.isEmpty && (named || !portText.isEmpty) then none
  let (port, rest) ← splitPort? (specialPorts.lookup scheme) portText
  return (⟨encode inUserinfoSet username, encode inUserinfoSet password, host, port⟩, rest)

/-- A URL whose query and fragment are still together behind its path. -/
def withTail (scheme : List Char) (authority : Option Authority) (path : Path) (tail : List Char) :
    Url :=
  let querySet := if isSpecial scheme then inSpecialQuerySet else inQuerySet
  let fragment := tail.dropWhile (· ≠ '#')
  let query := tail.takeWhile (· ≠ '#')
  { scheme, authority, path
    query := if query.isEmpty then none else some (encode querySet (query.drop 1))
    fragment := if fragment.isEmpty then none else some (encode inFragmentSet (fragment.drop 1)) }

/-- Whether a character begins a query or a fragment. -/
def beginsTail (c : Char) : Bool := c = '?' || c = '#'

/-- The path of a URL with an authority. -/
def rootedPath (special : Bool) (cs : List Char) : Path :=
  match cs with
  | [] => if special then .rooted [[]] else .rooted []
  | c :: rest =>
    .rooted (segmentsOf (isSlash special) (if isSlash special c then rest else c :: rest))

/-- A URL with an authority, from behind the slashes that announce it. -/
def readWithAuthority? (scheme cs : List Char) : Option Url := do
  let special := isSpecial scheme
  let front := cs.takeWhile (!endsAuthority special ·)
  let rest := cs.dropWhile (!endsAuthority special ·)
  if front.getLast? = some '@' && !rest.isEmpty && front.length = 1 then none
  let (authority, behindPort) ← authority? scheme front
  let pathAndTail := behindPort ++ rest
  return withTail scheme (some authority)
    (rootedPath special (pathAndTail.takeWhile (!beginsTail ·)))
    (pathAndTail.dropWhile (!beginsTail ·))

def readWithoutAuthority (scheme cs : List Char) : Url :=
  let tail := cs.dropWhile (!beginsTail ·)
  match cs.takeWhile (!beginsTail ·) with
  | '/' :: rest => withTail scheme none (.rooted (segmentsOf (· = '/') rest)) tail
  | text => withTail scheme none (.rootless (encode isControl text)) tail

/-- The host of a file; this machine has no name. -/
def fileHost? (cs : List Char) : Option Host :=
  (Host.ofDomain? cs).map (fun h => if h = .name "localhost".toList then .name [] else h)

def fileOn (host : Host) (cs : List Char) : Url :=
  let trail := Trail.ofText true (isSlash true) (cs.takeWhile (!beginsTail ·))
  let host' := if trail.onDrive then .name [] else host
  withTail fileScheme (some ⟨[], [], host', none⟩) (.rooted (fileSegments trail))
    (withoutIgnored (cs.dropWhile (!beginsTail ·)))

/-- What is behind a slash, if one stands in front. -/
def behindSlash? (cs : List Char) : Option (List Char) :=
  match cs.dropWhile isIgnored with
  | c :: rest => if isSlash true c then some rest else none
  | [] => none

/-- The URL of a file, from behind the slashes that announce its host. -/
def readFileWithHost? (cs : List Char) : Option Url := do
  let name := withoutIgnored (cs.takeWhile (!endsAuthority true ·))
  let rest := cs.dropWhile (!endsAuthority true ·)
  -- The letter of a drive is part of the path, even where a host is expected.
  if isDrive name then return fileOn (.name []) cs
  else if name.isEmpty then return fileOn (.name []) rest
  else return fileOn (← fileHost? name) ((behindSlash? rest).getD rest)

/-- The URL of a file, from behind the colon of its scheme. -/
def readFile? (cs : List Char) : Option Url :=
  match behindSlash? cs with
  | none => some (fileOn (.name []) cs)
  | some rest =>
    match behindSlash? rest with
    | none => some (fileOn (.name []) rest)
    | some rest' => readFileWithHost? rest'

/-- The URL of a text. -/
def parse? (s : String) : Option Url := do
  let text := withoutPadding s.toList
  let (scheme, rest) ← splitScheme? (withoutIgnored text)
  if scheme = fileScheme then readFile? ((text.dropWhile (· ≠ ':')).drop 1)
  else if isSpecial scheme then readWithAuthority? scheme (rest.dropWhile (isSlash true))
  else if ['/', '/'].isPrefixOf rest then readWithAuthority? scheme (rest.drop 2)
  else return readWithoutAuthority scheme rest

/-! ## Masking -/

/-- What stands in place of a password. -/
def mask : List Char := ['*', '*', '*']

/-- A URL without its password. -/
def masked (u : Url) : Url :=
  { u with
    authority := u.authority.map (fun a =>
      if a.password.isEmpty then a else { a with password := mask }) }

/-- A text without the password in it, if it is a URL. -/
def maskPassword (s : String) : String :=
  match parse? s with
  | some u => u.masked.text
  | none => s

end Url

end PoolFeed
