import SessionLayer.Uri.Ipv6
import SessionLayer.Uri.Path

/-!
# URIs with an authority

`Uri.parse?` reads what follows the scheme and the two slashes, in the way in which web browsers read a
URL whose scheme they do not know: credentials before the last at sign, a host that is not looked into
unless it is an address in brackets, a port, a path, a query and a fragment. Every part is kept in
encoded form, so that `Uri.render` only puts the parts together again.
-/

set_option autoImplicit false

namespace SessionLayer

/-- The parts of a URI, in encoded form. -/
structure Uri where
  scheme : List Char
  user : List Char
  /-- Never empty where it is given. -/
  password : Option (List Char)
  host : List Char
  port : Option Nat
  segments : List (List Char)
  query : Option (List Char)
  fragment : Option (List Char)
  deriving DecidableEq, Repr

namespace Uri

/-- ASCII characters that are encoded in a fragment. -/
def fragmentReserved : List Char :=
  [' ', '\x22', '<', '>', '\x60']

/-- ASCII characters that are encoded in a query. -/
def queryReserved : List Char :=
  [' ', '\x22', '#', '<', '>']

/-- ASCII characters that are encoded in a user name or a password. -/
def credentialReserved : List Char :=
  Path.reserved ++ ['/', ':', ';', '=', '@', '[', '\x5c', ']', '^', '|']

/-- ASCII characters that no host may hold. -/
def hostForbidden : List Char :=
  ['\x00', '\t', '\n', '\r', ' ', '#', '/', ':', '<', '>', '?', '@', '[', '\x5c', ']', '^', '|']

def endsAuthority (c : Char) : Bool :=
  c == '/' || c == '?' || c == '#'

/-- Whether `c` is dropped wherever it stands. -/
def isIgnored (c : Char) : Bool :=
  c == '\t' || c == '\n' || c == '\r'

/-- Whether `c` is dropped at the end of a URI. -/
def isTrailing (c : Char) : Bool :=
  c.toNat ≤ 0x20

/-- A text without the characters that do not count. -/
def clean (text : List Char) : List Char :=
  ((text.reverse.dropWhile isTrailing).reverse).filter fun c => !isIgnored c

/-- What stands before and after the last at sign. -/
def cutLastAt (text : List Char) : Option (List Char × List Char) :=
  if text.contains '@' then
    some (((text.reverse.dropWhile (· != '@')).drop 1).reverse,
      (text.reverse.takeWhile (· != '@')).reverse)
  else none

/-- The user name and the password that credentials hold, in encoded form. -/
def readCredentials (text : List Char) : List Char × Option (List Char) :=
  let (user, password) := Text.cutAt ':' text
  let encode := Text.percentEncode credentialReserved
  (encode user,
    match password with
    | none | some [] => none
    | some (c :: rest) => some (encode (c :: rest)))

/-- The host at the start of a text, and what follows it: a colon ends it unless it is in brackets. -/
def takeHost : (inBrackets : Bool) → List Char → List Char × List Char
  | _, [] => ([], [])
  | inBrackets, c :: rest =>
    if c = ':' ∧ inBrackets = false then ([], c :: rest)
    else
      let inBrackets := if c = '[' then true else if c = ']' then false else inBrackets
      (c :: (takeHost inBrackets rest).1, (takeHost inBrackets rest).2)

/-- The encoded form of a host. -/
def readHost (text : List Char) : Option (List Char) :=
  match text with
  | '[' :: rest =>
    if rest.getLast? = some ']' then
      (Ipv6.parse? rest.dropLast).map fun groups => '[' :: Ipv6.render groups ++ [']']
    else none
  | _ =>
    if text.any hostForbidden.contains then none else some (Text.percentEncode [] text)

/-- A port, which may be empty, and what follows it: only a backslash can. -/
def readPort (text : List Char) : Option (Option Nat × List Char) :=
  let digits := text.takeWhile Char.isDigit
  let rest := text.dropWhile Char.isDigit
  match rest with
  | [] | '\x5c' :: _ =>
    if digits.isEmpty then some (none, rest)
    else (Text.readUnsigned 65535 digits).toOption.map fun port => (some port, rest)
  | _ => none

/-- The host and the port of an authority, and what is left of it. -/
def readLocation (text : List Char) : Option (List Char × Option Nat × List Char) :=
  let (hostText, rest) := takeHost false text
  match readHost hostText with
  | none => none
  | some host =>
    match rest with
    | [] => some (host, none, [])
    | _ :: portText =>
      if host.isEmpty then none
      else (readPort portText).map fun (port, left) => (host, port, left)

/-- The parts from the path on. -/
def readTail (text : List Char) : List (List Char) × Option (List Char) × Option (List Char) :=
  let (beforeFragment, fragment) := Text.cutAt '#' text
  let (path, query) := Text.cutAt '?' beforeFragment
  (Path.parse path, query.map (Text.percentEncode queryReserved),
    fragment.map (Text.percentEncode fragmentReserved))

/-- Reads what follows the scheme and the two slashes. -/
def parse? (scheme : List Char) (text : List Char) : Option Uri :=
  let cleaned := clean text
  let authority := cleaned.takeWhile fun c => !endsAuthority c
  let tail := cleaned.dropWhile fun c => !endsAuthority c
  let (credentials, location) := (cutLastAt authority).getD ([], authority)
  match readLocation location with
  | none => none
  | some (host, port, left) =>
    if host.isEmpty ∧ !credentials.isEmpty then none
    else
      let (user, password) := readCredentials credentials
      let (segments, query, fragment) := readTail (left ++ tail)
      some { scheme, user, password, host, port, segments, query, fragment }

/-- The credentials as they stand before the host. -/
def renderCredentials (u : Uri) : List Char :=
  match u.password with
  | some password => u.user ++ ':' :: password ++ ['@']
  | none => if u.user.isEmpty then [] else u.user ++ ['@']

def renderPart (mark : Char) (part : Option (List Char)) : List Char :=
  match part with
  | some text => mark :: text
  | none => []

/-- The written form of a URI. -/
def render (u : Uri) : List Char :=
  u.scheme ++ [':', '/', '/'] ++ u.renderCredentials ++ u.host
    ++ renderPart ':' (u.port.map (Nat.toDigits 10))
    ++ Path.render u.segments ++ renderPart '?' u.query ++ renderPart '#' u.fragment

end Uri

end SessionLayer
