-- SUMMARY: URLs: reading them and writing them down.
import Switchboard.Url.Host

/-!
# URLs

A URL has a scheme; then an authority of user information, host and port, unless
there is none; then a path, a query and a fragment. The schemes of the web are
special: they always have a host and a path, a backslash counts as a slash, and
their default port is left out. So is `file`, whose URLs name a host or none, and no
port; a drive letter at the start of their path takes the place of the host.
`Url.parse` follows the URL standard; `Url.text` is the one written form of a URL.
-/

namespace Switchboard

structure Url where
  scheme : String
  /-- Name and password as written, with the `@` after them. -/
  userInfo : List Char := []
  /-- A host may be missing where there is an authority. -/
  host : Option Host := none
  hasAuthority : Bool := false
  port : Option Nat := none
  path : List Char := []
  query : Option (List Char) := none
  fragment : Option (List Char) := none
deriving DecidableEq, Repr

namespace Url

/-- The default port of a special scheme. -/
def specialPort? : String → Option Nat
  | "http" | "ws" => some 80
  | "https" | "wss" => some 443
  | "ftp" => some 21
  | _ => none

def isSpecial (scheme : String) : Bool := (specialPort? scheme).isSome || scheme == "file"

/-! ## Parts -/

/-- Scheme and what follows its colon. -/
def scheme? : List Char → Option (String × List Char)
  | c :: cs =>
    if !c.isAlpha then none
    else
      let name := (c :: cs).takeWhile fun c => c.isAlphanum || "+-.".toList.contains c
      match (c :: cs).drop name.length with
      | ':' :: rest => some (String.ofList (name.map Char.toLower), rest)
      | _ => none
  | [] => none

/-- The characters that end an authority. -/
def endsAuthority (special : Bool) (c : Char) : Bool :=
  c == '/' || c == '?' || c == '#' || (special && c == '\\')

/-- User information as it is written down. -/
def writtenUserInfo (cs : List Char) : List Char :=
  let name := cs.takeWhile (· ≠ ':')
  let password := (cs.drop name.length).drop 1
  let encode := Percent.encode Percent.inUserInfo
  if name.isEmpty && password.isEmpty then []
  else encode name ++ (if password.isEmpty then [] else ':' :: encode password) ++ ['@']

/-- Takes user information off the head, which ends at the last `@` of the
authority. -/
def takeUserInfo (special : Bool) (cs : List Char) : Except UrlFault (List Char × List Char) :=
  let authority := cs.takeWhile fun c => !endsAuthority special c
  if authority.contains '@' then
    let host := (authority.reverse.takeWhile (· ≠ '@')).reverse
    let info := authority.take (authority.length - host.length - 1)
    let rest := cs.drop (info.length + 1)
    if info.isEmpty && (rest.head?.map (endsAuthority special)).getD false then .error .emptyHost
    else .ok (writtenUserInfo info, rest)
  else .ok ([], cs)

/-- The characters up to the end of the host; a colon in brackets belongs to it. -/
def hostLength (special : Bool) : (inBrackets : Bool) → List Char → Nat
  | _, [] => 0
  | inBrackets, c :: cs =>
    if endsAuthority special c || (c == ':' && !inBrackets) then 0
    else hostLength special (if c = '[' then true else if c = ']' then false else inBrackets) cs + 1

def takeHost (special : Bool) (cs : List Char) : Except UrlFault (Option Host × List Char) := do
  let n := hostLength special false cs
  let (name, rest) := (cs.take n, cs.drop n)
  if name.isEmpty then
    if special || rest.head? = some ':' then throw .emptyHost
    return (none, rest)
  let host ← if special then Host.special name else Host.verbatim name
  return (some host, rest)

/-- Digits of a port up to the end of the authority. -/
def takePort (defaultPort : Option Nat) : List Char → Except UrlFault (Option Nat × List Char)
  | ':' :: cs =>
    let digits := cs.takeWhile Char.isDigit
    let rest := cs.drop digits.length
    let n := digits.foldl (fun n c => n * 10 + (c.toNat - 0x30)) 0
    if 65535 < n then .error .badPort
    else match rest with
      | c :: _ =>
        if endsAuthority true c then .ok (if digits.isEmpty || some n = defaultPort then none else some n, rest)
        else .error .badPort
      | [] => .ok (if digits.isEmpty || some n = defaultPort then none else some n, rest)
  | cs => .ok (none, cs)

/-! ## Paths -/

def isSingleDot (segment : List Char) : Bool :=
  String.ofList (segment.map Char.toLower) ∈ [".", "%2e"]

def isDoubleDot (segment : List Char) : Bool :=
  String.ofList (segment.map Char.toLower) ∈ ["..", ".%2e", "%2e.", "%2e%2e"]

/-- The path up to and including its last slash. -/
def upToSlash (path : List Char) : List Char := (path.reverse.dropWhile (· ≠ '/')).reverse

/-- A segment that is a drive letter, or one with a backslash behind it. -/
def isDrive : List Char → Bool
  | c :: m :: rest => c.isAlpha && (m == ':' || m == '|') && (rest == [] || rest.head? == some '\\')
  | _ => false

/-- The path without its last segment. A drive letter stays. -/
def parent (path : List Char) : List Char :=
  let shorter := path.dropLast
  let segment := (shorter.reverse.takeWhile (· ≠ '/')).reverse
  upToSlash <|
    if path.getLast? = some '/' && shorter.contains '/' && !isDrive segment then shorter else path

def withSlash (path : List Char) : List Char :=
  if path.getLast? = some '/' then path else path ++ ['/']

/-- The path extended by a segment, which a slash may follow. -/
def extend (path segment : List Char) (slash : Bool) : List Char :=
  if isDoubleDot segment then (if slash then withSlash (parent path) else parent path)
  else if isSingleDot segment then withSlash path
  else path ++ segment ++ (if slash then ['/'] else [])

/-- Extends the path by the segments that follow; `segment` has been read. -/
def takePath (special : Bool) (path segment : List Char) : List Char → List Char × List Char
  | [] => (extend path segment false, [])
  | c :: cs =>
    if c = '/' || (special && c = '\\') then takePath special (extend path segment true) [] cs
    else if c = '?' || c = '#' then (extend path segment false, c :: cs)
    else takePath special path (segment ++ Percent.encodeChar Percent.inPath c) cs

/-- The path behind an authority. -/
def pathAfterAuthority (special : Bool) (cs : List Char) : List Char × List Char :=
  match cs with
  | c :: rest =>
    if special then
      takePath true ['/'] [] (if c = '/' || c = '\\' then rest else cs)
    else if c = '?' || c = '#' then ([], cs)
    else if c = '/' then takePath false ['/'] [] rest
    else takePath false ['/'] [] cs
  | [] => (if special then ['/'] else [], [])

/-- A path that is not made of segments. -/
def takeVerbatimPath (cs : List Char) : List Char × List Char :=
  let path := cs.takeWhile fun c => c ≠ '?' ∧ c ≠ '#'
  (Percent.encode Percent.controls path, cs.drop path.length)

/-- The path of a `file` URL, and whether it starts with a drive letter. Such a letter
has a colon behind it; slashes at the start count as one. -/
def takeFilePath (cs : List Char) : List Char × Bool × List Char :=
  let (path, rest) := takePath true ['/'] [] cs
  let segment := (path.drop 1).takeWhile (· ≠ '/')
  if isDrive segment then ('/' :: (segment.take 1 ++ ':' :: path.drop 3), true, rest)
  else ('/' :: path.dropWhile (· = '/'), false, rest)

/-- Adds query and fragment. -/
def withQuery (u : Url) (cs : List Char) : Url :=
  let set := if isSpecial u.scheme then Percent.inSpecialQuery else Percent.inQuery
  let (query, rest) := match cs with
    | '?' :: cs =>
      let q := cs.takeWhile (· ≠ '#')
      (some (Percent.encode set q), cs.drop q.length)
    | cs => (none, cs)
  let fragment := match rest with
    | '#' :: cs => some (Percent.encode Percent.inFragment cs)
    | _ => none
  { u with query, fragment }

/-! ## Reading and writing -/

/-- What follows the two slashes of an authority. -/
def afterSlashes (scheme : String) (cs : List Char) : Except UrlFault Url := do
  let special := isSpecial scheme
  let (userInfo, cs) ← takeUserInfo special cs
  let (host, cs) ← takeHost special cs
  let (port, cs) ← takePort (specialPort? scheme) cs
  if host.isNone && !userInfo.isEmpty then throw .emptyHost
  let (path, cs) := pathAfterAuthority special cs
  return withQuery { scheme, userInfo, host, hasAuthority := true, port, path } cs

/-- The host of a `file` URL, and its path with what follows it. -/
def takeFileHost (cs : List Char) : Except UrlFault (Option Host × List Char) :=
  let name := cs.takeWhile fun c => !endsAuthority true c
  if name.isEmpty || (name.length = 2 && isDrive name) then .ok (none, cs)
  else do
    let host ← Host.special name
    let localhost := Host.domain "localhost".toList
    return (if host = localhost then none else some host, cs.drop name.length)

/-- What follows the scheme of a `file` URL. -/
def afterFile (cs : List Char) : Except UrlFault Url := do
  let isSlash (c : Char) : Bool := c == '/' || c == '\\'
  let (host, cs) ← match cs with
    | a :: b :: rest => if isSlash a && isSlash b then takeFileHost rest else pure (none, cs)
    | _ => pure (none, cs)
  let (path, startsWithDrive, cs) := takeFilePath (match cs with
    | c :: rest => if isSlash c then rest else cs
    | [] => [])
  return withQuery
    { scheme := "file", host := if startsWithDrive then none else host, hasAuthority := true, path } cs

def isControlOrSpace (c : Char) : Bool := c.toNat ≤ 0x20

/-- The text without blanks at its ends, and without tabs and line ends. -/
def cleaned (cs : List Char) : List Char :=
  ((cs.dropWhile isControlOrSpace).reverse.dropWhile isControlOrSpace).reverse.filter
    fun c => c ≠ '\t' ∧ c ≠ '\n' ∧ c ≠ '\x0d'

def parse (text : String) : Except UrlFault Url :=
  match scheme? (cleaned text.toList) with
  | none => .error .relative
  | some (scheme, cs) =>
    if scheme = "file" then afterFile cs
    else if isSpecial scheme then
      afterSlashes scheme (cs.dropWhile fun c => c = '/' || c = '\\')
    else match cs with
      | '/' :: '/' :: cs => afterSlashes scheme cs
      | '/' :: cs =>
        let (path, cs) := takePath false ['/'] [] cs
        .ok (withQuery { scheme, path } cs)
      | cs =>
        let (path, cs) := takeVerbatimPath cs
        .ok (withQuery { scheme, path } cs)

def hostText? (u : Url) : Option String := u.host.map fun h => String.ofList h.text

/-- The path, marked where two slashes at its start could be taken for an authority. -/
def pathText (u : Url) : List Char :=
  match u.hasAuthority, u.path with
  | false, '/' :: '/' :: _ => '/' :: '.' :: u.path
  | _, path => path

/-- Path and query, as a request names them. -/
def target (u : Url) : String :=
  let path := if u.path.isEmpty then ['/'] else u.path
  String.ofList (path ++ match u.query with | some q => '?' :: q | none => [])

def text (u : Url) : String :=
  let authority :=
    if u.hasAuthority then
      ['/', '/'] ++ u.userInfo ++ ((u.host.map Host.text).getD [])
        ++ (match u.port with | some p => ':' :: Text.natDigits p | none => [])
    else []
  String.ofList <| u.scheme.toList ++ [':'] ++ authority ++ u.pathText
    ++ (match u.query with | some q => '?' :: q | none => [])
    ++ (match u.fragment with | some f => '#' :: f | none => [])

end Url

end Switchboard
