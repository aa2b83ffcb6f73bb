import ArgoQuery.Binary64.Text
import ArgoQuery.Http.Host

/-!
# Addresses

An address is absolute, and brought into one form: scheme and host in lower case, no port that goes
without saying, no credentials, no dot segments, and everything encoded that has to be. Requests can
be sent to an address with a host whose scheme is `http` or `https`.
-/

namespace ArgoQuery.Http

/-- An address in its parts. -/
structure Url where
  scheme : List Char
  /-- The host, if there is room for one, with its port unless that is the scheme's own. -/
  authority : Option (List Char)
  /-- The path, with a slash in front wherever there is an authority and a path. -/
  path : List Char
  query : Option (List Char)
  fragment : Option (List Char)
deriving DecidableEq, Repr

namespace Url

/-- What comes before the first character that satisfies the test, and what starts there. -/
def splitAt (test : Char → Bool) (text : List Char) : List Char × List Char :=
  (text.takeWhile fun c => !test c, text.dropWhile fun c => !test c)

/-- What comes before the first occurrence of a mark, and what follows it if it occurs. -/
def splitAtMark (mark : Char) (text : List Char) : List Char × Option (List Char) :=
  match splitAt (· == mark) text with
  | (before, _ :: after) => (before, some after)
  | (before, []) => (before, none)

/-- Whether a character may stand in a scheme after the first. -/
def isSchemeCharacter (c : Char) : Bool := c.isAlphanum || "+-.".toList.contains c

/-- A scheme in lower case: letters, digits and a few marks after a letter. -/
def scheme? (text : List Char) : Option (List Char) :=
  if text.head?.any Char.isAlpha && text.all isSchemeCharacter then some (text.map Char.toLower)
  else none

/-- The schemes of the web with the ports that go without saying. -/
def webPorts : List (List Char × Nat) :=
  [("http".toList, 80), ("https".toList, 443), ("ws".toList, 80), ("wss".toList, 443),
    ("ftp".toList, 21)]

/-- Whether an address of the scheme is read like a web address. -/
def isWeb (scheme : List Char) : Bool := (webPorts.lookup scheme).isSome

/-- Whether a scheme is that of local files. -/
def isFile (scheme : List Char) : Bool := scheme == "file".toList

/-- Web and file addresses take a backslash for a slash. -/
def isSlash (scheme : List Char) (c : Char) : Bool :=
  c == '/' || c == '\\' && (isWeb scheme || isFile scheme)

/-- The port after a host: nothing, or a colon and digits, of which there may be none. -/
def portSuffix? (scheme : List Char) : List Char → Option (List Char)
  | [] | [':'] => some []
  | ':' :: digits =>
    let port := Binary64.valueOfDigits digits
    if digits.all Char.isDigit ∧ port < Nat.pow 2 16 then
      some (if webPorts.lookup scheme = some port then [] else ':' :: decimalDigits port)
    else none
  | _ => none

/-- A host and what follows it; the colons in brackets belong to it. -/
def splitHost (text : List Char) : List Char × List Char :=
  match text with
  | '[' :: _ =>
    let (inner, rest) := splitAt (· == ']') text
    (inner ++ rest.take 1, rest.drop 1)
  | _ => splitAt (· == ':') text

/-- The host and the port, the credentials in front of them dropped. -/
def authority? (scheme text : List Char) : Option (List Char) := do
  let (host, port) := splitHost (text.reverse.takeWhile (· != '@')).reverse
  if isFile scheme then
    if host.isEmpty then some []
    else (Host.ofText? true host).map fun host => if host = "localhost".toList then [] else host
  else
    return (← Host.ofText? (isWeb scheme) host) ++ (← portSuffix? scheme port)

/-- Whether a segment stands for its own directory, encoded or not. -/
def isDot (segment : List Char) : Bool := [".", "%2e"].contains
  (String.ofList (segment.map Char.toLower))

/-- Whether a segment stands for the directory above, encoded or not. -/
def isDoubleDot (segment : List Char) : Bool := ["..", ".%2e", "%2e.", "%2e%2e"].contains
  (String.ofList (segment.map Char.toLower))

/-- Follows the dot segments, given the segments so far, last first. A path that ends in one ends
in a slash. -/
def resolve : (before : List (List Char)) → List (List Char) → List (List Char)
  | before, [] => before.reverse
  | before, [last] =>
    if isDot last then ([] :: before).reverse
    else if isDoubleDot last then ([] :: before.tail).reverse
    else (last :: before).reverse
  | before, segment :: rest =>
    if isDot segment then resolve before rest
    else if isDoubleDot segment then resolve before.tail rest
    else resolve (segment :: before) rest

/-- The path of an address, from what stands between the authority and the query. Only outside the
web it can be empty. -/
def pathOf (scheme text : List Char) : List Char :=
  if text.isEmpty && !isWeb scheme && !isFile scheme then []
  else
    let relative := match text with
      | c :: rest => if isSlash scheme c then rest else text
      | [] => []
    let segments := resolve [] (Host.splitMarks (isSlash scheme) relative)
    '/' :: ['/'].intercalate (segments.map (percentEncode isEncodedInPath))

/-- The authority and the path of an address, from what stands between the scheme and the query. -/
def hierarchy? (scheme text : List Char) : Option (Option (List Char) × List Char) :=
  let slashes := text.takeWhile (isSlash scheme)
  let named (located : List Char) : Option (Option (List Char) × List Char) := do
    let (authority, path) := splitAt (isSlash scheme) located
    return (some (← authority? scheme authority), pathOf scheme path)
  if isWeb scheme then named (text.drop slashes.length)
  else if 2 ≤ slashes.length then named (text.drop 2)
  else if isFile scheme then some (some [], pathOf scheme text)
  else if slashes.isEmpty then some (none, percentEncode isControlOrWide text)
  else some (none, pathOf scheme text)

/-- Reads an address. White space around it and line breaks in it do not count. -/
def ofText? (text : String) : Option Url := do
  let isEdge (c : Char) : Bool := decide (c.toNat ≤ 32)
  let inner := ((text.toList.dropWhile isEdge).reverse.dropWhile isEdge).reverse
  let source := inner.filter fun c => !(c == '\t' || c == '\n' || c == '\r')
  let (name, rest?) := splitAtMark ':' source
  let scheme ← scheme? name
  let (located, fragment) := splitAtMark '#' (← rest?)
  let (hierarchical, query) := splitAtMark '?' located
  let (authority, path) ← hierarchy? scheme hierarchical
  let isEncoded (c : Char) : Bool := isEncodedInQuery c && (c != '\x27' || isWeb scheme)
  return {
    scheme
    authority
    path
    query := query.map (percentEncode isEncoded)
    fragment := fragment.map (percentEncode isEncodedInFragment) }

/-- Whether an address names a host. -/
def hasHost (url : Url) : Bool := url.authority.any fun authority => !authority.isEmpty

/-- Whether requests can be sent to an address that names a host. -/
def isHttp (url : Url) : Bool := ["http", "https"].contains (String.ofList url.scheme)

/-- The address with names and values added to its query string. -/
def withPairs (url : Url) (pairs : List (String × String)) : Url :=
  let added := formEncodePairs pairs
  let query := match url.query with
    | none | some [] => added
    | some given => if added.isEmpty then given else given ++ '&' :: added
  { url with query := if query.isEmpty then none else some query }

/-- The path and the query, as they are sent. -/
def target (url : Url) : String :=
  String.ofList (url.path ++ (url.query.map ('?' :: ·)).getD [])

/-- The whole address. -/
def text (url : Url) : String :=
  let authority := (url.authority.map ("//".toList ++ ·)).getD []
  String.ofList (url.scheme ++ ':' :: authority) ++ url.target ++
    String.ofList ((url.fragment.map ('#' :: ·)).getD [])

end Url

end ArgoQuery.Http
