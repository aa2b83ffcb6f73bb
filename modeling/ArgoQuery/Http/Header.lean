import ArgoQuery.Json

/-!
# Request headers

Header names are compared without regard to letter case and kept in lower case; a header that is set
again takes the place of the earlier one. The headers of a request are those that carry its key,
followed by the configured ones, which may replace them.
-/

namespace ArgoQuery.Http

/-- Why a header is refused. -/
inductive HeaderFault where
  | invalidName
  | invalidValue
  | valueNotText
deriving DecidableEq, Repr

/-- What a user is told of a header that cannot be sent. -/
def HeaderFault.message : HeaderFault → String
  | invalidName => "invalid HTTP header name"
  | invalidValue => "failed to parse header value"
  | valueNotText => "Default header values must be strings."

/-- Whether a character may stand in a header name. -/
def isTokenCharacter (c : Char) : Bool := c.isAlphanum || "!#$%&'*+-.^_\x60|~".toList.contains c

/-- The longest header name. -/
def maxNameLength : Nat := 65535

/-- Whether a text can be the name of a header. -/
def isHeaderName (name : String) : Bool :=
  !name.isEmpty && name.toList.all isTokenCharacter && decide (name.length ≤ maxNameLength)

/-- Whether a text can be sent as the value of a header: controls cannot, except for the tab. -/
def isHeaderValue (value : String) : Bool :=
  value.toList.all fun c => c == '\t' || (decide (32 ≤ c.toNat) && c.toNat != 127)

/-- A name in lower case; header names are ASCII. -/
def lowercaseName (name : String) : String := String.ofList (name.toList.map Char.toLower)

/-- Headers under lowercase names, none twice. -/
abbrev Headers := List (String × String)

namespace Headers

/-- The headers with one set, in its place if it is there already. -/
def set (name value : String) : Headers → Headers
  | [] => [(name, value)]
  | (other, old) :: rest =>
    if other = name then (name, value) :: rest else (other, old) :: set name value rest

/-- Sets a header of a name that is known to be good. -/
def add (name value : String) (headers : Headers) : Except HeaderFault Headers :=
  if isHeaderValue value then .ok (headers.set name value) else .error .invalidValue

/-- Sets a configured header. That its value is a text is checked before its name is. -/
def addDefault (headers : Headers) (name : String) (value : Json) : Except HeaderFault Headers :=
  match value with
  | .text text =>
    if isHeaderName name then headers.add (lowercaseName name) text else .error .invalidName
  | _ => .error .valueNotText

/-- Adds configured headers one after the other, up to the first that cannot be sent. -/
def addDefaults (headers : Headers) (defaults : List (String × Json)) :
    Except HeaderFault Headers :=
  defaults.foldlM (fun headers (name, value) => headers.addDefault name value) headers

/-- The headers of a request to a provider of generated text. -/
def forProvider (key : String) (defaults : List (String × Json)) : Except HeaderFault Headers := do
  let headers ← add "authorization" ("Bearer " ++ key) []
  addDefaults headers defaults

/-- The headers of a request to a store, which expects its key twice. -/
def forStore (key : String) (defaults : List (String × Json)) : Except HeaderFault Headers := do
  let headers ← add "apikey" key []
  let headers ← add "authorization" ("Bearer " ++ key) headers
  addDefaults headers defaults

end Headers

end ArgoQuery.Http
