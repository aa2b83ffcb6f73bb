import ArgoQuery.Toml.Scalar
import ArgoQuery.Toml.Table
import ArgoQuery.Toml.Text

/-!
# Reading TOML

A document is a list of statements: headers, which say what table the following keys belong to, and
keys with their values. It is read as the JSON object that it stands for.
-/

namespace ArgoQuery.Toml

/-- Whether a character is white space within a line. -/
def isSpace (c : Char) : Bool := c == ' ' || c == '\t'

/-- What follows the white space at the start of a text. -/
def skipSpaces (text : List Char) : List Char := text.dropWhile isSpace

/-- The text after spaces, line breaks and comments. -/
def skipLines? (inComment : Bool) : List Char → Option (List Char)
  | [] => some []
  | '\r' :: '\n' :: rest => skipLines? false rest
  | c :: rest =>
    if c = '\n' then skipLines? false rest
    else if inComment then if isControl c then none else skipLines? true rest
    else if isSpace c then skipLines? false rest
    else if c = '#' then skipLines? true rest
    else some (c :: rest)

/-- Whether nothing more than a comment stands on a line. -/
def lineEnds (text : List Char) : Bool :=
  match skipSpaces text with
  | [] | '\n' :: _ | '\r' :: '\n' :: _ | '#' :: _ => true
  | _ => false

/-- Whether a character may stand in a name without quotes. -/
def isBareCharacter (c : Char) : Bool := c.isAlphanum || c == '_' || c == '-'

/-- A part of a key: letters, digits, underscores and hyphens, or a quoted text. -/
def splitName? (text : List Char) : Option (String × List Char) :=
  let bare := text.takeWhile isBareCharacter
  if bare.isEmpty then (splitLine? text).map fun (name, rest) => (String.ofList name, rest)
  else some (String.ofList bare, text.dropWhile isBareCharacter)

/-- The most names in a key, and the most arrays and tables around a value. -/
def maxNesting : Nat := 80

/-- A key of at most so many names, with points between them, and what follows it and any space. -/
def splitNames? : (most : Nat) → List Char → Option (List String × List Char)
  | 0, _ => none
  | most + 1, text => do
    let (name, rest) ← splitName? (skipSpaces text)
    match skipSpaces rest with
    | '.' :: after =>
      let (names, rest) ← splitNames? most after
      return (name :: names, rest)
    | rest => return ([name], rest)

/-- Takes the names of a key off a text. -/
def splitKey? (text : List Char) : Option (List String × List Char) := splitNames? maxNesting text

/-- What follows an equals sign. -/
def afterEquals? : List Char → Option (List Char)
  | '=' :: rest => some rest
  | _ => none

mutual

/-- The value that the text starts with, and what follows it. `depth` is how many arrays and tables
may be opened inside each other. Every step but the last shortens the text, so `fuel` beyond twice
its length is never used. -/
def splitValue? : (fuel depth : Nat) → List Char → Option (Json × List Char)
  | 0, _, _ => none
  | fuel + 1, depth + 1, '[' :: rest =>
    (splitItems? fuel depth rest).map fun (items, after) => (.array items, after)
  | fuel + 1, depth + 1, '\x7b' :: rest =>
    (splitInline? fuel depth [] rest).map fun (fields, after) => (fields.toJson, after)
  | _ + 1, _, text =>
    if text.head?.any fun c => c == '"' || c == '\x27' then
      (splitText? text).map fun (content, after) => (.text (String.ofList content), after)
    else splitScalar? text

/-- The items of an array up to its closing bracket; a comma may follow the last. -/
def splitItems? : (fuel depth : Nat) → List Char → Option (List Json × List Char)
  | 0, _, _ => none
  | fuel + 1, depth, text => do
    match ← skipLines? false text with
    | ']' :: after => return ([], after)
    | start =>
      let (item, rest) ← splitValue? fuel depth start
      match ← skipLines? false rest with
      | ']' :: after => return ([item], after)
      | ',' :: more =>
        let (items, after) ← splitItems? fuel depth more
        return (item :: items, after)
      | _ => none

/-- The fields of a table in braces up to its closing one; a comma may follow the last. Lines may
break anywhere but within a key. -/
def splitInline? : (fuel depth : Nat) → Fields → List Char → Option (Fields × List Char)
  | 0, _, _, _ => none
  | fuel + 1, depth, fields, text => do
    match ← skipLines? false text with
    | '\x7d' :: after => return (fields, after)
    | start =>
      let (key, rest) ← splitKey? start
      let assigned ← afterEquals? (← skipLines? false rest)
      let (value, rest) ← splitValue? fuel depth (← skipLines? false assigned)
      let fields ← Fields.assign? value key fields
      match ← skipLines? false rest with
      | '\x7d' :: after => return (fields, after)
      | ',' :: more => splitInline? fuel depth fields more
      | _ => none

end

/-- What a line says. -/
inductive Statement where
  /-- The keys that follow belong to this table. -/
  | table (path : List String)
  /-- The keys that follow belong to a further table of this name. -/
  | item (path : List String)
  | assign (key : List String) (value : Json)

/-- The key of a header and what follows its closing brackets. -/
def splitHeader? (closing : List Char) (text : List Char) : Option (List String × List Char) := do
  let (key, rest) ← splitKey? text
  if closing.isPrefixOf rest then some (key, rest.drop closing.length) else none

/-- The statement that the text starts with, and what follows it. -/
def splitStatement? : List Char → Option (Statement × List Char)
  | '[' :: '[' :: rest =>
    (splitHeader? [']', ']'] rest).map fun (path, after) => (.item path, after)
  | '[' :: rest => (splitHeader? [']'] rest).map fun (path, after) => (.table path, after)
  | text => do
    let (key, rest) ← splitKey? text
    let assigned := skipSpaces (← afterEquals? rest)
    let (value, after) ← splitValue? (2 * assigned.length + 2) maxNesting assigned
    return (.assign key value, after)

/-- The statements of a text, each on lines of its own. -/
def statements? : (fuel : Nat) → List Char → Option (List Statement)
  | 0, _ => none
  | fuel + 1, text => do
    match ← skipLines? false text with
    | [] => return []
    | start =>
      let (statement, rest) ← splitStatement? start
      if lineEnds rest then return statement :: (← statements? fuel rest) else none

/-- A document so far: its fields and the table that keys belong to. -/
structure Document where
  fields : Fields := []
  current : List String := []

/-- The document with one more statement. -/
def Document.add? (document : Document) : Statement → Option Document
  | .table path => do
    let name ← path.getLast?
    let fields ← Fields.changeAt? (Fields.defineTable? name) path.dropLast document.fields
    return ⟨fields, path⟩
  | .item path => do
    let name ← path.getLast?
    let fields ← Fields.changeAt? (Fields.addTable? name) path.dropLast document.fields
    return ⟨fields, path⟩
  | .assign key value => do
    let change := Fields.assign? value key
    return { document with fields := ← Fields.changeAt? change document.current document.fields }

/-- The text after a byte order mark. -/
def dropMark : List Char → List Char
  | '\ufeff' :: rest => rest
  | text => text

/-- The object that a document stands for. -/
def ofText? (source : String) : Option Json := do
  let text := dropMark source.toList
  let statements ← statements? (text.length + 1) text
  let document ← statements.foldlM Document.add? {}
  return document.fields.toJson

end ArgoQuery.Toml
