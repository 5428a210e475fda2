import TieredTerms.Toml.Scalar

/-!
# Reading TOML

A document is read statement by statement into a tree of tables.

* `Toml.readValue` reads one value, `Toml.parse` a whole document.
* `Namespaces` keeps what the statements so far have closed: tables that have been declared may
  not be declared again, and values in brackets or braces may not be extended.
* `putAt?` sets a value at the end of a path of tables.
-/

namespace TieredTerms.Toml

/-- The names on the way to a table or a value. -/
abbrev Path := List String

/-! ## Paths -/

/-- The fields with those at the end of a path changed.  Tables on the way that are missing are
made.  Where a list of tables is on the way, and lists may be entered, the last table of it
counts. -/
def changeAt? (enterLists : Bool) (change : Fields → Option Fields) :
    Path → Fields → Option Fields
  | [], fields => change fields
  | name :: path, fields =>
    match Fields.get? fields name with
    | none => (changeAt? enterLists change path []).map fun sub => fields.put name (.object sub)
    | some (.object sub) =>
      (changeAt? enterLists change path sub).map fun sub => fields.put name (.object sub)
    | some (.array items) =>
      match enterLists, items.getLast? with
      | true, some (.object sub) =>
        (changeAt? enterLists change path sub).map fun sub =>
          fields.put name (.array (items.dropLast ++ [.object sub]))
      | _, _ => none
    | some _ => none

/-- The fields with one more, which must be new. -/
def addField? (name : String) (value : Datum) (fields : Fields) : Option Fields :=
  if Fields.has fields name then none else some (fields.put name value)

/-- The fields with a value at the end of a path, which must be new. -/
def putAt? (enterLists : Bool) (path : Path) (value : Datum) (fields : Fields) : Option Fields :=
  match path.getLast? with
  | some name => changeAt? enterLists (addField? name value) path.dropLast fields
  | none => none

/-- The fields with one more empty table in the list of tables of a name. -/
def addTable? (name : String) (fields : Fields) : Option Fields :=
  match Fields.get? fields name with
  | none => some (fields.put name (.array [.object []]))
  | some (.array items) => some (fields.put name (.array (items ++ [.object []])))
  | some _ => none

/-! ## Values -/

/-- The characters behind blanks, line ends and comments.  The fuel bounds the number of lines. -/
def skipLines : Nat → List Char → Except Fault (List Char)
  | 0, cs => .ok cs
  | fuel + 1, cs => do
    match skipSpaceAndLines cs with
    | '#' :: rest => skipLines fuel (← skipComment ('#' :: rest))
    | rest => return rest

/-- Whether a value is one in brackets or braces. -/
def isContainer : Datum → Bool
  | .array _ | .object _ => true
  | _ => false

mutual

/-- One value.  The fuel bounds the depth and the length of what is read. -/
def readValue : Nat → List Char → Except Fault (Datum × List Char)
  | 0, _ => .error .invalid
  | fuel + 1, cs =>
    match cs with
    | '"' :: '"' :: '"' :: rest => do
      let (chars, rest) ← readMultiline '"' rest
      return (.text (String.ofList chars), rest)
    | '"' :: rest => do
      let (chars, rest) ← readBasic rest
      return (.text (String.ofList chars), rest)
    | '\'' :: '\'' :: '\'' :: rest => do
      let (chars, rest) ← readMultiline '\'' rest
      return (.text (String.ofList chars), rest)
    | '\'' :: rest => do
      let (chars, rest) ← readLiteral rest
      return (.text (String.ofList chars), rest)
    | 't' :: 'r' :: 'u' :: 'e' :: rest => .ok (.bool true, rest)
    | 'f' :: 'a' :: 'l' :: 's' :: 'e' :: rest => .ok (.bool false, rest)
    | '[' :: rest => do
      let (items, rest) ← readItems fuel (← skipLines (rest.length + 1) rest)
      return (.array items, rest)
    | '{' :: rest =>
      match skipSpace rest with
      | '}' :: rest => .ok (.object [], rest)
      | rest => do
        let (fields, rest) ← readInline fuel [] [] rest
        return (.object fields, rest)
    | cs => ((readMoment? cs).or (readNumber? cs)).getD (.error .invalid)

/-- The items of an array and its closing bracket.  A comma may follow the last item. -/
def readItems : Nat → List Char → Except Fault (List Datum × List Char)
  | 0, _ => .error .invalid
  | _ + 1, ']' :: rest => .ok ([], rest)
  | fuel + 1, cs => do
    let (item, rest) ← readValue fuel cs
    match ← skipLines (rest.length + 1) rest with
    | ']' :: rest => return ([item], rest)
    | ',' :: rest =>
      let (items, rest) ← readItems fuel (← skipLines (rest.length + 1) rest)
      return (item :: items, rest)
    | _ => throw .invalid

/-- The fields of a table in braces from one field on, and its closing brace.  `closed` holds the
paths that may not be extended. -/
def readInline : Nat → List Path → Fields → List Char → Except Fault (Fields × List Char)
  | 0, _, _, _ => .error .invalid
  | fuel + 1, closed, fields, cs => do
    let (path, rest) ← readKey cs
    let '=' :: rest := rest | throw .invalid
    let (value, rest) ← readValue fuel (skipSpace rest)
    if closed.any fun p => p.isPrefixOf path then throw .invalid
    let some fields := putAt? false path value fields | throw .invalid
    match skipSpace rest with
    | '}' :: rest => return (fields, rest)
    | ',' :: rest =>
      let closed := if isContainer value then path :: closed else closed
      readInline fuel closed fields (skipSpace rest)
    | _ => throw .invalid

end

/-! ## Statements -/

/-- What earlier statements have closed: the tables that were declared, the values that may not be
extended, and the tables that a key opened in the current section, which count as declared from
the next section on. -/
structure Namespaces where
  declared : List Path := []
  closed : List Path := []
  opened : List Path := []

namespace Namespaces

/-- Whether a path leads to or into a value that may not be extended. -/
def isClosed (n : Namespaces) (path : Path) : Bool :=
  n.closed.any fun p => p.isPrefixOf path

/-- The state at the start of a section. -/
def newSection (n : Namespaces) : Namespaces :=
  { n with declared := n.opened ++ n.declared, opened := [] }

/-- The state in which a path and all below it are open again. -/
def reopen (n : Namespaces) (path : Path) : Namespaces :=
  { n with
    declared := n.declared.filter fun p => !path.isPrefixOf p
    closed := n.closed.filter fun p => !path.isPrefixOf p }

end Namespaces

/-- A document as far as it is read: its fields, what is closed, and the current section. -/
structure Document where
  fields : Fields := []
  names : Namespaces := {}
  header : Path := []

namespace Document

/-- The document with a table declared as the current section. -/
def openTable (d : Document) (path : Path) : Except Fault Document := do
  let names := d.names.newSection
  if names.declared.contains path || names.isClosed path then throw .invalid
  let some fields := changeAt? true some path d.fields | throw .invalid
  return { fields, names := { names with declared := path :: names.declared }, header := path }

/-- The document with a table added to a list of tables as the current section. -/
def openListTable (d : Document) (path : Path) : Except Fault Document := do
  let names := d.names.newSection
  if names.isClosed path then throw .invalid
  let names := names.reopen path
  let some name := path.getLast? | throw .invalid
  let some fields := changeAt? true (addTable? name) path.dropLast d.fields | throw .invalid
  return { fields, names := { names with declared := path :: names.declared }, header := path }

/-- The document with a value at a path of the current section. -/
def assign (d : Document) (path : Path) (value : Datum) : Except Fault Document := do
  let between := (List.range (path.length - 1)).map fun i => d.header ++ path.take (i + 1)
  if between.any d.names.declared.contains then throw .invalid
  let full := d.header ++ path
  if d.names.isClosed full.dropLast then throw .invalid
  let some fields := putAt? true full value d.fields | throw .invalid
  let names := { d.names with opened := between ++ d.names.opened }
  let names := if isContainer value then { names with closed := full :: names.closed } else names
  return { d with fields, names }

/-- The document with the statement at the start of the characters, and what follows it. -/
def statement (d : Document) (cs : List Char) : Except Fault (Document × List Char) := do
  match cs with
  | '[' :: '[' :: rest =>
    let (path, rest) ← readKey (skipSpace rest)
    let d ← d.openListTable path
    let ']' :: ']' :: rest := rest | throw .invalid
    return (d, skipSpace rest)
  | '[' :: rest =>
    let (path, rest) ← readKey (skipSpace rest)
    let d ← d.openTable path
    let ']' :: rest := rest | throw .invalid
    return (d, skipSpace rest)
  | '#' :: _ => return (d, cs)
  | cs =>
    let (path, rest) ← readKey cs
    let '=' :: rest := rest | throw .invalid
    let (value, rest) ← readValue (2 * rest.length + 2) (skipSpace rest)
    let d ← d.assign path value
    return (d, skipSpace rest)

/-- The document with all statements of the characters.  The fuel bounds the number of lines. -/
def statements : Nat → Document → List Char → Except Fault Document
  | 0, d, _ => .ok d
  | fuel + 1, d, cs => do
    match skipSpace cs with
    | [] => return d
    | '\n' :: rest => statements fuel d rest
    | cs =>
      let (d, rest) ← d.statement cs
      match ← skipComment rest with
      | [] => return d
      | '\n' :: rest => statements fuel d rest
      | _ => throw .invalid

end Document

/-- The characters with every line end as a single character. -/
def joinLineEnds : List Char → List Char
  | '\r' :: '\n' :: cs => '\n' :: joinLineEnds cs
  | c :: cs => c :: joinLineEnds cs
  | [] => []

/-- The fields of the document that a text holds. -/
def parse (text : String) : Except Fault Fields := do
  let cs := joinLineEnds text.toList
  let d ← Document.statements (cs.length + 1) {} cs
  return d.fields

end TieredTerms.Toml
