/-!
# Tables of a TOML document

A table holds values by key, in the order of their definition. Tables are defined in pieces: by a
header, by the path of a longer header, by dotted keys, or within a line, and which pieces may meet
is what the functions of this module decide.

* A header opens a table that is new, or that only longer headers have named so far; or it adds an
  element to an array of such tables.
* Dotted keys add to a table that dotted keys made, and pass through one that longer headers named.
* A table within a line is complete.

Every function gives `none` for a definition that is not allowed.
-/

namespace IrcGateway.Toml

/-- What a table was defined by first. -/
inductive Origin where
  /-- A header of its own. -/
  | header
  /-- The path of a longer header. -/
  | path
  /-- Dotted keys. -/
  | dotted
  /-- Braces within a line. -/
  | inline
  deriving DecidableEq, Repr, Inhabited

/-- A value of a document. -/
inductive Node where
  | text (s : String)
  | integer (n : Int)
  | boolean (b : Bool)
  /-- A number with a point or an exponent. -/
  | real
  /-- A date or a time. -/
  | moment
  | array (items : List Node)
  | table (origin : Origin) (entries : List (String × Node))
  /-- An array whose elements are tables with headers. -/
  | tables (elements : List (List (String × Node)))
  deriving Repr, Inhabited

/-- What a table holds. -/
abbrev Entries := List (String × Node)

namespace Entries

/-- The value of a key. -/
def get? (es : Entries) (key : String) : Option Node :=
  es.lookup key

/-- Replaces the value of a key that is there. -/
def replace (es : Entries) (key : String) (node : Node) : Entries :=
  es.map fun entry => if entry.1 = key then (key, node) else entry

/-- Adds a value under a new key. -/
def addNew? (es : Entries) (key : String) (node : Node) : Option Entries :=
  match es.get? key with
  | none => some (es ++ [(key, node)])
  | some _ => none

/-- Changes the table at the end of a path of headers. The path leads through tables and into the
last element of an array of tables; a table that is missing is made. -/
def alter? (es : Entries) (path : List String) (change : Entries → Option Entries) :
    Option Entries :=
  match path with
  | [] => change es
  | key :: rest =>
    match es.get? key with
    | none => (alter? [] rest change).map fun inner => es ++ [(key, .table .path inner)]
    | some (.table .inline _) => none
    | some (.table origin inner) =>
      (alter? inner rest change).map fun inner => es.replace key (.table origin inner)
    | some (.tables elements) =>
      (elements.getLast?.bind (alter? · rest change)).map fun last =>
        es.replace key (.tables (elements.dropLast ++ [last]))
    | some _ => none

/-- Opens the table of a header's last key. -/
def openTable? (es : Entries) (key : String) : Option Entries :=
  match es.get? key with
  | none => some (es ++ [(key, .table .header [])])
  | some (.table .path inner) => some (es.replace key (.table .header inner))
  | some _ => none

/-- Adds an element to the array of tables of a header's last key. -/
def openElement? (es : Entries) (key : String) : Option Entries :=
  match es.get? key with
  | none => some (es ++ [(key, .tables [[]])])
  | some (.tables elements) => some (es.replace key (.tables (elements ++ [[]])))
  | some _ => none

/-- Adds a value under dotted keys. The table that takes the value is one that dotted keys made, or
the one they start from. -/
def addDotted? (es : Entries) (keys : List String) (node : Node) : Option Entries :=
  match keys with
  | [] => none
  | [key] => es.addNew? key node
  | key :: next :: rest =>
    match es.get? key with
    | none =>
      (addDotted? [] (next :: rest) node).map fun inner => es ++ [(key, .table .dotted inner)]
    | some (.table .dotted inner) =>
      (addDotted? inner (next :: rest) node).map fun inner => es.replace key (.table .dotted inner)
    | some (.table .path inner) =>
      if rest.isEmpty then none
      else
        (addDotted? inner (next :: rest) node).map fun inner =>
          es.replace key (.table .path inner)
    | some (.tables elements) =>
      if rest.isEmpty then none
      else
        (elements.getLast?.bind (addDotted? · (next :: rest) node)).map fun last =>
          es.replace key (.tables (elements.dropLast ++ [last]))
    | some _ => none

end Entries

end IrcGateway.Toml
