import IrcGateway.Text.Blank
import IrcGateway.Toml.Moment
import IrcGateway.Toml.Number
import IrcGateway.Toml.Strings
import IrcGateway.Toml.Table

/-!
# Reading a TOML document

A document is a list of expressions, each on a line of its own: headers of tables, and keys with
values. It is read in two steps, first into its expressions and then into a table, and is refused as
a whole if either fails. Arrays and tables within a line may be nested, and keys dotted, up to a
fixed depth.

A reader takes a text and gives what it has read together with the rest of the text.
-/

namespace IrcGateway.Toml

open IrcGateway.Text

/-- Arrays, tables within a line, and dotted keys are less deep than this. -/
def depthLimit : Nat := 80

/-- What a reader of values has read, with the rest of the text. -/
abbrev Reader (α : Type) := List Char → Option (α × List Char)

/-! ### Between values -/

def skipGap (cs : List Char) : List Char :=
  cs.dropWhile isGap

/-- Skips gaps, line ends and comments; `comment` says that a comment has begun. It stops at a
character that no comment may hold. -/
def skipLines (comment : Bool) : List Char → List Char
  | [] => []
  | '\r' :: '\n' :: cs => skipLines false cs
  | '\n' :: cs => skipLines false cs
  | c :: cs =>
    if comment then (if isPlain c then skipLines true cs else c :: cs)
    else if isGap c then skipLines false cs
    else if c = '#' then skipLines true cs
    else c :: cs

/-- What follows the line when only a gap and a comment are left of it. -/
def afterLine? (cs : List Char) : Option (List Char) :=
  let cs := skipGap cs
  let cs := if cs.head? = some '#' then cs.dropWhile isPlain else cs
  if cs.isEmpty then some [] else afterLineEnd? cs

/-! ### Keys -/

/-- A character of a key that needs no quotes. -/
def isKeyChar (c : Char) : Bool :=
  c.isAlphanum || c == '_' || c == '-'

/-- Reads one key. -/
def key? : Reader String
  | '"' :: cs => (basic? cs).map fun (key, rest) => (String.ofList key, rest)
  | '\'' :: cs => (literal? cs).map fun (key, rest) => (String.ofList key, rest)
  | cs =>
    let key := cs.takeWhile isKeyChar
    if key.isEmpty then none else some (String.ofList key, cs.drop key.length)

/-- Reads dotted keys with the gaps around them, at most `limit`. -/
def dotted? (limit : Nat) (cs : List Char) : Option (List String × List Char) :=
  match limit with
  | 0 => none
  | limit + 1 => do
    let (key, rest) ← key? (skipGap cs)
    match skipGap rest with
    | '.' :: rest =>
      let (keys, rest) ← dotted? limit rest
      return (key :: keys, rest)
    | rest => return ([key], rest)

/-- Reads the keys of a value or a header. -/
def keys? : Reader (List String) :=
  dotted? (depthLimit - 1)

/-! ### Values -/

/-- A character of a number, a truth value or a moment. -/
def isTokenChar (c : Char) : Bool :=
  c.isAlphanum || c == '_' || c == '+' || c == '-' || c == '.' || c == ':'

/-- Reads a number, a truth value or a moment. A space may stand between a date and a time. -/
def scalar? : Reader Node := fun cs =>
  let token := cs.takeWhile isTokenChar
  let rest := cs.drop token.length
  if token = "true".toList then some (.boolean true, rest)
  else if token = "false".toList then some (.boolean false, rest)
  else
    match integer? token with
    | some n => some (.integer n, rest)
    | none =>
      if isReal token then some (.real, rest)
      else if isMoment token then
        match rest with
        | ' ' :: more =>
          let time := more.takeWhile isTokenChar
          if isDate token && isTimeWithOffset time then some (.moment, more.drop time.length)
          else some (.moment, rest)
        | rest => some (.moment, rest)
      else none

/-- Reads the items of an array behind its bracket. -/
def items? (value : Reader Node) : Reader (List Node) := fun cs =>
  go (cs.length + 1) cs
where
  /-- Reads at most `fuel` items; each takes a character at least. -/
  go (fuel : Nat) (cs : List Char) : Option (List Node × List Char) :=
    match fuel, skipLines false cs with
    | 0, _ => none
    | _, ']' :: rest => some ([], rest)
    | fuel + 1, cs => do
      let (item, rest) ← value cs
      match skipLines false rest with
      | ',' :: rest =>
        let (items, rest) ← go fuel rest
        return (item :: items, rest)
      | ']' :: rest => return ([item], rest)
      | _ => none

/-- Reads keys, the equals sign and a value. -/
def pair? (value : Reader Node) : Reader (List String × Node) := fun cs => do
  let (keys, rest) ← keys? cs
  match rest with
  | '=' :: rest =>
    let (node, rest) ← value (skipGap rest)
    return ((keys, node), rest)
  | _ => none

/-- Reads a table within a line behind its brace. -/
def inlineTable? (value : Reader Node) : Reader Entries := fun cs =>
  match skipGap cs with
  | '\x7d' :: rest => some ([], rest)
  | cs => go (cs.length + 1) [] cs
where
  /-- Adds at most `fuel` pairs to `es`; each takes a character at least. -/
  go (fuel : Nat) (es : Entries) (cs : List Char) : Option (Entries × List Char) :=
    match fuel with
    | 0 => none
    | fuel + 1 => do
      let ((keys, node), rest) ← pair? value cs
      let es ← es.addDotted? keys node
      match skipGap rest with
      | ',' :: rest => go fuel es rest
      | '\x7d' :: rest => return (es, rest)
      | _ => none

/-- Reads a value in which arrays and tables are nested at most `depth` deep. -/
def value? (depth : Nat) : Reader Node := fun cs =>
  match depth, cs with
  | depth + 1, '[' :: rest => (items? (value? depth) rest).map fun (ns, rest) => (.array ns, rest)
  | depth + 1, '\x7b' :: rest =>
    (inlineTable? (value? depth) rest).map fun (es, rest) => (.table .inline es, rest)
  | _, cs =>
    match string? cs with
    | some (s, rest) => some (.text (String.ofList s), rest)
    | none => scalar? cs

/-! ### Expressions -/

/-- One line of a document. -/
inductive Expression where
  /-- The header of a table. -/
  | table (path : List String)
  /-- The header of an element of an array of tables. -/
  | element (path : List String)
  | pair (keys : List String) (node : Node)
  deriving Repr, Inhabited

/-- Reads one expression up to its line end. -/
def expression? : Reader Expression := fun cs => do
  let (expression, rest) ←
    (match cs with
      | '[' :: '[' :: cs => do
        let (path, rest) ← keys? cs
        match rest with
        | ']' :: ']' :: rest => some (.element path, rest)
        | _ => none
      | '[' :: cs => do
        let (path, rest) ← keys? cs
        match rest with
        | ']' :: rest => some (.table path, rest)
        | _ => none
      | cs => do
        let ((keys, node), rest) ← pair? (value? (depthLimit - 1)) cs
        return (.pair keys node, rest))
  return (expression, ← afterLine? rest)

/-- Reads all expressions of a document. -/
def expressions? (cs : List Char) : Option (List Expression) :=
  go (cs.length + 1) cs
where
  /-- Reads at most `fuel` lines; each takes a character at least. -/
  go (fuel : Nat) (cs : List Char) : Option (List Expression) :=
    match fuel, skipLines false cs with
    | _, [] => some []
    | 0, _ => none
    | fuel + 1, cs => do
      let (expression, rest) ← expression? cs
      return expression :: (← go fuel rest)

/-! ### The document as a table -/

/-- The table read so far, and the path of the last header. -/
structure Draft where
  entries : Entries := []
  place : List String := []
  deriving Repr, Inhabited

/-- Opens the place that a header names. -/
def Draft.openAt? (d : Draft) (path : List String)
    (openLast : Entries → String → Option Entries) : Option Draft := do
  let last ← path.getLast?
  let entries ← d.entries.alter? path.dropLast (openLast · last)
  return { entries, place := path }

/-- Takes up one expression. -/
def Draft.add? (d : Draft) : Expression → Option Draft
  | .table path => d.openAt? path Entries.openTable?
  | .element path => d.openAt? path Entries.openElement?
  | .pair keys node =>
    (d.entries.alter? d.place (·.addDotted? keys node)).map fun entries => { d with entries }

/-- The text without a byte order mark at its start. -/
def dropByteOrderMark : List Char → List Char
  | '\uFEFF' :: cs => cs
  | cs => cs

/-- Reads a document. -/
def document? (cs : List Char) : Option Entries := do
  let expressions ← expressions? (dropByteOrderMark cs)
  let draft ← expressions.foldlM Draft.add? {}
  return draft.entries

end IrcGateway.Toml
