/-!
# Messages of the line protocol

A message is what one line says: optional tags, an optional source, a command, and parameters, the
last of which may be free text. `Message.format` writes it as a line; the reader is in
`IrcGateway.Protocol.Parser`.
-/

namespace IrcGateway.Protocol

/-- A message tag; the value is absent where the tag is written without an equals sign. -/
structure Tag where
  key : String
  value : Option String
  deriving DecidableEq, Repr, Inhabited

/-- What one line says. -/
structure Message where
  tags : List Tag := []
  /-- Who the message comes from: a nick or the name of the server. -/
  source : Option String := none
  command : String
  params : List String := []
  deriving DecidableEq, Repr, Inhabited

/-- A tag as it is written. -/
def Tag.text (t : Tag) : String :=
  match t.value with
  | some v => t.key ++ "=" ++ v
  | none => t.key

/-- Whether a last parameter has to be marked with a colon: it is empty, holds a space, or begins
with a colon itself. -/
def needsMark (param : String) : Bool :=
  match param.toList with
  | [] => true
  | c :: cs => c == ':' || (c :: cs).contains ' '

/-- The parameters as they follow the command, each after a space; only the last may be marked. -/
def paramsText : List String → String
  | [] => ""
  | [last] => " " ++ (if needsMark last then ":" else "") ++ last
  | p :: q :: ps => " " ++ p ++ paramsText (q :: ps)

namespace Message

/-- The message as a line, without the line end. -/
def format (m : Message) : String :=
  (match m.tags with
    | [] => ""
    | tags => "@" ++ ";".intercalate (tags.map Tag.text) ++ " ")
    ++ (match m.source with
      | none => ""
      | some s => ":" ++ s ++ " ")
    ++ m.command ++ paramsText m.params

/-- The last parameter, where clients put free text; empty if there is none. -/
def trailing (m : Message) : String :=
  m.params.getLast?.getD ""

end Message

end IrcGateway.Protocol
