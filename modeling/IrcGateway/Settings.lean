import IrcGateway.Map.Provider
import IrcGateway.Text.Digits
import IrcGateway.Text.Utf8
import IrcGateway.Toml.Document

/-!
# Settings of the gateway

Where the gateway listens, where it keeps its data, and how it behaves. Settings come from a TOML
document, each from one of its four sections, and every setting that is left out has a default. A
section is a table, or an array that gives its settings in their fixed order. Variables of the
environment go over what the document says, unless their value makes no sense.
-/

namespace IrcGateway

open IrcGateway.Text IrcGateway.Toml

structure Settings where
  /-- Where clients connect. -/
  ircAddress : String := "0.0.0.0:6060"
  /-- Where stored files are served. -/
  webAddress : String := "0.0.0.0:3000"
  databaseUrl : String := "sqlite:whapp-irc.db?mode=rwc"
  /-- The folder of the stored files. -/
  fileDir : String := "files"
  /-- Under what address stored files are linked. -/
  fileBaseUrl : String := "http://localhost:3000/files"
  mapProvider : Map.Provider := .openStreetMap
  /-- How many commands of a client wait in its queue. -/
  queueSize : Nat := 10
  deriving DecidableEq, Repr, Inhabited

namespace Settings

/-! ### Values of the document -/

def text? : Node → Option String
  | .text s => some s
  | _ => none

def size? : Node → Option Nat
  | .integer n => if 0 ≤ n then some n.toNat else none
  | _ => none

/-- Whether a value holds nothing, as a name that stands alone in a table must. -/
def isVoid : Node → Bool
  | .array items => items.isEmpty
  | .table _ entries => entries.isEmpty
  | .tables elements => elements.isEmpty
  | _ => false

/-- A map provider is given by its name, or by a table whose only key is that name. -/
def provider? : Node → Option Map.Provider
  | .text key => Map.Provider.ofKey? key
  | .table _ [(key, node)] => if isVoid node then Map.Provider.ofKey? key else none
  | _ => none

/-- Whether a value can be a section. A date holds no setting, and may stand for an empty one. -/
def isSection : Node → Bool
  | .array _ => true
  | .table _ _ => true
  | .tables _ => true
  | .moment => true
  | _ => false

/-- The value of a setting in a section, by its place and its key. -/
def slot? (sect : Node) (index : Nat) (key : String) : Option Node :=
  match sect with
  | .table _ entries => Entries.get? entries key
  | .array items => items[index]?
  | .tables elements => elements[index]?.map (.table .header)
  | _ => none

/-- Reads a setting that stands for `absent` where it is left out. -/
def setting? {α : Type} (sect : Option Node) (index : Nat) (key : String)
    (read : Node → Option α) (absent : α) : Option α :=
  match sect.bind (slot? · index key) with
  | none => some absent
  | some node => read node

/-- A section of the document, if it is there and can be one; `none` if it cannot. -/
def section? (document : Entries) (name : String) : Option (Option Node) :=
  match document.get? name with
  | none => some none
  | some node => if isSection node then some (some node) else none

/-- The settings of a document. Unknown sections and settings do not count. -/
def ofDocument? (document : Entries) : Option Settings := do
  let absent : Settings := {}
  let server ← section? document "server"
  let database ← section? document "database"
  let storage ← section? document "storage"
  let bridge ← section? document "bridge"
  return {
    ircAddress := ← setting? server 0 "irc_address" text? absent.ircAddress
    webAddress := ← setting? server 1 "web_address" text? absent.webAddress
    databaseUrl := ← setting? database 0 "url" text? absent.databaseUrl
    fileDir := ← setting? storage 0 "file_dir" text? absent.fileDir
    fileBaseUrl := ← setting? storage 1 "file_base_url" text? absent.fileBaseUrl
    mapProvider := ← setting? bridge 0 "map_provider" provider? absent.mapProvider
    queueSize := ← setting? bridge 1 "inbound_queue_size" size? absent.queueSize }

/-! ### The environment -/

/-- A size of 64 bits as it is written in a variable: digits that a plus sign may precede. -/
def sizeOfText? (text : String) : Option Nat :=
  let digits :=
    match text.toList with
    | '+' :: cs => cs
    | cs => cs
  (readNat? 10 digits).filter fitsUnsigned

/-- The settings with the values that variables give them, where `env` looks one up. -/
def overridden (s : Settings) (env : String → Option String) : Settings :=
  { ircAddress := (env "IRC_ADDRESS").getD s.ircAddress
    webAddress := (env "WEB_ADDRESS").getD s.webAddress
    databaseUrl := (env "DATABASE_URL").getD s.databaseUrl
    fileDir := (env "FILE_DIR").getD s.fileDir
    fileBaseUrl := (env "FILE_BASE_URL").getD s.fileBaseUrl
    mapProvider := ((env "MAP_PROVIDER").bind Map.Provider.ofName?).getD s.mapProvider
    queueSize := ((env "INBOUND_QUEUE_SIZE").bind sizeOfText?).getD s.queueSize }

/-! ### Loading -/

/-- What is found where the document should be. -/
inductive Source where
  | missing
  | folder
  | file (bytes : List UInt8)
  deriving Repr

/-- Why settings could not be loaded. -/
inductive LoadError where
  /-- There is no text to be read. -/
  | read
  /-- The text is no document of settings. -/
  | parse
  deriving DecidableEq, Repr

/-- Loads settings. Without a document all of them have their defaults. -/
def load (source : Source) (env : String → Option String) : Except LoadError Settings :=
  match source with
  | .missing => .ok (overridden {} env)
  | .folder => .error .read
  | .file bytes =>
    match Utf8.decode? bytes with
    | none => .error .read
    | some cs =>
      match (document? cs).bind ofDocument? with
      | none => .error .parse
      | some s => .ok (s.overridden env)

end Settings

end IrcGateway
