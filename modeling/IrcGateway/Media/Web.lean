import IrcGateway.Media.ContentType
import IrcGateway.Media.Folder
import IrcGateway.Text.Digits
import IrcGateway.Text.Lines
import IrcGateway.Text.Utf8

/-!
# Serving stored files

The web side of the gateway: stored files are served below one address, to be read from pages of any
origin. A request can only reach what lies in the folder: an address that leads up is not found.

* `dots_notMem_of_namesOf?`: no path leads up.
-/

namespace IrcGateway.Media

open IrcGateway.Text

/-- A request for an address, with or without scheme and host. -/
structure Request where
  method : String
  target : String
  deriving DecidableEq, Repr

structure Response where
  status : Nat
  contentType : Option String := none
  /-- From which origins the answer may be read. -/
  allowOrigin : String := "*"
  body : List UInt8 := []
  deriving DecidableEq, Repr

/-- Under which address files are served. -/
def servedUnder : List Char := "/files".toList

/-- Whether a character stands in no scheme and no host. -/
def endsHost (c : Char) : Bool :=
  c == '/' || c == '?' || c == '#'

/-- An address without its scheme and host. -/
def withoutHost (target : List Char) : List Char :=
  match splitAtFirst ':' target with
  | some (scheme, '/' :: '/' :: rest) =>
    if scheme.any endsHost then target else rest.dropWhile (fun c => !endsHost c)
  | _ => target

/-- The path of an address: what precedes a query or a fragment. -/
def pathOf (target : List Char) : List Char :=
  (withoutHost target).takeWhile (fun c => c != '?' && c != '#')

/-- The path below the address of the files. -/
def belowServed? (path : List Char) : Option (List Char) :=
  if servedUnder.isPrefixOf path then
    match path.drop servedUnder.length with
    | [] => some ['/']
    | '/' :: rest => some ('/' :: rest)
    | _ => none
  else none

/-- The names that a path leads through. Empty names and single dots are passed over. A path that is
no text, begins anew at the root, or leads up has none. -/
def namesOf? (path : List Char) : Option (List String) :=
  match Utf8.decode? (percentDecode (path.dropWhile (· == '/'))) with
  | none => none
  | some decoded =>
    let names := (pieces (· == '/') decoded).filter (fun p => !p.isEmpty && p != ['.'])
    if decoded.head? = some '/' ∨ ['.', '.'] ∈ names then none
    else some (names.map String.ofList)

theorem dots_notMem_of_namesOf? {path : List Char} {names : List String}
    (h : namesOf? path = some names) : ".." ∉ names := by
  unfold namesOf? at h
  split at h
  · simp at h
  · simp only at h
    split at h
    · simp at h
    · rename_i hn
      simp only [not_or] at hn
      simp only [Option.some.injEq] at h
      subst h
      intro hm
      obtain ⟨p, hp, hd⟩ := List.mem_map.mp hm
      -- the pieces were looked at before they became names
      have : p = ['.', '.'] := by
        have := congrArg String.toList hd
        simpa using this
      exact hn.2 (this ▸ hp)

/-- The content of a file. A folder has none. -/
def contentOf : Node → List UInt8
  | .file bytes => bytes
  | .folder _ => []

/-- The answer where a way leads nowhere. -/
def refusal (headOnly : Bool) : Folder.DeadEnd → Response
  | .missing => { status := 404 }
  | .tooLong => { status := 500 }
  | .unnameable => { status := if headOnly then 500 else 404 }

/-- The answer to a request for what stands at the end of a way; its content is left out where only
the head is asked for. -/
def serveAt (folder : Folder) (headOnly : Bool) (names : List String) : Response :=
  match folder.find names with
  | .ok node =>
    { status := 200, contentType := contentType (names.getLast?.getD "")
      body := if headOnly then [] else contentOf node }
  | .error deadEnd => refusal headOnly deadEnd

/-- What a folder is represented by. -/
def indexName : String := "index.html"

/-- The answer to a request below the address of the files. A folder without a slash after it is
asked for again with one. -/
def serve (folder : Folder) (headOnly : Bool) (path : List Char) : Response :=
  match namesOf? path with
  | none => { status := 404 }
  | some names =>
    match folder.find names with
    | .ok (.folder _) =>
      if path.getLast? = some '/' then serveAt folder headOnly (names ++ [indexName])
      else { status := 307 }
    | _ => serveAt folder headOnly names

/-- The answer to a request. Asking for permission is always granted. -/
def respond (folder : Folder) (r : Request) : Response :=
  if r.method = "OPTIONS" then { status := 200 }
  else
    match belowServed? (pathOf r.target.toList) with
    | none => { status := 404 }
    | some path =>
      if r.method = "GET" then serve folder false path
      else if r.method = "HEAD" then serve folder true path
      else { status := 405 }

end IrcGateway.Media
