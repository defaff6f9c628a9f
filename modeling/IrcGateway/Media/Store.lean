import IrcGateway.Media.Folder
import IrcGateway.Text.Case
import IrcGateway.Text.Lines
import IrcGateway.Text.Quoted

/-!
# The store of media files

Files sent by the service are kept in one folder, each under a name made from the hash of its
content, and are published under a base address. An index finds a file by its hash. A file is first
written under a temporary name, which begins with a dot, and then given its own, so that no reader
meets half a file.

* `lookup_putIndex`: a file put into the index is found under its stem, and no other look-up
  changes.
* `add_cases`: adding a file puts it into the index, or fails and leaves the index alone.
-/

namespace IrcGateway.Media

open IrcGateway.Text

/-- A stored file. -/
structure StoredFile where
  /-- The hash in the form that file names have. -/
  stem : String
  /-- The extension without its dot; may be empty. -/
  extension : String
  /-- The name of the file in the folder. -/
  name : String
  /-- Where the file is published. -/
  url : String
  deriving DecidableEq, Repr, Inhabited

/-- Why a file was not stored. -/
inductive StoreError where
  /-- The folder did not take the file. -/
  | storage
  /-- The hash cannot be made a file name. -/
  | invalidHash (hash : String)
  deriving DecidableEq, Repr

/-- What is said about a hash that cannot be made a file name. -/
def invalidHashMessage (hash : String) : String :=
  "invalid blob hash: " ++ quoted hash

/-- A character that the stem of a file name may have. -/
def isStemChar (c : Char) : Bool :=
  c.isAlphanum || c == '_' || c == '-'

/-- The characters of the file name for those of a hash. -/
def stemChar (c : Char) : Char :=
  if c = '/' then '_' else if c = '+' then '-' else c

/-- The stem of the file name for a hash: padding is left off and the two characters that file names
cannot have are replaced. A hash with other characters has none, and neither has an empty one. -/
def stem? (hash : String) : Option String :=
  let stem := ((hash.toList.reverse.dropWhile (· == '=')).reverse).map stemChar
  if stem.isEmpty then none
  else if stem.all isStemChar then some (String.ofList stem)
  else none

/-- An extension reduced to lower-case ASCII letters and digits. -/
def cleanExtension (extension : String) : String :=
  lower (String.ofList (extension.toList.filter Char.isAlphanum))

/-- The name of a file. -/
def fileName (stem extension : String) : String :=
  if extension = "" then stem else stem ++ "." ++ extension

/-- The store: its folder, which may be missing, and its index. -/
structure Store where
  baseUrl : String
  folder : Option Folder
  index : List (String × StoredFile) := []
  deriving Repr, Inhabited

namespace Store

/-- The description of a file. -/
def describe (baseUrl stem extension : String) : StoredFile :=
  { stem, extension
    name := fileName stem extension
    url := baseUrl ++ "/" ++ fileName stem extension }

/-- Stem and extension of a file name: it is cut at its first dot. -/
def splitName (name : String) : String × String :=
  match splitAtFirst '.' name.toList with
  | some (stem, extension) => (String.ofList stem, String.ofList extension)
  | none => (name, "")

/-- Whether a name is hidden from the index. -/
def isHiddenName (name : String) : Bool :=
  name.toList.head? == some '.'

/-- Puts a file into the index in place of one with the same stem. -/
def putIndex (index : List (String × StoredFile)) (file : StoredFile) :
    List (String × StoredFile) :=
  (file.stem, file) :: index.filter (fun entry => entry.1 != file.stem)

theorem lookup_putIndex (index : List (String × StoredFile)) (file : StoredFile) (stem : String) :
    (putIndex index file).lookup stem
      = if stem = file.stem then some file else index.lookup stem := by
  unfold putIndex
  by_cases h : stem = file.stem
  · simp [h]
  · rw [List.lookup_cons, beq_eq_false_iff_ne.mpr h]
    simp only [if_neg h]
    induction index with
    | nil => simp
    | cons entry rest ih =>
      obtain ⟨key, value⟩ := entry
      -- an older entry of the stem is dropped, and is not the one that is asked for
      by_cases hk : key = file.stem
      · have : (stem == key) = false := by simpa [hk] using h
        simp [hk, List.lookup_cons, beq_eq_false_iff_ne.mpr h, ih]
      · by_cases hs : stem = key
        · simp [hk, hs]
        · simp [hk, List.lookup_cons, beq_eq_false_iff_ne.mpr hs, ih]

/-- The index of files with these names; of two with the same stem the later name counts. -/
def indexNames (baseUrl : String) (names : List String) : List (String × StoredFile) :=
  (names.filter (fun name => !isHiddenName name)).foldl
    (fun index name =>
      let (stem, extension) := splitName name
      putIndex index (describe baseUrl stem extension))
    []

/-- The index of the files of a folder, in the order of their names. -/
def indexOf (baseUrl : String) (folder : Folder) : List (String × StoredFile) :=
  indexNames baseUrl (folder.sorted.files.map (·.1))

/-- Opens a store on a folder. Slashes at the end of the base address do not count. -/
def openOn (folder : Folder) (baseUrl : String) : Store :=
  let baseUrl := String.ofList (baseUrl.toList.reverse.dropWhile (· == '/')).reverse
  { baseUrl, folder := some folder, index := indexOf baseUrl folder }

/-- The stored file of a hash. -/
def lookup? (s : Store) (hash : String) : Option StoredFile :=
  (stem? hash).bind (s.index.lookup ·)

/-- The name a file has while it is written; `token` keeps two writers apart. -/
def temporaryName (stem token : String) : String :=
  "." ++ stem ++ "." ++ token ++ ".tmp"

/-- Gives a file a new name, in place of a file of that name. It fails if the new name is too long
or is that of a folder. -/
def rename? (folder : Folder) (source target : String) : Option Folder :=
  match folder.get? source, folder.get? target with
  | some _, some (.folder _) => none
  | some node, _ => if nameFits target then some ((folder.erase source).put target node) else none
  | none, _ => none

/-- Stores a file under the name that its hash and extension give. If the file cannot get its name
although something of that name is there, that is taken to be the file. -/
def add (s : Store) (token hash extension : String) (bytes : List UInt8) :
    Store × Except StoreError StoredFile :=
  match stem? hash with
  | none => (s, .error (.invalidHash hash))
  | some stem =>
    let file := describe s.baseUrl stem (cleanExtension extension)
    let temporary := temporaryName stem token
    match s.folder with
    | none => (s, .error .storage)
    | some folder =>
      if !nameFits temporary then (s, .error .storage)
      else
        let written := folder.put temporary (.file bytes)
        match rename? written temporary file.name with
        | some folder =>
          ({ s with folder := some folder, index := putIndex s.index file }, .ok file)
        | none =>
          let cleared := written.erase temporary
          if (cleared.get? file.name).isSome then
            ({ s with folder := some cleared, index := putIndex s.index file }, .ok file)
          else ({ s with folder := some cleared }, .error .storage)

/-- Adding a file changes the folder; if it succeeds, it puts the file into the index as well, and
nothing else into it. -/
theorem add_cases (s : Store) (token hash extension : String) (bytes : List UInt8) :
    ∃ folder,
      (∃ error, s.add token hash extension bytes = ({ s with folder }, .error error)) ∨
      ∃ stem, stem? hash = some stem ∧
        s.add token hash extension bytes =
          ({ s with
              folder := folder
              index := putIndex s.index (describe s.baseUrl stem (cleanExtension extension)) },
            .ok (describe s.baseUrl stem (cleanExtension extension))) := by
  unfold add
  cases stem? hash with
  | none => exact ⟨s.folder, .inl ⟨_, rfl⟩⟩
  | some stem =>
    simp only
    generalize cleanExtension extension = extension
    cases s.folder with
    | none => exact ⟨s.folder, .inl ⟨_, rfl⟩⟩
    | some folder =>
      -- the file cannot be written, it is renamed, or what bears its name passes for it
      simp only
      split
      · exact ⟨s.folder, .inl ⟨_, rfl⟩⟩
      split
      · exact ⟨_, .inr ⟨stem, rfl, rfl⟩⟩
      split
      · exact ⟨_, .inr ⟨stem, rfl, rfl⟩⟩
      · exact ⟨_, .inl ⟨_, rfl⟩⟩

/-- The folder disappears with all it holds. -/
def removeFolder (s : Store) : Store :=
  { s with folder := none }

end Store

end IrcGateway.Media
