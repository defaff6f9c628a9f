/-!
# Folders of files

A folder is a list of named entries, each a file or a folder. Names are at most 255 bytes long and
hold no NUL, and the way to a file is at most 4095 bytes long, as file systems have it.

* `get?_put`, `get?_erase`: writing or erasing one entry leaves every other entry alone.
* `walk_eq_ok_folder_iff`: a walk ends in a folder exactly if the names are fit and lead down to it.
-/

namespace IrcGateway.Media

/-- A file or a folder. -/
inductive Node where
  | file (bytes : List UInt8)
  | folder (entries : List (String × Node))
  deriving Inhabited, Repr

/-- The entries of a folder; the first entry of a name counts. -/
abbrev Folder := List (String × Node)

/-- The length of the longest name a file system takes, in bytes. -/
def longestName : Nat := 255

/-- Whether a name is short enough. -/
def nameFits (name : String) : Bool :=
  name.utf8ByteSize ≤ longestName

namespace Folder

/-- The entry of a name. -/
def get? (f : Folder) (name : String) : Option Node :=
  f.lookup name

/-- Removes the entry of a name. -/
def erase (f : Folder) (name : String) : Folder :=
  f.filter (fun entry => entry.1 != name)

/-- Sets the entry of a name. -/
def put (f : Folder) (name : String) (node : Node) : Folder :=
  (name, node) :: f.erase name

theorem get?_erase (f : Folder) (name other : String) :
    (f.erase name).get? other = if other = name then none else f.get? other := by
  simp only [get?, erase]
  induction f with
  | nil => simp
  | cons entry rest ih =>
    obtain ⟨n, node⟩ := entry
    by_cases hn : n = name
    · by_cases ho : other = name
      · simpa [hn, ho] using ih
      · simp [hn, List.lookup_cons, beq_eq_false_iff_ne.mpr ho, ih, ho]
    · by_cases ho : other = n
      · simp [hn, ho]
      · simp [hn, List.lookup_cons, beq_eq_false_iff_ne.mpr ho, ih]

theorem get?_put (f : Folder) (name other : String) (node : Node) :
    (f.put name node).get? other = if other = name then some node else f.get? other := by
  by_cases h : other = name
  · simp [put, get?, h]
  · have := get?_erase f name other
    simp only [get?, if_neg h] at this
    simp [put, get?, List.lookup_cons, beq_eq_false_iff_ne.mpr h, this, h]

/-- The regular files of a folder with their content. -/
def files (f : Folder) : List (String × List UInt8) :=
  f.filterMap fun
    | (name, .file bytes) => some (name, bytes)
    | (_, .folder _) => none

/-- The entries in ascending order of their names. -/
def sorted (f : Folder) : Folder :=
  f.mergeSort (fun a b => a.1 ≤ b.1)

/-- What stands at the end of a path. -/
def descend? (f : Folder) : List String → Option Folder
  | [] => some f
  | name :: path =>
    match f.get? name with
    | some (.folder inner) => descend? inner path
    | _ => none

/-- Why a way leads nowhere. -/
inductive DeadEnd where
  /-- Nothing has the name, or a file stands where a folder is needed. -/
  | missing
  /-- A name or the whole way is longer than any may be. -/
  | tooLong
  /-- A name holds a NUL. -/
  | unnameable
  deriving DecidableEq, Repr

/-- What stands at the end of a way, which is gone name by name: what ends it first counts. -/
def walk (f : Folder) : List String → Except DeadEnd Node
  | [] => .ok (.folder f)
  | name :: path =>
    if nameFits name then
      match f.get? name with
      | none => .error .missing
      | some (.folder inner) => walk inner path
      | some (.file bytes) => if path.isEmpty then .ok (.file bytes) else .error .missing
    else .error .tooLong

theorem walk_eq_ok_folder_iff {f inner : Folder} {path : List String} :
    f.walk path = .ok (.folder inner) ↔
      (∀ name ∈ path, nameFits name = true) ∧ f.descend? path = some inner := by
  induction path generalizing f with
  | nil => simp [walk, descend?]
  | cons name path ih =>
    by_cases hn : nameFits name = true
    · cases hg : f.get? name with
      | none => simp [walk, descend?, hn, hg]
      | some node =>
        cases node with
        | file bytes => by_cases hp : path.isEmpty <;> simp [walk, descend?, hn, hg, hp]
        | folder g => simp [walk, descend?, hn, hg, ih]
    · simp [walk, hn]

/-- The length of the longest way from a folder, in bytes with a slash before each name. Of the 4095
bytes that file systems take in all, fifteen lead to the folder itself. -/
def longestWay : Nat := 4080

/-- The length of a way from a folder, in bytes with a slash before each name. -/
def wayLength : List String → Nat
  | [] => 0
  | name :: path => name.utf8ByteSize + 1 + wayLength path

/-- What stands at the end of a way. No step is taken on a way that no file system takes. -/
def find (f : Folder) (path : List String) : Except DeadEnd Node :=
  if path.any (fun name => name.toList.contains '\x00') then .error .unnameable
  else if wayLength path ≤ longestWay then f.walk path
  else .error .tooLong

/-- Changes the folder at the end of a path, after making the folders that are missing on the way;
`none` if there is a file on the way. -/
def change? (f : Folder) (path : List String) (change : Folder → Folder) : Option Folder :=
  match path with
  | [] => some (change f)
  | name :: path =>
    match f.get? name with
    | some (.folder inner) => (change? inner path change).map (fun g => f.put name (.folder g))
    | some (.file _) => none
    | none => (change? [] path change).map (fun g => f.put name (.folder g))

end Folder

end IrcGateway.Media
