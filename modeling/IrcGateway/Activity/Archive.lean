import IrcGateway.Activity.Latest

/-!
# The archive of latest times

Times that outlive a connection, by user and chat. Saving a time never moves a stored one back, so
the archive holds the maximum of all that was saved. An archive that was closed answers nothing
until it is opened again.

Opening an archive brings its tables up to date. Each migration has a version, and those of later
versions than the tables have seen are applied in order, the first of which makes the table of
times.
-/

namespace IrcGateway.Activity

/-- Stored times by user and chat. -/
abbrev Rows := List ((String × String) × Int)

namespace Rows

/-- Stores the later of a time and the one stored. -/
def raise (key : String × String) (time : Int) : Rows → Rows
  | [] => [(key, time)]
  | (k, t) :: rest => if k = key then (k, max t time) :: rest else (k, t) :: raise key time rest

/-- Stores the times of several chats of a user. -/
def raiseAll (rows : Rows) (user : String) (times : Times) : Rows :=
  times.foldl (fun rows row => raise (user, row.1) row.2 rows) rows

/-- The times of a user. -/
def ofUser (rows : Rows) (user : String) : Times :=
  (rows.filter (fun row => row.1.1 == user)).map (fun row => (row.1.2, row.2))

end Rows

/-- The tables of an archive. -/
structure Tables where
  /-- The versions that were applied, once they are recorded. -/
  versions : Option (List Nat) := none
  /-- The times, once there is a table for them. -/
  times : Option Rows := none
  deriving DecidableEq, Repr, Inhabited

/-- What brings a version of the tables in. -/
structure Migration where
  version : Nat
  change : Option Rows → Option Rows

namespace Tables

/-- All migrations, in the order in which they are applied. -/
def migrations : List Migration :=
  [⟨1, fun times => some (times.getD [])⟩]

/-- The latest version that was applied. -/
def version (t : Tables) : Nat :=
  (t.versions.getD []).max?.getD 0

/-- Applies a migration to tables that had the version `had` at first. -/
def apply (had : Nat) (t : Tables) (m : Migration) : Tables :=
  if m.version ≤ had then t
  else { versions := some (t.versions.getD [] ++ [m.version]), times := m.change t.times }

/-- Brings tables up to date. -/
def migrate (t : Tables) : Tables :=
  migrations.foldl (apply t.version) { t with versions := some (t.versions.getD []) }

end Tables

structure Archive where
  tables : Tables := Tables.migrate {}
  isOpen : Bool := true
  deriving Repr, Inhabited

namespace Archive

/-- Saves the times of several chats of a user; `none` if the archive is closed. -/
def save (a : Archive) (user : String) (times : Times) : Option Archive :=
  match a.isOpen, a.tables.times with
  | true, some rows =>
    some { a with tables := { a.tables with times := some (rows.raiseAll user times) } }
  | _, _ => none

/-- The times of a user; `none` if the archive is closed. -/
def load (a : Archive) (user : String) : Option Times :=
  match a.isOpen, a.tables.times with
  | true, some rows => some (rows.ofUser user)
  | _, _ => none

def close (a : Archive) : Archive :=
  { a with isOpen := false }

/-- Opens the archive again and brings its tables up to date, which they are already. -/
def reopen (a : Archive) : Archive :=
  { tables := a.tables.migrate, isOpen := true }

end Archive

end IrcGateway.Activity
