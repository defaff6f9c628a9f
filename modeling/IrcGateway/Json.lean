import IrcGateway.Text.Digits

/-!
# JSON values

Values as they are exchanged with the messaging service. Whole numbers are kept apart from numbers
written with a point or an exponent, because a time stamp has to be whole. A record is an object, or
a list that gives its fields in their fixed order.

* `sizeOf_slot?_lt`: a field's value is smaller than the record, which is why nested records are
  read to the end.
-/

namespace IrcGateway

inductive Json where
  | null
  | bool (b : Bool)
  | int (n : Int)
  | real (x : Float)
  | text (s : String)
  | list (items : List Json)
  | object (fields : List (String × Json))
  deriving Inhabited, Repr

namespace Json

/-- The value of a record's field, by its place and its name; `none` if the field is absent. -/
def slot? (j : Json) (index : Nat) (name : String) : Option Json :=
  match j with
  | object fields => fields.lookup name
  | list items => items[index]?
  | _ => none

/-- Whether a value can be a record of `width` fields. -/
def isRecord (j : Json) (width : Nat) : Bool :=
  match j with
  | object _ => true
  | list items => items.length ≤ width
  | _ => false

private theorem sizeOf_lookup_lt {fields : List (String × Json)} {name : String} {v : Json}
    (h : fields.lookup name = some v) : sizeOf v < sizeOf fields := by
  induction fields with
  | nil => simp at h
  | cons f fs ih =>
    obtain ⟨key, value⟩ := f
    rw [List.lookup_cons] at h
    split at h
    · simp only [Option.some.injEq] at h
      subst h
      simp only [List.cons.sizeOf_spec, Prod.mk.sizeOf_spec]
      omega
    · have := ih h
      simp only [List.cons.sizeOf_spec]
      omega

theorem sizeOf_slot?_lt {j v : Json} {index : Nat} {name : String}
    (h : j.slot? index name = some v) : sizeOf v < sizeOf j := by
  unfold slot? at h
  split at h
  · have := sizeOf_lookup_lt h
    simp only [object.sizeOf_spec]
    omega
  · have := List.sizeOf_lt_of_mem (List.mem_of_getElem? h)
    simp only [list.sizeOf_spec]
    omega
  · simp at h

/-! ### Reading plain values -/

def text? : Json → Option String
  | text s => some s
  | _ => none

def bool? : Json → Option Bool
  | bool b => some b
  | _ => none

/-- A whole number of 64 bits. -/
def int64? : Json → Option Int
  | int n => if Text.fitsSigned n then some n else none
  | _ => none

/-- A number; a whole one is taken as the double nearest to it. -/
def real? : Json → Option Float
  | real x => some x
  | int n => some (Float.ofInt n)
  | _ => none

/-- A list, every item of which `read` accepts. -/
def listOf? {α : Type} (read : Json → Option α) : Json → Option (List α)
  | list items => items.mapM read
  | _ => none

/-- A value that may be null. -/
def nullable? {α : Type} (read : Json → Option α) : Json → Option (Option α)
  | null => some none
  | j => (read j).map some

/-! ### Reading the fields of a record -/

/-- A field that must be there. -/
def required? {α : Type} (j : Json) (index : Nat) (name : String) (read : Json → Option α) :
    Option α :=
  (j.slot? index name).bind read

/-- A field that stands for `absent` where it is left out. -/
def withDefault? {α : Type} (j : Json) (index : Nat) (name : String) (read : Json → Option α)
    (absent : α) : Option α :=
  match j.slot? index name with
  | none => some absent
  | some v => read v

end Json

end IrcGateway
