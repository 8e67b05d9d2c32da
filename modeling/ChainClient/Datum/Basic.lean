import ChainClient.Bytes
import ChainClient.Numeral.Binary64
import ChainClient.Text.Basic

/-!
# Data

A datum is a value whose kind is known only when the program runs: what a caller hands over, what a
node replies, what a document holds. Records keep their entries in the order of insertion.
-/

namespace ChainClient

/-- A value of any kind. -/
inductive Datum where
  | null
  | bool (value : Bool)
  | int (value : Int)
  | float (value : Binary64)
  | text (value : Text)
  | bytes (value : Bytes)
  | list (items : List Datum)
  | record (entries : List (Text × Datum))
deriving Inhabited

/-- The entries of a record, each key at most once, in the order of insertion. -/
abbrev Entries := List (Text × Datum)

namespace Entries

/-- The value at a key. -/
def get? (key : Text) : Entries → Option Datum
  | [] => none
  | (k, v) :: rest => if k = key then some v else get? key rest

/-- The value at a key, null if there is none. -/
def getD (entries : Entries) (key : Text) : Datum :=
  (entries.get? key).getD .null

/-- Puts a value at a key: in place if the key is there, else at the end. -/
def insert (key : Text) (value : Datum) : Entries → Entries
  | [] => [(key, value)]
  | (k, v) :: rest => if k = key then (k, value) :: rest else (k, v) :: insert key value rest

@[simp] theorem get?_nil (key : Text) : get? key [] = none := rfl

/-- A value is found at the key where it was put. -/
@[simp] theorem get?_insert_self (key : Text) (value : Datum) (entries : Entries) :
    (entries.insert key value).get? key = some value := by
  induction entries with
  | nil => simp [insert, get?]
  | cons entry entries ih =>
    obtain ⟨k, v⟩ := entry
    by_cases same : k = key <;> simp [insert, get?, same, ih]

/-- Putting a value leaves the other keys alone. -/
theorem get?_insert_of_ne {key other : Text} (different : key ≠ other) (value : Datum)
    (entries : Entries) : (entries.insert key value).get? other = entries.get? other := by
  induction entries with
  | nil => simp [insert, get?, different]
  | cons entry entries ih =>
    obtain ⟨k, v⟩ := entry
    by_cases same : k = key
    · subst same
      simp [insert, get?, different]
    · by_cases found : k = other <;> simp [insert, get?, same, found, ih, Ne.symm different]

end Entries

namespace Datum

instance : Coe Text Datum := ⟨text⟩

/-- The name of a datum's kind in messages. -/
def kindName : Datum → Text
  | null => "NoneType"
  | bool _ => "bool"
  | int _ => "int"
  | float _ => "float"
  | text _ => "str"
  | bytes _ => "bytes"
  | list _ => "list"
  | record _ => "dict"

/-- Null, false, zero and everything empty are false; all else is true. -/
def isTruthy : Datum → Bool
  | null => false
  | bool value => value
  | int value => value ≠ 0
  | float value => value.isTruthy
  | text value => !value.isEmpty
  | bytes value => !value.isEmpty
  | list items => !items.isEmpty
  | record entries => !entries.isEmpty

/-- The integer a datum is, truth values counting as zero and one. -/
def integer? : Datum → Option Int
  | bool value => some (if value then 1 else 0)
  | int value => some value
  | _ => none

/-- The datum is null. -/
def isNull : Datum → Bool
  | null => true
  | _ => false

/-- The datum of an optional text. -/
def ofText? : Option Text → Datum
  | some t => text t
  | none => null

/-- The datum of an optional natural number. -/
def ofNat? : Option Nat → Datum
  | some n => int n
  | none => null

end Datum

end ChainClient
