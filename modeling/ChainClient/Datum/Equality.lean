import ChainClient.Datum.Basic

/-!
# Equality of data

Two data are equal when they denote the same value: a number equals a number of another kind with
the same value, truth values being zero and one, and records are equal whatever the order of their
entries. Numbers are also ordered.
-/

namespace ChainClient

namespace Datum

/-- Equality of the data that are neither a list nor a record. -/
def equalsAtom : Datum → Datum → Bool
  | null, null => true
  | text a, text b => a == b
  | bytes a, bytes b => a == b
  | float a, float b => a.equals b
  | float a, b => match b.integer? with
    | some n => a.equalsInt n
    | none => false
  | a, float b => match a.integer? with
    | some n => b.equalsInt n
    | none => false
  | a, b => match a.integer?, b.integer? with
    | some m, some n => m == n
    | _, _ => false

mutual

/-- The two data denote the same value. -/
def equals : Datum → Datum → Bool
  | list as, list bs => equalItems as bs
  | list _, _ => false
  | record as, record bs => as.length == bs.length && equalEntries as bs
  | record _, _ => false
  | a, b => equalsAtom a b

/-- The items are equal one by one. -/
def equalItems : List Datum → List Datum → Bool
  | [], [] => true
  | a :: as, b :: bs => equals a b && equalItems as bs
  | _, _ => false

/-- Each entry has an equal one among the others. -/
def equalEntries : List (Text × Datum) → Entries → Bool
  | [], _ => true
  | (key, a) :: as, bs => match bs.get? key with
    | some b => equals a b && equalEntries as bs
    | none => false

end

/-- A number is less than an integer. Other data have no order with integers. -/
def isBelow? (n : Int) : Datum → Option Bool
  | float x => some (x.isBelow n)
  | d => d.integer?.map fun m => m < n

end Datum

end ChainClient
