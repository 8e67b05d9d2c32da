import ChainClient.Datum.Basic
import ChainClient.Numeral.Shortest
import ChainClient.Text.Quoted

/-!
# Data in messages

The text that a message shows for a datum. There is none for a datum that holds an integer with more
digits than a message may have.
-/

namespace ChainClient

namespace Datum

/-- What stands between two parts of a list or record. -/
def separator : Text := [0x2C, 0x20]

mutual

/-- The text of a datum with its quotes: text is quoted, lists and records hold quoted parts. -/
def quoted? : Datum → Option Text
  | null => some "None"
  | bool true => some "True"
  | bool false => some "False"
  | int value => Decimal.ofInt? value
  | float value => some value.toText
  | text value => some value.quoted
  | bytes value => some value.quoted
  | list items => (quotedItems? items).map fun parts =>
      [0x5B] ++ separator.intercalate parts ++ [0x5D]
  | record entries => (quotedEntries? entries).map fun parts =>
      [0x7B] ++ separator.intercalate parts ++ [0x7D]

/-- The quoted text of each item. -/
def quotedItems? : List Datum → Option (List Text)
  | [] => some []
  | item :: items => match quoted? item, quotedItems? items with
    | some t, some rest => some (t :: rest)
    | _, _ => none

/-- The quoted text of each entry, key and value with a colon between them. -/
def quotedEntries? : List (Text × Datum) → Option (List Text)
  | [] => some []
  | (key, value) :: entries => match quoted? value, quotedEntries? entries with
    | some t, some rest => some ((key.quoted ++ [0x3A, 0x20] ++ t) :: rest)
    | _, _ => none

end

/-- The text of a datum without quotes of its own. -/
def shown? : Datum → Option Text
  | text value => some value
  | datum => quoted? datum

end Datum

end ChainClient
