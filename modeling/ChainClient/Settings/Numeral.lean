import ChainClient.Datum.Convert
import ChainClient.Datum.Display
import ChainClient.Text.Blank

/-!
# Chain numbers in settings

The identifier and the version of a chain may be given as integers or as literals, in base sixteen
behind a mark and in base ten without one.
-/

namespace ChainClient

namespace Settings

/-- The integer that a literal denotes. -/
def numberOfLiteral? (literal : Text) : Option Int :=
  let t := literal.trim
  if Hex.hasMark t then
    match t.drop 2 with
    | [] => none
    | digits => (Hex.toNat? digits).map Int.ofNat
  else Numeral.parseInt? .ten t

/-- A chain number: integers stay as they are, all else counts by its text. A value that is missing
or empty stands for the fallback. -/
def chainNumber (value fallback : Datum) : Except Misuse Datum :=
  match value with
  | .null | .text [] => Datum.int <$> fallback.toInt
  | .bool _ | .int _ => .ok value
  | other => Datum.int <$> Datum.orBadValue (other.shown?.bind numberOfLiteral?)

end Settings

end ChainClient
