import ChainClient.Datum.Basic
import ChainClient.Datum.Misuse
import ChainClient.Hex
import ChainClient.Numeral.Decimal
import ChainClient.Text.Quoted

/-!
# Byte strings from data

Byte strings that a caller gives either as bytes or as hexadecimal text, and the notes on what is
given instead.
-/

namespace ChainClient

namespace Hex.Fault

/-- What is wrong with hexadecimal text. Only its first sixteen digits are shown. -/
def message : Fault → Text
  | oddLength count => Text.join ["odd number of hex digits: ", Decimal.ofNat count]
  | notDigits digits => Text.join ["invalid hex string: ", Text.quoted (digits.take 16)]

end Hex.Fault

namespace Datum

/-- The bytes of hexadecimal text. -/
def bytesOfHex : Datum → Except Misuse Bytes
  | text t => match Hex.parse t with
    | .ok value => .ok value
    | .error fault => .error (.badValue fault.message)
  | other => .error (.wrongKind (Text.join ["expected a hex string, got ", other.kindName]))

/-- The bytes of a byte string or of hexadecimal text. -/
def octets : Datum → Except Misuse Bytes
  | bytes value => .ok value
  | text t => bytesOfHex (text t)
  | other => .error (.wrongKind (Text.join ["expected bytes or hex, got ", other.kindName]))

end Datum

end ChainClient
