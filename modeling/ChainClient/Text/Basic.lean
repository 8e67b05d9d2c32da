/-!
# Text

Text is a list of Unicode code points. Lone surrogates are code points as well: text that was read
from escaped JSON can hold them, and only writing it as UTF-8 refuses them.
-/

namespace ChainClient

/-- A Unicode code point, surrogates included. -/
abbrev CodePoint := Fin 0x110000

/-- A numeral is the code point of that number. -/
instance (n : Nat) : OfNat CodePoint n :=
  ⟨⟨n % 0x110000, Nat.mod_lt _ (by decide)⟩⟩

/-- Text, as the list of its code points. -/
abbrev Text := List CodePoint

namespace CodePoint

/-- The code point of a character. -/
def ofChar (c : Char) : CodePoint :=
  ⟨c.val.toNat, by
    rcases c.valid with valid | ⟨_, valid⟩
    · exact Nat.lt_trans valid (by decide)
    · exact valid⟩

/-- The code point of the same number as a byte. -/
def ofByte (byte : UInt8) : CodePoint :=
  ⟨byte.toNat, Nat.lt_trans byte.toNat_lt (by decide)⟩

/-- A code point in the range that UTF-16 reserves for pairs; it has no UTF-8 form. -/
def IsSurrogate (c : CodePoint) : Prop :=
  0xD800 ≤ c.val ∧ c.val ≤ 0xDFFF

instance : DecidablePred IsSurrogate := fun _ => inferInstanceAs (Decidable (_ ∧ _))

/-- ASCII capitals become small letters; every other code point stays as it is. -/
def toLower (c : CodePoint) : CodePoint :=
  if h : 0x41 ≤ c.val ∧ c.val ≤ 0x5A then ⟨c.val + 0x20, by omega⟩ else c

end CodePoint

namespace Text

/-- The code points of a string. -/
def ofString (s : String) : Text :=
  s.toList.map CodePoint.ofChar

instance : Coe String Text := ⟨ofString⟩

/-- The pieces one after the other. -/
def join (pieces : List Text) : Text :=
  pieces.flatten

/-- Text whose ASCII capitals are small. -/
def toLower (t : Text) : Text :=
  t.map CodePoint.toLower

/-- Text without a lone surrogate: the text that UTF-8 can write. -/
def IsScalar (t : Text) : Prop :=
  ∀ c ∈ t, ¬ c.IsSurrogate

instance : DecidablePred IsScalar := fun t =>
  decidable_of_iff (t.all fun c => decide (¬ c.IsSurrogate)) (by simp [IsScalar])

end Text

end ChainClient
