import ChainClient.Text.Basic

/-!
# Misuse

What goes wrong with a value before a rule of the domain applies to it: it is of a kind that cannot
be used, or of a usable kind and unusable itself. Some cases carry a note that says what was
expected. What goes wrong in a library that is called has a name instead.
-/

namespace ChainClient

/-- Why a value cannot be used at all. -/
inductive Misuse where
  /-- The kind is right and the value is not. -/
  | badValue (note : Option Text)
  /-- The kind is wrong. -/
  | wrongKind (note : Option Text)
  /-- A number is too large for what it is needed for. -/
  | tooLarge
  /-- A byte string would not fit into memory. -/
  | outOfMemory
  /-- An object has no slot of that name. -/
  | noSuchSlot
  /-- Text holds a lone surrogate where its UTF-8 form is needed. -/
  | notEncodable
  /-- A library that is called fails in a way of its own. -/
  | foreign (name : Text)
deriving DecidableEq

end ChainClient
