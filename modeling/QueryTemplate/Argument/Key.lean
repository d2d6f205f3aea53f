import QueryTemplate.Decimal.Numeral
import QueryTemplate.Text.Blank

/-! # Keys of a collection

An entry of a collection is found under an index or a name. A positional key only orders its entry;
any other key is the name of a column. An index and a name are different keys, whatever they read.
-/
namespace QueryTemplate

/-- What an entry of a collection is found under. -/
inductive Key
  | index (position : Int64)
  | name (column : Text)
  deriving DecidableEq

namespace Key

/-- The key of the entry at a position of a list, reduced to sixty-four bits. -/
def ofPosition (position : Nat) : Key := .index (Int64.ofNat position)

/-- An index is positional, and so is a name that is a numeral once blanks are trimmed. -/
def isPositional : Key → Bool
  | .index _ => true
  | .name column => (Decimal.Numeral.ofText? column.trim).isSome

end Key
end QueryTemplate
