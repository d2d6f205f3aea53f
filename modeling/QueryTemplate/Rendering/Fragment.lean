import QueryTemplate.Text.Basic

/-! # Fragments of a query

What a placeholder contributes is a sequence of fragments: bare text that goes into the query as it
is, and raw text that is escaped and quoted on its way. The escaper may have effects, so writing is
done in its monad, one fragment after another.
-/
namespace QueryTemplate

/-- A part of the text of a placeholder. -/
inductive Fragment
  | bare (characters : Text)
  /-- A string literal. -/
  | literal (raw : Text)
  | identifier (raw : Text)
  deriving DecidableEq

namespace Fragment

def quoteLiteral (escaped : Text) : Text := '\'' :: (escaped ++ ['\''])

/-- Escaped text with every quote character in it doubled. -/
def doubleQuotes (quote : Char) (escaped : Text) : Text :=
  escaped.flatMap fun character => if character = quote then [quote, quote] else [character]

def quoteIdentifier (quote : Char) (escaped : Text) : Text :=
  quote :: (doubleQuotes quote escaped ++ [quote])

variable {m : Type → Type} [Monad m]

/-- The text of a fragment. The escaper is used once on a literal or identifier. -/
def write (escape : Text → m Text) (quote : Char) : Fragment → m Text
  | .bare characters => pure characters
  | .literal raw => do return quoteLiteral (← escape raw)
  | .identifier raw => do return quoteIdentifier quote (← escape raw)

def writeAll (escape : Text → m Text) (quote : Char) : List Fragment → m Text
  | [] => pure []
  | fragment :: rest => do
      let first ← fragment.write escape quote
      let others ← writeAll escape quote rest
      return first ++ others

end Fragment
end QueryTemplate
