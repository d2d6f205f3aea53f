import QueryTemplate.Json.Basic

/-! # Settings of a compiler

Settings choose the quote around identifiers and the number of bytes of a query that a log event
shows. They can be read from a JSON object: absent members have their default, and members of other
names are ignored.
-/
namespace QueryTemplate

inductive IdentifierQuote
  | backtick
  | doubleQuote
  deriving DecidableEq

namespace IdentifierQuote

def character : IdentifierQuote → Char
  | .backtick => '\x60'
  | .doubleQuote => '"'

def name : IdentifierQuote → Text
  | .backtick => .ofString "backtick"
  | .doubleQuote => .ofString "double_quote"

def ofName? (text : Text) : Option IdentifierQuote :=
  if text = name .backtick then some .backtick
  else if text = name .doubleQuote then some .doubleQuote
  else none

end IdentifierQuote

structure Settings where
  identifierQuote : IdentifierQuote := .backtick
  /-- The most bytes of a text that an event shows, none when all are shown. -/
  loggedLength : Option Nat := some 200
  deriving DecidableEq

namespace Settings

def quoteOfJson? : Json → Option IdentifierQuote
  | .string text => IdentifierQuote.ofName? text
  | _ => none

/-- The limit that a JSON value gives: an integer that is not negative, or null for none. -/
def limitOfJson? : Json → Option (Option Nat)
  | .null => some none
  | .number (.int value) => if 0 ≤ value.toInt then some (some value.toInt.toNat) else none
  | .number (.large value _ _) => some (some value)
  | _ => none

def ofJson? : Json → Option Settings
  | .object members => do
      let identifierQuote ← match members.lookup (.ofString "ident_quote") with
        | some value => quoteOfJson? value
        | none => some ({} : Settings).identifierQuote
      let loggedLength ← match members.lookup (.ofString "max_logged_sql_length") with
        | some value => limitOfJson? value
        | none => some ({} : Settings).loggedLength
      return { identifierQuote, loggedLength }
  | _ => none

end Settings
end QueryTemplate
