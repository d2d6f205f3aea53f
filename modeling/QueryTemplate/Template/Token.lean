import QueryTemplate.Template.Tag

/-! # Tokens of a template

A template is a sequence of literal texts, placeholders and the two ends of conditional blocks.
Scanning resolves the braces: an opening brace starts a block when no block is open and a closing
brace follows somewhere, a closing brace ends the open block, and any other brace is dropped.
Blocks are therefore closed and never nested.
-/
namespace QueryTemplate

inductive Token
  | text (characters : Text)
  | placeholder (tag : Tag)
  | blockStart
  | blockEnd
  deriving DecidableEq

namespace Token

def written : Token → Text
  | .text characters => characters
  | .placeholder tag => tag.written
  | .blockStart => ['{']
  | .blockEnd => ['}']

def print (tokens : List Token) : Text := tokens.flatMap written

/-- The token takes an argument. -/
def isPlaceholder : Token → Bool
  | .placeholder _ => true
  | _ => false

/-- Joins each run of adjacent literal texts into one. -/
def mergeText : List Token → List Token
  | [] => []
  | .text first :: rest =>
      match mergeText rest with
      | .text second :: others => .text (first ++ second) :: others
      | others => .text first :: others
  | token :: rest => token :: mergeText rest

/-- The tokens of a template text, with every literal character by itself. `isOpen` says whether a
block is open at the start of the text. -/
def scan (isOpen : Bool) : Text → List Token
  | [] => []
  | character :: rest =>
      if character = '?' then
        match rest with
        | [] => [.placeholder .auto]
        | letter :: after =>
            match Tag.ofLetter? letter with
            | some tag => .placeholder tag :: scan isOpen after
            | none => .placeholder .auto :: scan isOpen (letter :: after)
      else if character = '{' then
        if isOpen = false ∧ '}' ∈ rest then .blockStart :: scan true rest
        else scan isOpen rest
      else if character = '}' then
        if isOpen then .blockEnd :: scan false rest else scan false rest
      else .text [character] :: scan isOpen rest

end Token
end QueryTemplate
