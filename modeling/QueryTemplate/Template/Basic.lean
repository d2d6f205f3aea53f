import QueryTemplate.Template.Token

/-! # Templates

A template keeps its source beside its tokens, and its tokens are always those of its source.
-/
namespace QueryTemplate

/-- A template text together with its tokens. -/
structure Template where
  source : Text
  tokens : List Token
  tokens_eq : tokens = Token.mergeText (Token.scan false source)
  deriving DecidableEq

namespace Template

/-- The template of a text. Every text is one. -/
def parse (source : Text) : Template where
  source := source
  tokens := Token.mergeText (Token.scan false source)
  tokens_eq := rfl

/-- The source determines the template. -/
theorem eq_of_source_eq {first second : Template} (same : first.source = second.source) :
    first = second := by
  cases first with
  | mk source tokens tokensEq =>
      cases second with
      | mk otherSource otherTokens otherTokensEq =>
          cases same
          cases tokensEq
          cases otherTokensEq
          rfl

@[simp] theorem parse_source (template : Template) : parse template.source = template :=
  eq_of_source_eq rfl

def placeholderCount (template : Template) : Nat := template.tokens.countP Token.isPlaceholder

def blockCount (template : Template) : Nat := template.tokens.count .blockStart

end Template
end QueryTemplate
