import QueryTemplate.Rendering.Rules
import QueryTemplate.Template.Token

/-! # Plans

Compiling starts without the escaper: tokens are paired with arguments, every argument is rendered
under its tag, and the first that cannot be rendered ends the plan. What is left to do is to write
the fragments of the plan in order.
-/
namespace QueryTemplate

/-- A token of a template together with its argument, if it is a placeholder. -/
inductive Item
  | text (characters : Text)
  | placeholder (tag : Tag) (argument : Argument)
  | blockStart
  | blockEnd

namespace Item

/-- Gives each placeholder its argument, none when there are too few or too many arguments. -/
def pair? : List Token → List Argument → Option (List Item)
  | [], [] => some []
  | [], _ :: _ => none
  | .placeholder _ :: _, [] => none
  | .placeholder tag :: tokens, argument :: arguments =>
      (pair? tokens arguments).map (.placeholder tag argument :: ·)
  | .text characters :: tokens, arguments =>
      (pair? tokens arguments).map (.text characters :: ·)
  | .blockStart :: tokens, arguments => (pair? tokens arguments).map (.blockStart :: ·)
  | .blockEnd :: tokens, arguments => (pair? tokens arguments).map (.blockEnd :: ·)

end Item

/-- A part of a query that is still to be written. -/
inductive Piece
  | text (fragments : List Fragment)
  /-- A skipped placeholder, with the fragments that were rendered before the skip was found. -/
  | skipped (fragments : List Fragment)
  | blockStart
  | blockEnd
  deriving DecidableEq

/-- The error that ends a plan, with the fragments of its placeholder that were rendered before. -/
structure Failure where
  fragments : List Fragment
  error : Error
  deriving DecidableEq

/-- The pieces of a query, up to a failure if there is one. -/
structure Plan where
  pieces : List Piece
  failure : Option Failure
  deriving DecidableEq

namespace Plan

def cons (piece : Piece) (plan : Plan) : Plan := { plan with pieces := piece :: plan.pieces }

@[simp] theorem cons_pieces (piece : Piece) (plan : Plan) :
    (cons piece plan).pieces = piece :: plan.pieces := rfl

@[simp] theorem cons_failure (piece : Piece) (plan : Plan) :
    (cons piece plan).failure = plan.failure := rfl

/-- The plan of a sequence of items, of which the first placeholder has the given position. -/
def ofItems (position : Nat) : List Item → Plan
  | [] => ⟨[], none⟩
  | .text characters :: rest => (ofItems position rest).cons (.text [.bare characters])
  | .blockStart :: rest => (ofItems position rest).cons .blockStart
  | .blockEnd :: rest => (ofItems position rest).cons .blockEnd
  | .placeholder tag argument :: rest =>
      match argument.render tag with
      | ⟨fragments, .complete⟩ => (ofItems (position + 1) rest).cons (.text fragments)
      | ⟨fragments, .skipped⟩ => (ofItems (position + 1) rest).cons (.skipped fragments)
      | ⟨fragments, .unsupported found⟩ =>
          ⟨[], some ⟨fragments, .unsupported position tag found⟩⟩

def make (tokens : List Token) (arguments : List Argument) : Plan :=
  match Item.pair? tokens arguments with
  | some items => ofItems 1 items
  | none => ⟨[], some ⟨[], .mismatch (tokens.countP Token.isPlaceholder) arguments.length⟩⟩

end Plan
end QueryTemplate
