import QueryTemplate.Compilation.Event
import QueryTemplate.Compilation.Plan

/-! # Compiling templates

A compilation runs in the monad of its host, which escapes text and receives the event. It makes a
plan, writes its fragments in order, and assembles the query; a failing plan is written as far as it
goes before the error is returned.
-/
namespace QueryTemplate

variable {m : Type → Type}

/-- What a compilation needs from its surroundings. -/
structure Host (m : Type → Type) where
  escape : Text → m Text
  report : Event → m Unit

/-- The written form of a piece. The text of a skipped placeholder is not kept. -/
def Piece.write [Monad m] (escape : Text → m Text) (quote : Char) : Piece → m Written
  | .text fragments => do return .text (← Fragment.writeAll escape quote fragments)
  | .skipped fragments => do
      let _ ← Fragment.writeAll escape quote fragments
      return .skipped
  | .blockStart => pure .blockStart
  | .blockEnd => pure .blockEnd

def Piece.writeAll [Monad m] (escape : Text → m Text) (quote : Char) :
    List Piece → m (List Written)
  | [] => pure []
  | piece :: rest => do
      let first ← piece.write escape quote
      let others ← writeAll escape quote rest
      return first :: others

def Plan.run [Monad m] (escape : Text → m Text) (quote : Char) (plan : Plan) :
    m (Except Error Assembly) := do
  let written ← Piece.writeAll escape quote plan.pieces
  match plan.failure with
  | none => return .ok (Assembly.ofWritten none written)
  | some failure =>
      let _ ← Fragment.writeAll escape quote failure.fragments
      return .error failure.error

/-- The query of a template and its arguments. The host receives one event, after all escaping. -/
def Template.compileWith [Monad m] (host : Host m) (settings : Settings) (template : Template)
    (arguments : List Argument) : m (Except Error Text) := do
  let plan := Plan.make template.tokens arguments
  match ← plan.run host.escape settings.identifierQuote.character with
  | .ok assembly =>
      host.report (.ofAssembly settings template assembly)
      return .ok assembly.sql
  | .error error =>
      host.report (.ofError settings template error)
      return .error error

end QueryTemplate
