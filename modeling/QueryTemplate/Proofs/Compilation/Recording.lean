import QueryTemplate.Proofs.Compilation.Evaluation

/-! # Recording a compilation

Recording changes nothing: an observed compilation has the result of the same compilation without a
record. What is recorded are the raw texts of the fragments of the plan, each once and in order, and
one event.
-/
namespace QueryTemplate

/-- The text that is escaped for a fragment, none for a bare one. -/
def Fragment.raw? : Fragment → Option Text
  | .bare _ => none
  | .literal raw => some raw
  | .identifier raw => some raw

def Piece.fragments : Piece → List Fragment
  | .text fragments => fragments
  | .skipped fragments => fragments
  | .blockStart => []
  | .blockEnd => []

/-- The texts that a plan escapes. A failing plan escapes those of its failure last. -/
def Plan.raws (plan : Plan) : List Text :=
  (plan.pieces.flatMap Piece.fragments ++ (plan.failure.map Failure.fragments).getD []).filterMap
    Fragment.raw?

/-- The action gives the value, and does nothing but hand the texts to the escaper, in order. -/
def Escapes {α : Type} (action : StateM Record α) (value : α) (raws : List Text) : Prop :=
  ∀ record, action.run record = (value, { record with escaped := record.escaped ++ raws })

namespace Escapes

variable {α β : Type} {action : StateM Record α} {value : α} {raws : List Text}

theorem pure (value : α) : Escapes (Pure.pure value) value [] := by
  intro record
  simp
  rfl

theorem bind {next : α → StateM Record β} {result : β} {others : List Text}
    (first : Escapes action value raws) (second : Escapes (next value) result others) :
    Escapes (action >>= next) result (raws ++ others) := by
  intro record
  have here := first record
  have later := second { record with escaped := record.escaped ++ raws }
  rw [List.append_assoc] at later
  rw [← later]
  exact congrArg (fun reached => (next reached.1).run reached.2) here

theorem bind_pure {function : α → β} (escapes : Escapes action value raws) :
    Escapes (action >>= fun reached => Pure.pure (function reached)) (function value) raws := by
  rw [← List.append_nil raws]
  exact escapes.bind (pure (function value))

end Escapes

namespace Compiler

variable (compiler : Compiler)

theorem escapes_escape (raw : Text) :
    Escapes (compiler.recordingHost.escape raw) (compiler.escaper raw) [raw] := by
  intro record
  rfl

theorem escapes_write (fragment : Fragment) :
    Escapes (fragment.write compiler.recordingHost.escape compiler.quote)
      (fragment.text compiler.escaper compiler.quote) fragment.raw?.toList := by
  cases fragment with
  | bare characters => exact .pure characters
  | literal raw => exact (compiler.escapes_escape raw).bind_pure
  | identifier raw => exact (compiler.escapes_escape raw).bind_pure

theorem escapes_writeAll (fragments : List Fragment) :
    Escapes (Fragment.writeAll compiler.recordingHost.escape compiler.quote fragments)
      (compiler.textOf fragments) (fragments.filterMap Fragment.raw?) := by
  induction fragments with
  | nil => exact .pure []
  | cons fragment rest induction =>
      have raws_eq : (fragment :: rest).filterMap Fragment.raw? =
          fragment.raw?.toList ++ rest.filterMap Fragment.raw? := by
        cases raw : fragment.raw? <;> simp [raw]
      have text_eq : compiler.textOf (fragment :: rest) =
          fragment.text compiler.escaper compiler.quote ++ compiler.textOf rest :=
        List.flatMap_cons
      rw [raws_eq, text_eq]
      exact (compiler.escapes_write fragment).bind induction.bind_pure

theorem escapes_write_piece (piece : Piece) :
    Escapes (piece.write compiler.recordingHost.escape compiler.quote)
      (piece.write (m := Id) compiler.escaper compiler.quote).run
      (piece.fragments.filterMap Fragment.raw?) := by
  cases piece with
  | text fragments =>
      rw [write_piece_text]
      exact (compiler.escapes_writeAll fragments).bind_pure
  | skipped fragments =>
      rw [write_piece_skipped]
      exact (compiler.escapes_writeAll fragments).bind_pure
  | blockStart => exact .pure Written.blockStart
  | blockEnd => exact .pure Written.blockEnd

theorem escapes_writeAll_pieces (pieces : List Piece) :
    Escapes (Piece.writeAll compiler.recordingHost.escape compiler.quote pieces)
      (Piece.writeAll (m := Id) compiler.escaper compiler.quote pieces).run
      ((pieces.flatMap Piece.fragments).filterMap Fragment.raw?) := by
  induction pieces with
  | nil => exact .pure []
  | cons piece rest induction =>
      rw [List.flatMap_cons, List.filterMap_append]
      exact (compiler.escapes_write_piece piece).bind induction.bind_pure

/-- A plan is run as without a record, and its texts are escaped in order. -/
theorem escapes_run (plan : Plan) :
    Escapes (plan.run compiler.recordingHost.escape compiler.quote)
      (plan.run (m := Id) compiler.escaper compiler.quote).run plan.raws := by
  have pieces := compiler.escapes_writeAll_pieces plan.pieces
  unfold Plan.run Plan.raws
  rw [List.filterMap_append]
  refine pieces.bind ?_
  cases plan.failure with
  | none => exact .pure _
  | some failure => exact (compiler.escapes_writeAll failure.fragments).bind_pure

/-- The event of a compilation that evaluates to the given result. -/
def eventOf (template : Template) : Except Error Assembly → Event
  | .ok assembly => .ofAssembly compiler.settings template assembly
  | .error error => .ofError compiler.settings template error

/-- An observation shows the result of the compilation, the texts of its plan and one event. -/
theorem observe_eq (template : Template) (arguments : List Argument) :
    compiler.observe template arguments =
      ⟨compiler.compileTemplate template arguments,
        (Plan.make template.tokens arguments).raws,
        [compiler.eventOf template (compiler.evaluate template.tokens arguments)]⟩ := by
  have run := compiler.escapes_run (Plan.make template.tokens arguments) {}
  rw [run_make, quote] at run
  rw [compileTemplate_eq]
  unfold observe Template.compileWith
  dsimp only
  rw [StateT.run_bind, run]
  cases compiler.evaluate template.tokens arguments <;> rfl

end Compiler
end QueryTemplate
