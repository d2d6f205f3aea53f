import QueryTemplate.Compilation.Compiler
import QueryTemplate.Proofs.Compilation.Pairing
import QueryTemplate.Proofs.Rendering.Ending

/-! # Compiling as a function

An escaper without effects makes a compilation a function of its arguments: every item is written by
itself, the first that cannot be written gives the error, and the written items are assembled. Only
the atoms of the tokens matter to it.
-/
namespace QueryTemplate

namespace Fragment

/-- The text of a fragment under an escaper without effects. -/
def text (escaper : Escaper) (quote : Char) : Fragment → Text
  | .bare characters => characters
  | .literal raw => quoteLiteral (escaper raw)
  | .identifier raw => quoteIdentifier quote (escaper raw)

theorem writeAll_pure (escaper : Escaper) (quote : Char) (fragments : List Fragment) :
    writeAll (m := Id) escaper quote fragments =
      (pure (fragments.flatMap (text escaper quote)) : Id Text) := by
  induction fragments with
  | nil => rfl
  | cons fragment rest induction =>
      rw [writeAll, induction]
      cases fragment <;> rfl

end Fragment

namespace Compiler

def quote (compiler : Compiler) : Char := compiler.settings.identifierQuote.character

def textOf (compiler : Compiler) (fragments : List Fragment) : Text :=
  fragments.flatMap (Fragment.text compiler.escaper compiler.quote)

/-- What an argument gives under a tag: a text, none for a skip, or what cannot be written. -/
def rendered (compiler : Compiler) (tag : Tag) (argument : Argument) :
    Except Found (Option Text) :=
  match argument.render tag with
  | ⟨fragments, .complete⟩ => .ok (some (compiler.textOf fragments))
  | ⟨_, .skipped⟩ => .ok none
  | ⟨_, .unsupported found⟩ => .error found

/-- What an argument gives is decided by how its rendering ends. -/
theorem rendered_eq (compiler : Compiler) (tag : Tag) (argument : Argument) :
    compiler.rendered tag argument =
      match argument.ending tag with
      | .complete => .ok (some (compiler.textOf (argument.render tag).fragments))
      | .skipped => .ok none
      | .unsupported found => .error found := by
  rw [← Argument.ending_render, rendered]
  cases argument.render tag with
  | mk fragments ending => cases ending <;> rfl

theorem rendered_eq_ok_some_iff (compiler : Compiler) (tag : Tag) (argument : Argument)
    (text : Text) :
    compiler.rendered tag argument = .ok (some text) ↔
      argument.ending tag = .complete ∧
        compiler.textOf (argument.render tag).fragments = text := by
  rw [rendered_eq]
  cases argument.ending tag <;> simp

theorem rendered_eq_ok_none_iff (compiler : Compiler) (tag : Tag) (argument : Argument) :
    compiler.rendered tag argument = .ok none ↔ argument.ending tag = .skipped := by
  rw [rendered_eq]
  cases argument.ending tag <;> simp

theorem rendered_eq_error_iff (compiler : Compiler) (tag : Tag) (argument : Argument)
    (found : Found) :
    compiler.rendered tag argument = .error found ↔ argument.ending tag = .unsupported found := by
  rw [rendered_eq]
  cases argument.ending tag <;> simp

/-- The written form of a placeholder that gives a text or is skipped. -/
def writtenOf : Option Text → Written
  | some text => .text text
  | none => .skipped

/-- The written form of an item. A placeholder that cannot be written has an empty one. -/
def written (compiler : Compiler) : Item → Written
  | .text characters => .text characters
  | .placeholder tag argument =>
      match compiler.rendered tag argument with
      | .ok text? => writtenOf text?
      | .error _ => .text []
  | .blockStart => .blockStart
  | .blockEnd => .blockEnd

/-- The argument of a slot can be written under its tag, or is skipped. -/
def Supports (compiler : Compiler) (slot : Tag × Argument) : Prop :=
  ∀ found, compiler.rendered slot.1 slot.2 ≠ .error found

instance (compiler : Compiler) : DecidablePred compiler.Supports := fun slot =>
  match outcome : compiler.rendered slot.1 slot.2 with
  | .ok _ => isTrue (by simp [Supports, outcome])
  | .error found => isFalse fun supported => supported found outcome

/-- The written forms of items, of which the first placeholder has the given position, or the error
of the first that has none. -/
def writeItems (compiler : Compiler) (position : Nat) : List Item → Except Error (List Written)
  | [] => .ok []
  | .text characters :: rest => (compiler.writeItems position rest).map (.text characters :: ·)
  | .blockStart :: rest => (compiler.writeItems position rest).map (.blockStart :: ·)
  | .blockEnd :: rest => (compiler.writeItems position rest).map (.blockEnd :: ·)
  | .placeholder tag argument :: rest =>
      match compiler.rendered tag argument with
      | .ok text? => (compiler.writeItems (position + 1) rest).map (writtenOf text? :: ·)
      | .error found => .error (.unsupported position tag found)

/-- The assembly of items that follow an open block, if there is one. -/
def assemble (compiler : Compiler) (position : Nat) (block : Option OpenBlock)
    (items : List Item) : Except Error Assembly :=
  (compiler.writeItems position items).map (Assembly.ofWritten block)

def evaluate (compiler : Compiler) (tokens : List Token) (arguments : List Argument) :
    Except Error Assembly :=
  match Item.pair? tokens arguments with
  | some items => compiler.assemble 1 none items
  | none => .error (.mismatch (tokens.countP Token.isPlaceholder) arguments.length)

theorem write_piece_text (compiler : Compiler) (fragments : List Fragment) :
    (Piece.text fragments).write (m := Id) compiler.escaper compiler.quote =
      (pure (.text (compiler.textOf fragments)) : Id Written) := by
  rw [Piece.write, Fragment.writeAll_pure]
  rfl

theorem write_piece_skipped (compiler : Compiler) (fragments : List Fragment) :
    (Piece.skipped fragments).write (m := Id) compiler.escaper compiler.quote =
      (pure .skipped : Id Written) := by
  rw [Piece.write, Fragment.writeAll_pure]
  rfl

def outcome (compiler : Compiler) (plan : Plan) : Except Error (List Written) :=
  match plan.failure with
  | none => .ok (Piece.writeAll (m := Id) compiler.escaper compiler.quote plan.pieces).run
  | some failure => .error failure.error

theorem outcome_cons (compiler : Compiler) (piece : Piece) (plan : Plan) :
    compiler.outcome (plan.cons piece) =
      (compiler.outcome plan).map
        ((piece.write (m := Id) compiler.escaper compiler.quote).run :: ·) := by
  unfold outcome
  rw [Plan.cons_failure]
  cases plan.failure <;> rfl

theorem outcome_ofItems (compiler : Compiler) (position : Nat) (items : List Item) :
    compiler.outcome (Plan.ofItems position items) = compiler.writeItems position items := by
  induction items generalizing position with
  | nil => rfl
  | cons item rest induction =>
      cases item with
      | text characters =>
          rw [Plan.ofItems, outcome_cons, induction, write_piece_text, writeItems]
          simp [textOf, Fragment.text]
      | blockStart =>
          rw [Plan.ofItems, outcome_cons, induction]
          rfl
      | blockEnd =>
          rw [Plan.ofItems, outcome_cons, induction]
          rfl
      | placeholder tag argument =>
          rw [Plan.ofItems, writeItems, rendered]
          cases rendering : argument.render tag with
          | mk fragments ending =>
              cases ending with
              | complete => simp [outcome_cons, induction, write_piece_text, writtenOf]
              | skipped => simp [outcome_cons, induction, write_piece_skipped, writtenOf]
              | unsupported found => rfl

theorem run_plan (compiler : Compiler) (plan : Plan) :
    (plan.run (m := Id) compiler.escaper compiler.quote).run =
      (compiler.outcome plan).map (Assembly.ofWritten none) := by
  unfold Plan.run outcome
  cases plan.failure <;> rfl

theorem run_make (compiler : Compiler) (tokens : List Token) (arguments : List Argument) :
    ((Plan.make tokens arguments).run (m := Id) compiler.escaper compiler.quote).run =
      compiler.evaluate tokens arguments := by
  rw [run_plan]
  unfold Plan.make evaluate assemble
  cases Item.pair? tokens arguments with
  | none => rfl
  | some items => rw [outcome_ofItems]

/-- A compilation gives the query of the evaluation. -/
theorem compileTemplate_eq (compiler : Compiler) (template : Template)
    (arguments : List Argument) :
    compiler.compileTemplate template arguments =
      (compiler.evaluate template.tokens arguments).map Assembly.sql := by
  have run := compiler.run_make template.tokens arguments
  generalize result_eq : (Plan.make template.tokens arguments).run (m := Id) compiler.escaper
    compiler.quote = result at run
  have quiet_eq : (Plan.make template.tokens arguments).run compiler.quietHost.escape
      compiler.settings.identifierQuote.character = result := result_eq
  unfold compileTemplate Template.compileWith
  dsimp only
  rw [quiet_eq, ← run]
  rcases result with error | assembly <;> rfl

theorem ofWritten_text_nil (block : Option OpenBlock) (rest : List Written) :
    Assembly.ofWritten block (.text [] :: rest) = Assembly.ofWritten block rest := by
  cases block <;> simp [Assembly.ofWritten, Assembly.prepend]

theorem ofWritten_text_append (block : Option OpenBlock) (first second : Text)
    (rest : List Written) :
    Assembly.ofWritten block (.text (first ++ second) :: rest) =
      Assembly.ofWritten block (.text first :: .text second :: rest) := by
  cases block <;> simp [Assembly.ofWritten, Assembly.prepend]

/-- The first piece acts on what the pieces after it give. -/
theorem ofWritten_cons_congr {first second : List Written}
    (same : ∀ block, Assembly.ofWritten block first = Assembly.ofWritten block second)
    (piece : Written) (block : Option OpenBlock) :
    Assembly.ofWritten block (piece :: first) = Assembly.ofWritten block (piece :: second) := by
  cases block <;> cases piece <;> simp [Assembly.ofWritten, same]

theorem map_ofWritten_cons_congr {first second : Except Error (List Written)}
    (same : ∀ block, first.map (Assembly.ofWritten block) = second.map (Assembly.ofWritten block))
    (piece : Written) (block : Option OpenBlock) :
    (first.map (piece :: ·)).map (Assembly.ofWritten block) =
      (second.map (piece :: ·)).map (Assembly.ofWritten block) := by
  cases first with
  | error error =>
      cases second with
      | error other => exact same block
      | ok written => simp [Except.map] at same
  | ok written =>
      cases second with
      | error error => simp [Except.map] at same
      | ok others =>
          simp only [Except.map, Except.ok.injEq] at same ⊢
          exact ofWritten_cons_congr same piece block

theorem assemble_cons_congr (compiler : Compiler) {first second : List Item}
    (same : ∀ position block,
      compiler.assemble position block first = compiler.assemble position block second)
    (item : Item) (position : Nat) (block : Option OpenBlock) :
    compiler.assemble position block (item :: first) =
      compiler.assemble position block (item :: second) := by
  cases item with
  | placeholder tag argument =>
      unfold assemble writeItems
      cases compiler.rendered tag argument with
      | error found => rfl
      | ok text? => exact map_ofWritten_cons_congr (same (position + 1)) _ block
  | _ => exact map_ofWritten_cons_congr (same position) _ block

theorem assemble_text_nil (compiler : Compiler) (position : Nat) (block : Option OpenBlock)
    (rest : List Item) :
    compiler.assemble position block (.text [] :: rest) =
      compiler.assemble position block rest := by
  unfold assemble
  rw [writeItems]
  cases compiler.writeItems position rest <;> simp [Except.map, ofWritten_text_nil]

theorem assemble_text_append (compiler : Compiler) (position : Nat) (block : Option OpenBlock)
    (first second : Text) (rest : List Item) :
    compiler.assemble position block (.text (first ++ second) :: rest) =
      compiler.assemble position block (.text first :: .text second :: rest) := by
  unfold assemble
  rw [writeItems, writeItems, writeItems]
  cases compiler.writeItems position rest <;> simp [Except.map, ofWritten_text_append]

theorem assemble_texts (compiler : Compiler) (characters : Text) (rest : List Item)
    (position : Nat) (block : Option OpenBlock) :
    compiler.assemble position block ((Item.text characters).atoms ++ rest) =
      compiler.assemble position block (.text characters :: rest) := by
  induction characters generalizing position block with
  | nil => exact (compiler.assemble_text_nil position block rest).symm
  | cons character others induction =>
      have split := compiler.assemble_text_append position block [character] others rest
      rw [List.singleton_append] at split
      rw [split]
      exact compiler.assemble_cons_congr induction (.text [character]) position block

/-- Items and their atoms have the same assembly. -/
theorem assemble_atoms (compiler : Compiler) (items : List Item) (position : Nat)
    (block : Option OpenBlock) :
    compiler.assemble position block (items.flatMap Item.atoms) =
      compiler.assemble position block items := by
  induction items generalizing position block with
  | nil => rfl
  | cons item rest induction =>
      rw [List.flatMap_cons]
      cases item with
      | text characters =>
          rw [assemble_texts]
          exact compiler.assemble_cons_congr induction (.text characters) position block
      | _ => exact compiler.assemble_cons_congr induction _ position block

theorem evaluate_atoms (compiler : Compiler) (tokens : List Token) (arguments : List Argument) :
    compiler.evaluate (tokens.flatMap Token.atoms) arguments =
      compiler.evaluate tokens arguments := by
  rw [evaluate, evaluate, Item.pair?_atoms, Token.countP_atoms fun _ => rfl]
  cases Item.pair? tokens arguments with
  | none => rfl
  | some items => exact compiler.assemble_atoms items 1 none

/-- A compilation may as well be read off the tokens of the scan, before they are merged. -/
theorem compile_eq (compiler : Compiler) (source : Text) (arguments : List Argument) :
    compiler.compile source arguments =
      (compiler.evaluate (Token.scan false source) arguments).map Assembly.sql := by
  have tokens_eq : (Template.parse source).tokens = Token.mergeText (Token.scan false source) := rfl
  rw [compile, compileTemplate_eq, tokens_eq, ← evaluate_atoms, Token.atoms_mergeText,
    evaluate_atoms]

theorem map_eq_error_iff {α β : Type} {result : Except Error α} {function : α → β} {error : Error} :
    result.map function = .error error ↔ result = .error error := by
  cases result <;> simp [Except.map]

theorem map_eq_ok_iff {α β : Type} {result : Except Error α} {function : α → β} {value : β} :
    result.map function = .ok value ↔ ∃ input, result = .ok input ∧ function input = value := by
  cases result <;> simp [Except.map]

theorem writeItems_eq_ok_iff (compiler : Compiler) (position : Nat) (items : List Item)
    (written : List Written) :
    compiler.writeItems position items = .ok written ↔
      (∀ slot ∈ items.filterMap Item.slot?, compiler.Supports slot) ∧
        items.map compiler.written = written := by
  induction items generalizing position written with
  | nil => simp [writeItems]
  | cons item rest induction =>
      cases item with
      | placeholder tag argument =>
          cases outcome : compiler.rendered tag argument with
          | error found =>
              simp [writeItems, outcome, Item.slot?, Supports]
          | ok text? =>
              simp [writeItems, outcome, map_eq_ok_iff, induction,
                Item.slot?, Supports, Compiler.written]
      | _ =>
          simp [writeItems, map_eq_ok_iff, induction, List.filterMap_cons, Item.slot?,
            Compiler.written]

/-- An evaluation gives an assembly when there is an argument for each placeholder and each can be
written. -/
theorem evaluate_eq_ok_iff (compiler : Compiler) (tokens : List Token)
    (arguments : List Argument) (assembly : Assembly) :
    compiler.evaluate tokens arguments = .ok assembly ↔
      ∃ items, Item.pair? tokens arguments = some items ∧
        (∀ slot ∈ items.filterMap Item.slot?, compiler.Supports slot) ∧
        Assembly.ofWritten none (items.map compiler.written) = assembly := by
  unfold evaluate assemble
  cases Item.pair? tokens arguments with
  | none => simp
  | some items => simp [map_eq_ok_iff, writeItems_eq_ok_iff]

end Compiler
end QueryTemplate
