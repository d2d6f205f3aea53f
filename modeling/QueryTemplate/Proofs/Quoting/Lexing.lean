import QueryTemplate.Proofs.Compilation.Evaluation
import QueryTemplate.Proofs.Quoting.Reading
import QueryTemplate.Proofs.Rendering.Phrase

/-! # The quoted tokens of a query

A lexer that knows only quotes passes over bare text and reads quoted text as tokens. It succeeds
when no quote is left open at the end. The text of fragments has the tokens of its quoted fragments,
provided that bare text holds no quotes and that no two quoted fragments touch.
-/
namespace QueryTemplate

/-- What quoted text in a query is read as. -/
inductive Quoted
  | string (value : Text)
  | identifier (name : Text)
  deriving DecidableEq

/-- A character that opens quoted text, when identifiers are put in the given quotes. -/
def IsQuote (quote character : Char) : Prop := character = '\'' ∨ character = quote

instance (quote : Char) : DecidablePred (IsQuote quote) := fun character =>
  inferInstanceAs (Decidable (character = '\'' ∨ character = quote))

namespace Dialect

/-- The quoted tokens of a query in order, none if a quote is not closed. -/
def lex (dialect : Dialect) (quote : Char) : Text → Option (List Quoted)
  | [] => some []
  | character :: rest =>
      if character = '\'' then
        match _ : dialect.readString rest with
        | some (value, after) => (dialect.lex quote after).map (.string value :: ·)
        | none => none
      else if character = quote then
        match _ : readDoubled quote rest with
        | some (name, after) => (dialect.lex quote after).map (.identifier name :: ·)
        | none => none
      else dialect.lex quote rest
  termination_by text => text.length
  decreasing_by
    · exact Nat.lt_succ_of_lt (length_lt_of_readString ‹_›)
    · exact Nat.lt_succ_of_lt (length_lt_of_readDoubled ‹_›)
    · exact Nat.lt_succ_self rest.length

variable {dialect : Dialect} {quote : Char}

@[simp] theorem lex_nil : dialect.lex quote [] = some [] := by
  rw [lex]

theorem lex_string {text value rest : Text}
    (read : dialect.readString text = some (value, rest)) :
    dialect.lex quote ('\'' :: text) = (dialect.lex quote rest).map (.string value :: ·) := by
  rw [lex, if_pos rfl]
  split
  case h_1 other after found =>
    rw [read, Option.some.injEq, Prod.mk.injEq] at found
    rw [found.1, found.2]
  case h_2 missing => simp [read] at missing

theorem lex_identifier {text name rest : Text} (different : quote ≠ '\'')
    (read : readDoubled quote text = some (name, rest)) :
    dialect.lex quote (quote :: text) =
      (dialect.lex quote rest).map (.identifier name :: ·) := by
  rw [lex, if_neg different, if_pos rfl]
  split
  case h_1 other after found =>
    rw [read, Option.some.injEq, Prod.mk.injEq] at found
    rw [found.1, found.2]
  case h_2 missing => simp [read] at missing

theorem lex_append_of_plain {text : Text} (rest : Text)
    (plain : ∀ character ∈ text, ¬ IsQuote quote character) :
    dialect.lex quote (text ++ rest) = dialect.lex quote rest := by
  induction text with
  | nil => rfl
  | cons character others induction =>
      obtain ⟨single, other⟩ := not_or.mp (plain character List.mem_cons_self)
      rw [List.cons_append, lex, if_neg single, if_neg other]
      exact induction fun member found => plain member (List.mem_cons_of_mem _ found)

end Dialect

namespace Fragment

def quoted? (escaper : Escaper) : Fragment → Option Quoted
  | .bare _ => none
  | .literal raw => some (.string raw)
  | .identifier raw => some (.identifier (escaper raw))

/-- Whether the text up to a fragment ends with a quoted fragment. -/
def endsQuoted (before : Bool) : Fragment → Bool
  | .bare [] => before
  | .bare (_ :: _) => false
  | .literal _ => true
  | .identifier _ => true

/-- No two quoted fragments touch. `before` says that a quoted fragment stands directly before the
first one. -/
def Spaced (before : Bool) : List Fragment → Prop
  | [] => True
  | .bare characters :: rest => Spaced (endsQuoted before (.bare characters)) rest
  | .literal _ :: rest => before = false ∧ Spaced true rest
  | .identifier _ :: rest => before = false ∧ Spaced true rest

theorem spaced_append (before : Bool) (first second : List Fragment) :
    Spaced before (first ++ second) ↔
      Spaced before first ∧ Spaced (first.foldl endsQuoted before) second := by
  induction first generalizing before with
  | nil => simp [Spaced]
  | cons fragment rest induction =>
      cases fragment <;> simp [Spaced, induction, endsQuoted, and_assoc]

variable {quote : Char} {fragments : List Fragment}

/-- After a quoted fragment no quote comes next. -/
theorem head?_flatMap_text (escaper : Escaper)
    (plain : ∀ fragment ∈ fragments, fragment.BareWithin fun character => ¬ IsQuote quote character)
    (spaced : Spaced true fragments) :
    (fragments.flatMap (text escaper quote)).head? ≠ some '\'' ∧
      (fragments.flatMap (text escaper quote)).head? ≠ some quote := by
  induction fragments with
  | nil => simp
  | cons fragment rest induction =>
      rw [List.forall_mem_cons] at plain
      cases fragment with
      | bare characters =>
          cases characters with
          | nil => exact induction plain.2 spaced
          | cons character others =>
              have different := not_or.mp (plain.1 character List.mem_cons_self)
              simpa [text] using different
      | literal raw => exact absurd spaced.1 (by decide)
      | identifier raw => exact absurd spaced.1 (by decide)

/-- The text of fragments is read as their tokens. -/
theorem lex_flatMap_text (dialect : Dialect) {before : Bool} (different : quote ≠ '\'')
    (plain : ∀ fragment ∈ fragments, fragment.BareWithin fun character => ¬ IsQuote quote character)
    (spaced : Spaced before fragments) :
    dialect.lex quote (fragments.flatMap (text dialect.escaper quote)) =
      some (fragments.filterMap (quoted? dialect.escaper)) := by
  induction fragments generalizing before with
  | nil => simp
  | cons fragment rest induction =>
      rw [List.forall_mem_cons] at plain
      rw [List.flatMap_cons]
      cases fragment with
      | bare characters =>
          rw [text, Dialect.lex_append_of_plain _ plain.1, induction plain.2 spaced]
          rfl
      | literal raw =>
          have apart := head?_flatMap_text dialect.escaper plain.2 spaced.2
          rw [text, quoteLiteral, List.cons_append, List.append_assoc, List.singleton_append,
            Dialect.lex_string (dialect.readString_escape raw fun _ => apart.1),
            induction plain.2 spaced.2]
          rfl
      | identifier raw =>
          have apart := head?_flatMap_text dialect.escaper plain.2 spaced.2
          rw [text, quoteIdentifier, List.cons_append, List.append_assoc, List.singleton_append,
            Dialect.lex_identifier different
              (Dialect.readDoubled_doubleQuotes quote (dialect.escaper raw) apart.2),
            induction plain.2 spaced.2]
          rfl

end Fragment
end QueryTemplate
