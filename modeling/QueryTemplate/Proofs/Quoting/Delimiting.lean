import QueryTemplate.Proofs.Compilation.Evaluation
import QueryTemplate.Proofs.Quoting.Reading
import QueryTemplate.Proofs.Rendering.Characters

/-! # Quoted text delimits itself

Of a string literal or an identifier that is written, the last quote is the one that closes it, and
what stands between the quotes is decoded to the text that was quoted. Only a second quote directly
after a closing one would be taken into the text where quotes are doubled. For identifiers this
holds whatever the escaper returns, so different names are told apart if their escaped forms differ.
-/
namespace QueryTemplate

/-- The characters that may not stand in a string of the MySQL dialect. -/
def Dialect.controls : Text := ['\x00', '\n', '\r', '\x1a']

theorem Dialect.notMem_controls_of_mem_mysql {raw : Text} :
    ∀ character ∈ Escaper.mysql raw, character ∉ controls := by
  have special : ∀ character ∈ controls, character ∈ specials := forall_of_all (by decide)
  exact forall_mem_mysql (by decide) (forall_of_all (by decide)) fun _ _ plain control =>
    plain (special _ control)

namespace Fragment

theorem quoteIdentifier_inj {quote : Char} {first second : Text} :
    quoteIdentifier quote first = quoteIdentifier quote second ↔ first = second := by
  constructor
  · intro same
    have bodies : doubleQuotes quote first = doubleQuotes quote second :=
      List.append_cancel_right (List.cons.inj same).2
    rw [← Dialect.undouble_doubleQuotes quote first, bodies, Dialect.undouble_doubleQuotes]
  · rintro rfl
    rfl

end Fragment

namespace Compiler

theorem rendered_text (compiler : Compiler) (raw : Text) :
    compiler.rendered .auto (.text raw) =
      .ok (some (Fragment.quoteLiteral (compiler.escaper raw))) := by
  rw [rendered_eq]
  exact congrArg (fun text => Except.ok (some text)) (List.append_nil _)

theorem rendered_identifier (compiler : Compiler) (name : Text) :
    compiler.rendered .identifier (.text name) =
      .ok (some (Fragment.quoteIdentifier compiler.quote (compiler.escaper name))) := by
  rw [rendered_eq]
  exact congrArg (fun text => Except.ok (some text)) (List.append_nil _)

/-- A text is written as a string literal whose last quote closes it, whatever follows, and which is
decoded to the text. In the standard dialect no single quote may follow; in that of MySQL no control
character is in the literal. -/
theorem literal_delimits_itself (dialect : Dialect) (settings : Settings) (raw : Text) :
    (Compiler.mk dialect.escaper settings).rendered .auto (.text raw) =
        .ok (some ('\'' :: (dialect.escaper raw ++ ['\'']))) ∧
      dialect.decode (dialect.escaper raw) = raw ∧
      (dialect = .mysql → ∀ character ∈ dialect.escaper raw, character ∉ Dialect.controls) ∧
      ∀ rest,
        (dialect.closing (dialect.escaper raw ++ '\'' :: rest) =
            some (dialect.escaper raw).length ↔
          (dialect = .standard → rest.head? ≠ some '\'')) ∧
        ((dialect = .standard → rest.head? ≠ some '\'') →
          dialect.readString (dialect.escaper raw ++ '\'' :: rest) = some (raw, rest)) := by
  refine ⟨rendered_text _ raw, dialect.decode_escape raw, ?_, ?_⟩
  · rintro rfl
    exact Dialect.notMem_controls_of_mem_mysql
  · intro rest
    exact ⟨dialect.closing_escape_iff raw rest, dialect.readString_escape raw⟩

/-- Quotes and backslashes at the end of a text do not close its literal early, and those after the
literal are left. -/
theorem literal_delimits_itself_at_quotes :
    let raw : Text := ['\n', '\'', '\\']
    (∀ character ∈ Dialect.escaper .mysql raw, character ∉ Dialect.controls) ∧
      Dialect.readString .mysql
          (['\\', 'n', '\\', '\'', '\\', '\\'] ++ '\'' :: ['\'', '\\']) =
        some (raw, ['\'', '\\']) ∧
      [','].head? ≠ some '\'' ∧
      Dialect.readString .standard (['\n', '\'', '\'', '\\'] ++ '\'' :: [',']) =
        some (raw, [',']) := by
  intro raw
  have comma : [','].head? ≠ some '\'' := by decide
  obtain ⟨-, -, plain, mysql⟩ := literal_delimits_itself .mysql {} raw
  obtain ⟨-, -, -, standard⟩ := literal_delimits_itself .standard {} raw
  exact ⟨plain rfl, (mysql ['\'', '\\']).2 (absurd · (by decide)), comma,
    (standard [',']).2 fun _ => comma⟩

/-- A name is written as an identifier whose last quote closes it, unless the same quote follows,
and which is decoded to what the escaper returned. So names are written differently if their escaped
forms differ. -/
theorem identifier_delimits_itself (compiler : Compiler) (name : Text) :
    let body := Fragment.doubleQuotes compiler.quote (compiler.escaper name)
    compiler.rendered .identifier (.text name) =
        .ok (some (compiler.quote :: (body ++ [compiler.quote]))) ∧
      Dialect.undouble compiler.quote body = compiler.escaper name ∧
      (∀ rest,
        (Dialect.closingDoubled compiler.quote (body ++ compiler.quote :: rest) =
            some body.length ↔
          rest.head? ≠ some compiler.quote) ∧
        (rest.head? ≠ some compiler.quote →
          Dialect.readDoubled compiler.quote (body ++ compiler.quote :: rest) =
            some (compiler.escaper name, rest))) ∧
      ∀ other,
        Fragment.quoteIdentifier compiler.quote (compiler.escaper other) =
            Fragment.quoteIdentifier compiler.quote (compiler.escaper name) ↔
          compiler.escaper other = compiler.escaper name := by
  intro body
  refine ⟨compiler.rendered_identifier name, Dialect.undouble_doubleQuotes _ _, ?_,
    fun other => Fragment.quoteIdentifier_inj⟩
  intro rest
  exact ⟨Dialect.closingDoubled_doubleQuotes_quote_iff _ _ rest,
    Dialect.readDoubled_doubleQuotes _ _⟩

/-- The escaper may return any number of quotes. -/
theorem identifier_delimits_itself_among_quotes :
    let compiler : Compiler :=
      ⟨fun raw => '"' :: (raw ++ ['"', '"']), { identifierQuote := .doubleQuote }⟩
    [' ', '"'].head? ≠ some compiler.quote ∧
      Dialect.readDoubled compiler.quote
          (['"', '"', 'a', '"', '"', '"', '"', '"', '"'] ++ '"' :: [' ', '"']) =
        some (compiler.escaper ['a', '"'], [' ', '"']) := by
  intro compiler
  have blank : [' ', '"'].head? ≠ some compiler.quote := by decide
  obtain ⟨-, -, closes, -⟩ := identifier_delimits_itself compiler ['a', '"']
  exact ⟨blank, (closes [' ', '"']).2 blank⟩

end Compiler
end QueryTemplate
