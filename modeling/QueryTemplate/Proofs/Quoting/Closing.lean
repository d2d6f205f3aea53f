import QueryTemplate.Escaper
import QueryTemplate.Rendering.Fragment

/-! # The quote that closes a text

A database looks for the quote that closes a quoted text and decodes what stands before it. In a
string of the MySQL dialect a backslash takes the next character; anywhere else a doubled quote
stands for one. What was escaped or doubled holds no closing quote: the search passes over all of it
into what follows, and decoding gives the text before escaping or doubling.
-/
namespace QueryTemplate

/-- How a database reads string literals. -/
inductive Dialect
  | mysql
  | standard
  deriving DecidableEq

namespace Dialect

def escaper : Dialect → Escaper
  | .mysql => .mysql
  | .standard => .standard

/-- The character that one after a backslash stands for. -/
def unescape (letter : Char) : Char :=
  if letter = '0' then '\x00'
  else if letter = 'n' then '\n'
  else if letter = 'r' then '\r'
  else if letter = 'Z' then '\x1a'
  else letter

/-- The position of the first single quote that no backslash takes. -/
def closingBackslashed : Text → Option Nat
  | [] => none
  | '\'' :: _ => some 0
  | '\\' :: _ :: rest => (closingBackslashed rest).map (· + 2)
  | _ :: rest => (closingBackslashed rest).map (· + 1)

/-- The position of the first quote that is not one of two. -/
def closingDoubled (quote : Char) : Text → Option Nat
  | [] => none
  | character :: rest =>
      if character = quote then
        match rest with
        | [] => some 0
        | next :: after =>
            if next = quote then (closingDoubled quote after).map (· + 2) else some 0
      else (closingDoubled quote rest).map (· + 1)

/-- The text in which backslashes and the characters they take are the characters they stand for. -/
def unescapeAll : Text → Text
  | [] => []
  | '\\' :: letter :: rest => unescape letter :: unescapeAll rest
  | character :: rest => character :: unescapeAll rest

/-- The text in which two quotes are one. -/
def undouble (quote : Char) : Text → Text
  | [] => []
  | [character] => [character]
  | character :: next :: rest =>
      if character = quote ∧ next = quote then quote :: undouble quote rest
      else character :: undouble quote (next :: rest)

/-- The position of the quote that closes a string. -/
def closing : Dialect → Text → Option Nat
  | .mysql => closingBackslashed
  | .standard => closingDoubled '\''

/-- The text that is quoted in a string with the given characters. -/
def decode : Dialect → Text → Text
  | .mysql => unescapeAll
  | .standard => undouble '\''

/-- The characters that are escaped in the MySQL dialect. -/
def specials : Text := ['\x00', '\n', '\r', '\\', '\'', '"', '\x1a']

/-- The characters that stand for them after a backslash. -/
def letters : Text := ['0', 'n', 'r', '\\', '\'', '"', 'Z']

/-- A character is escaped by a letter that stands for it, or is left if it is not special. -/
theorem mysqlEscape_cases (character : Char) :
    (∃ letter ∈ letters,
      Escaper.mysqlEscape character = ['\\', letter] ∧ unescape letter = character) ∨
    (character ∉ specials ∧ Escaper.mysqlEscape character = [character]) := by
  unfold Escaper.mysqlEscape
  repeat
    split
    · subst character
      exact .inl ⟨_, by decide, rfl, by decide⟩
  rename_i null newline carriage backslash single double substitute
  refine .inr ⟨?_, rfl⟩
  simp [specials, null, newline, carriage, backslash, single, double, substitute]

/-- What holds of the backslash and the letters, and of all that is left, holds of escaped text. -/
theorem forall_mem_mysql {property : Char → Prop} {raw : Text} (backslash : property '\\')
    (letter : ∀ character ∈ letters, property character)
    (left : ∀ character ∈ raw, character ∉ specials → property character) :
    ∀ character ∈ Escaper.mysql raw, property character := by
  intro written member
  obtain ⟨character, inside, here⟩ := List.mem_flatMap.mp member
  rcases mysqlEscape_cases character with ⟨_, isLetter, escape, -⟩ | ⟨plain, escape⟩
  · rw [escape, List.mem_cons, List.mem_singleton] at here
    rcases here with rfl | rfl
    · exact backslash
    · exact letter _ isLetter
  · rw [escape, List.mem_singleton] at here
    subst here
    exact left written inside plain

/-- A position is moved past one text and then past the text before it. -/
theorem map_add_map_add (position? : Option Nat) (inner outer : Nat) :
    (position?.map (· + inner)).map (· + outer) = position?.map (· + (outer + inner)) := by
  rw [Option.map_map]
  congr 1
  funext position
  simp only [Function.comp_apply]
  omega

theorem closingBackslashed_plain {character : Char} (not_quote : character ≠ '\'')
    (not_backslash : character ≠ '\\') (rest : Text) :
    closingBackslashed (character :: rest) = (closingBackslashed rest).map (· + 1) := by
  rw [closingBackslashed]
  · exact not_quote
  · rintro letter after rfl
    exact absurd rfl not_backslash

theorem unescapeAll_plain {character : Char} (not_backslash : character ≠ '\\') (rest : Text) :
    unescapeAll (character :: rest) = character :: unescapeAll rest := by
  rw [unescapeAll]
  rintro letter after rfl
  exact absurd rfl not_backslash

theorem closingBackslashed_mysqlEscape (character : Char) (rest : Text) :
    closingBackslashed (Escaper.mysqlEscape character ++ rest) =
      (closingBackslashed rest).map (· + (Escaper.mysqlEscape character).length) := by
  rcases mysqlEscape_cases character with ⟨letter, -, escape, -⟩ | ⟨plain, escape⟩
  · rw [escape]
    rfl
  · rw [escape]
    exact closingBackslashed_plain (ne_of_mem_of_not_mem (by decide) plain).symm
      (ne_of_mem_of_not_mem (by decide) plain).symm rest

theorem unescapeAll_mysqlEscape (character : Char) (rest : Text) :
    unescapeAll (Escaper.mysqlEscape character ++ rest) = character :: unescapeAll rest := by
  rcases mysqlEscape_cases character with ⟨letter, -, escape, decoded⟩ | ⟨plain, escape⟩
  · rw [escape]
    exact congrArg (· :: unescapeAll rest) decoded
  · rw [escape]
    exact unescapeAll_plain (ne_of_mem_of_not_mem (by decide) plain).symm rest

/-- No quote in escaped text closes it. -/
theorem closingBackslashed_mysql (raw rest : Text) :
    closingBackslashed (Escaper.mysql raw ++ rest) =
      (closingBackslashed rest).map (· + (Escaper.mysql raw).length) := by
  induction raw with
  | nil => simp [Escaper.mysql]
  | cons character others induction =>
      unfold Escaper.mysql at induction ⊢
      rw [List.flatMap_cons, List.append_assoc, closingBackslashed_mysqlEscape, induction,
        map_add_map_add, List.length_append]

theorem unescapeAll_mysql (raw : Text) : unescapeAll (Escaper.mysql raw) = raw := by
  induction raw with
  | nil => rfl
  | cons character others induction =>
      unfold Escaper.mysql at induction ⊢
      rw [List.flatMap_cons, unescapeAll_mysqlEscape, induction]

theorem closingDoubled_quote (quote : Char) {rest : Text} (ended : rest.head? ≠ some quote) :
    closingDoubled quote (quote :: rest) = some 0 := by
  cases rest with
  | nil => simp [closingDoubled]
  | cons next after =>
      have different : next ≠ quote := fun same => ended (congrArg some same)
      simp [closingDoubled, different]

theorem closingDoubled_quote_quote (quote : Char) (rest : Text) :
    closingDoubled quote (quote :: quote :: rest) = (closingDoubled quote rest).map (· + 2) := by
  simp [closingDoubled]

theorem closingDoubled_plain {quote character : Char} (different : character ≠ quote)
    (rest : Text) :
    closingDoubled quote (character :: rest) = (closingDoubled quote rest).map (· + 1) := by
  rw [closingDoubled.eq_def]
  exact if_neg different

theorem undouble_plain {quote character : Char} (different : character ≠ quote) (rest : Text) :
    undouble quote (character :: rest) = character :: undouble quote rest := by
  cases rest with
  | nil => rfl
  | cons next after =>
      rw [undouble, if_neg]
      exact fun both => different both.1

/-- No quote in doubled text closes it. -/
theorem closingDoubled_doubleQuotes (quote : Char) (text rest : Text) :
    closingDoubled quote (Fragment.doubleQuotes quote text ++ rest) =
      (closingDoubled quote rest).map (· + (Fragment.doubleQuotes quote text).length) := by
  induction text with
  | nil => simp [Fragment.doubleQuotes]
  | cons character others induction =>
      unfold Fragment.doubleQuotes at induction ⊢
      rw [List.flatMap_cons, List.append_assoc, List.length_append]
      by_cases same : character = quote
      · subst same
        rw [if_pos rfl, List.cons_append, List.singleton_append, closingDoubled_quote_quote,
          induction, map_add_map_add]
        rfl
      · rw [if_neg same, List.singleton_append, closingDoubled_plain same, induction,
          map_add_map_add]
        rfl

theorem undouble_doubleQuotes (quote : Char) (text : Text) :
    undouble quote (Fragment.doubleQuotes quote text) = text := by
  induction text with
  | nil => rfl
  | cons character others induction =>
      unfold Fragment.doubleQuotes at induction ⊢
      rw [List.flatMap_cons]
      by_cases same : character = quote
      · rw [if_pos same, List.cons_append, List.singleton_append, undouble,
          if_pos ⟨rfl, rfl⟩, induction, same]
      · rw [if_neg same, List.singleton_append, undouble_plain same, induction]

/-- The quote put after doubled text closes it, unless the same quote comes next. -/
theorem closingDoubled_doubleQuotes_quote_iff (quote : Char) (text rest : Text) :
    closingDoubled quote (Fragment.doubleQuotes quote text ++ quote :: rest) =
        some (Fragment.doubleQuotes quote text).length ↔
      rest.head? ≠ some quote := by
  rw [closingDoubled_doubleQuotes]
  constructor
  · intro closed next
    obtain ⟨after, rfl⟩ := List.head?_eq_some_iff.mp next
    rw [closingDoubled_quote_quote, map_add_map_add, Option.map_eq_some_iff] at closed
    obtain ⟨position, -, same⟩ := closed
    omega
  · intro ended
    rw [closingDoubled_quote quote ended, Option.map_some, Nat.zero_add]

theorem decode_escape (dialect : Dialect) (raw : Text) :
    dialect.decode (dialect.escaper raw) = raw := by
  cases dialect with
  | mysql => exact unescapeAll_mysql raw
  | standard => exact undouble_doubleQuotes '\'' raw

/-- The quote put after an escaped text closes it. In the standard dialect no single quote may come
next. -/
theorem closing_escape_iff (dialect : Dialect) (raw rest : Text) :
    dialect.closing (dialect.escaper raw ++ '\'' :: rest) = some (dialect.escaper raw).length ↔
      (dialect = .standard → rest.head? ≠ some '\'') := by
  cases dialect with
  | mysql =>
      have closed := closingBackslashed_mysql raw ('\'' :: rest)
      rw [closingBackslashed, Option.map_some, Nat.zero_add] at closed
      exact iff_of_true closed (absurd · (by decide))
  | standard =>
      have closed := closingDoubled_doubleQuotes_quote_iff '\'' raw rest
      exact closed.trans ⟨fun ended _ => ended, fun ended => ended rfl⟩

end Dialect
end QueryTemplate
