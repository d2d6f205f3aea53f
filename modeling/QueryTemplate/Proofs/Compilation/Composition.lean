import QueryTemplate.Proofs.Compilation.Meaning

/-! # Compiling two texts in a row

Where no placeholder takes a tag letter across the border and no block reaches over it, two texts in
a row compile to their two queries in a row. An error of the second text is reported at a position
that counts the placeholders of the first.
-/
namespace QueryTemplate

/-- The error, when the given number of placeholders stand before its text. -/
def Error.shift (placeholders : Nat) : Error → Error
  | .unsupported position tag found => .unsupported (position + placeholders) tag found
  | error => error

theorem Token.scan_append_of_settled {first second : Text} (separate : Separate first second)
    (settled : ¬ LeavesOpen first ∨ '}' ∉ second) :
    scan false (first ++ second) = scan false first ++ scan false second := by
  rcases settled with closed | unclosed
  · exact scan_append_of_not_leavesOpen separate closed
  · rw [scan_append separate (.inr unclosed), scan_eq_of_notMem unclosed]

namespace Compiler

variable (compiler : Compiler)

theorem map_cons_bind (head : Written) (first second : Except Error (List Written)) :
    (first.bind fun written => second.map (written ++ ·)).map (head :: ·) =
      (first.map (head :: ·)).bind fun written => second.map (written ++ ·) := by
  cases first with
  | error error => rfl
  | ok written => cases second <;> rfl

/-- Items in a row are written one after the other, unless one of the first cannot be. -/
theorem writeItems_append (position : Nat) (first second : List Item) :
    compiler.writeItems position (first ++ second) =
      (compiler.writeItems position first).bind fun written =>
        (compiler.writeItems (position + (first.filterMap Item.slot?).length) second).map
          (written ++ ·) := by
  induction first generalizing position with
  | nil =>
      rw [List.nil_append, List.filterMap_nil, List.length_nil, Nat.add_zero]
      cases outcome : compiler.writeItems position second <;> rfl
  | cons item rest induction =>
      rw [List.cons_append]
      cases item with
      | placeholder tag argument =>
          have next : position + ((rest.filterMap Item.slot?).length + 1) =
              position + 1 + (rest.filterMap Item.slot?).length := by omega
          rw [writeItems, writeItems, Item.filterMap_slot?_placeholder, List.length_cons, next]
          cases compiler.rendered tag argument with
          | error found => rfl
          | ok text? =>
              dsimp only
              rw [induction, map_cons_bind]
      | _ =>
          rw [writeItems, writeItems, induction, map_cons_bind]
          rfl

theorem writeItems_shift (position placeholders : Nat) (items : List Item) :
    compiler.writeItems (position + placeholders) items =
      (compiler.writeItems position items).mapError (Error.shift placeholders) := by
  induction items generalizing position with
  | nil => rfl
  | cons item rest induction =>
      cases item with
      | placeholder tag argument =>
          rw [writeItems, writeItems, Nat.add_right_comm, induction]
          cases compiler.rendered tag argument with
          | error found => rfl
          | ok text? => cases compiler.writeItems (position + 1) rest <;> rfl
      | _ =>
          rw [writeItems, writeItems, induction]
          cases compiler.writeItems position rest <;> rfl

section

variable {tokens otherTokens : List Token} {arguments otherArguments : List Argument}

theorem sql_ofWritten (grouping : Grouping tokens arguments) :
    (Assembly.ofWritten none (grouping.items.map compiler.written)).sql =
      grouping.sql compiler :=
  congrArg Assembly.sql (compiler.ofWritten_regions grouping.regions)

/-- No block reaches from one of two grouped texts into the other. -/
theorem sql_ofWritten_append (first : Grouping tokens arguments)
    (second : Grouping otherTokens otherArguments) :
    (Assembly.ofWritten none
        (first.items.map compiler.written ++ second.items.map compiler.written)).sql =
      (Assembly.ofWritten none (first.items.map compiler.written)).sql ++
        (Assembly.ofWritten none (second.items.map compiler.written)).sql := by
  rw [← List.map_append, ← Grouping.items_append, sql_ofWritten, sql_ofWritten, sql_ofWritten,
    Grouping.sql_append]

theorem compile_eq_of_grouping {source : Text} (scanned : Token.scan false source = tokens)
    (grouping : Grouping tokens arguments) :
    compiler.compile source arguments =
      (compiler.writeItems 1 grouping.items).map fun written =>
        (Assembly.ofWritten none written).sql := by
  rw [compile_eq, scanned, evaluate, grouping.pair?_eq]
  dsimp only
  rw [assemble]
  cases compiler.writeItems 1 grouping.items <;> rfl

theorem length_slots (grouping : Grouping tokens arguments) :
    (grouping.items.filterMap Item.slot?).length = arguments.length := by
  rw [Item.length_filterMap_slot?, grouping.flatMap_arguments_items]

end

/-- Two texts in a row compile to their two queries in a row, if no tag letter of the second follows
a placeholder of the first and no block reaches from one into the other. If either of them fails,
the first error is reported, at its position among the placeholders of both. -/
theorem compile_append {first second : Text} {firstArguments secondArguments : List Argument}
    (separate : Token.Separate first second)
    (settled : ¬ Token.LeavesOpen first ∨ '}' ∉ second)
    (firstCount : firstArguments.length = first.count '?')
    (secondCount : secondArguments.length = second.count '?') :
    compiler.compile (first ++ second) (firstArguments ++ secondArguments) =
      match compiler.compile first firstArguments, compiler.compile second secondArguments with
      | .error error, _ => .error error
      | .ok _, .error error => .error (error.shift (first.count '?'))
      | .ok sql, .ok rest => .ok (sql ++ rest) := by
  obtain ⟨firstGroups⟩ := Grouping.nonempty_of_scan firstCount
  obtain ⟨secondGroups⟩ := Grouping.nonempty_of_scan secondCount
  rw [compiler.compile_eq_of_grouping (Token.scan_append_of_settled separate settled)
      (firstGroups.append secondGroups),
    compiler.compile_eq_of_grouping rfl firstGroups,
    compiler.compile_eq_of_grouping rfl secondGroups,
    Grouping.items_append, writeItems_append, length_slots, firstCount, writeItems_shift]
  cases firstOutcome : compiler.writeItems 1 firstGroups.items with
  | error error => rfl
  | ok firstWritten =>
      cases secondOutcome : compiler.writeItems 1 secondGroups.items with
      | error error => rfl
      | ok secondWritten =>
          obtain ⟨-, rfl⟩ := (compiler.writeItems_eq_ok_iff _ _ _).mp firstOutcome
          obtain ⟨-, rfl⟩ := (compiler.writeItems_eq_ok_iff _ _ _).mp secondOutcome
          exact congrArg Except.ok (compiler.sql_ofWritten_append firstGroups secondGroups)

/-- The brace that the first text leaves open stays a stray one, since the second closes none. -/
theorem compile_append_across_open_brace :
    let first : Text := ['{', '?', '}', '{', 'x', '?']
    let second : Text := ['b', '?', 'd', '{']
    (Token.Separate first second ∧ (¬ Token.LeavesOpen first ∨ '}' ∉ second)) ∧
    ({} : Compiler).compile (first ++ second) ([.skip, .null] ++ [.int 7]) =
      .ok ['x', 'N', 'U', 'L', 'L', 'b', '7'] ∧
    ({} : Compiler).compile (first ++ second) ([.skip, .null] ++ [.collection []]) =
      .error (.unsupported 3 .integer (.kind .collection)) := by
  intro first second
  have separate : Token.Separate first second := by decide
  have settled : ¬ Token.LeavesOpen first ∨ '}' ∉ second := by decide
  have firstSql : ({} : Compiler).compile first [.skip, .null] =
      .ok ['x', 'N', 'U', 'L', 'L'] := by decide +kernel
  have secondSql : ({} : Compiler).compile second [.int 7] = .ok ['b', '7'] := by decide +kernel
  have secondError : ({} : Compiler).compile second [.collection []] =
      .error (.unsupported 1 .integer (.kind .collection)) := by decide +kernel
  refine ⟨⟨separate, settled⟩, ?_, ?_⟩
  · rw [compile_append {} separate settled rfl rfl, firstSql, secondSql]
    rfl
  · rw [compile_append {} separate settled rfl rfl, firstSql, secondError]
    rfl

end Compiler
end QueryTemplate
