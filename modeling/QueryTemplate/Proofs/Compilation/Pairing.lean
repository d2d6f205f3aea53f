import QueryTemplate.Compilation.Plan
import QueryTemplate.Proofs.Template.Atoms

/-! # Tokens paired with arguments

The items of tokens and arguments are the list that reads as the tokens when the arguments are
forgotten and as the arguments when all else is: the placeholder at a position has the argument at
that position. There is such a list exactly when the numbers agree.
-/
namespace QueryTemplate.Item

def token : Item → Token
  | .text characters => .text characters
  | .placeholder tag _ => .placeholder tag
  | .blockStart => .blockStart
  | .blockEnd => .blockEnd

def arguments : Item → List Argument
  | .placeholder _ argument => [argument]
  | _ => []

def slot? : Item → Option (Tag × Argument)
  | .placeholder tag argument => some (tag, argument)
  | _ => none

/-- The item, with every character of a literal text by itself. -/
def atoms : Item → List Item
  | .text characters => characters.map fun character => .text [character]
  | item => [item]

/-- Items are read off as the tokens and as the arguments they pair. -/
theorem pair?_eq_some_iff {tokens : List Token} {arguments : List Argument} {items : List Item} :
    pair? tokens arguments = some items ↔
      items.map token = tokens ∧ items.flatMap Item.arguments = arguments := by
  constructor
  · intro paired
    induction tokens, arguments using pair?.induct generalizing items with
    | case1 =>
        obtain rfl : [] = items := by simpa [pair?] using paired
        exact ⟨rfl, rfl⟩
    | case2 argument others => simp [pair?] at paired
    | case3 tag rest => simp [pair?] at paired
    | _ =>
        rename_i induction
        obtain ⟨restItems, restPaired, rfl⟩ := Option.map_eq_some_iff.mp paired
        obtain ⟨tokensEq, argumentsEq⟩ := induction restPaired
        simp [token, Item.arguments, tokensEq, argumentsEq]
  · rintro ⟨rfl, rfl⟩
    induction items with
    | nil => rfl
    | cons item rest induction =>
        cases item <;> simp [token, Item.arguments, pair?, induction]

theorem pair?_eq_none_iff {tokens : List Token} {arguments : List Argument} :
    pair? tokens arguments = none ↔ arguments.length ≠ tokens.countP Token.isPlaceholder := by
  induction tokens, arguments using pair?.induct with
  | case1 => simp [pair?]
  | case2 argument others => simp [pair?]
  | case3 tag rest => simp [pair?, List.countP_cons, Token.isPlaceholder]
  | case4 tag rest argument others induction =>
      simp [pair?, List.countP_cons, Token.isPlaceholder, induction]
  | _ =>
      rename_i induction
      simp [pair?, Token.isPlaceholder, induction]

theorem pair?_items (items : List Item) :
    pair? (items.map token) (items.flatMap Item.arguments) = some items :=
  pair?_eq_some_iff.mpr ⟨rfl, rfl⟩

/-- There is an argument for each placeholder exactly when items read as both. -/
theorem exists_items_iff {tokens : List Token} {arguments : List Argument} :
    arguments.length = tokens.countP Token.isPlaceholder ↔
      ∃ items : List Item, items.map token = tokens ∧ items.flatMap Item.arguments = arguments := by
  simp only [← pair?_eq_some_iff]
  rw [← Option.ne_none_iff_exists', ne_eq, pair?_eq_none_iff, not_not]

theorem filterMap_slot?_placeholder (tag : Tag) (argument : Argument) (rest : List Item) :
    (.placeholder tag argument :: rest).filterMap slot? =
      (tag, argument) :: rest.filterMap slot? :=
  rfl

/-- The slots of items are the tags in order, each with the argument of its position. -/
theorem filterMap_slot?_eq_zip (items : List Item) :
    items.filterMap slot? =
      ((items.map token).filterMap Token.tag?).zip (items.flatMap arguments) := by
  induction items with
  | nil => rfl
  | cons item rest induction =>
      cases item <;>
        simp [List.filterMap_cons, slot?, token, Token.tag?, arguments, induction]

theorem length_filterMap_slot? (items : List Item) :
    (items.filterMap slot?).length = (items.flatMap arguments).length := by
  induction items with
  | nil => rfl
  | cons item rest induction =>
      cases item <;>
        simp [List.filterMap_cons, slot?, arguments, induction, Nat.add_comm]

theorem map_token_atoms (item : Item) : item.atoms.map token = item.token.atoms := by
  cases item <;> simp [atoms, token, Token.atoms]

theorem arguments_atoms (item : Item) : item.atoms.flatMap Item.arguments = item.arguments := by
  cases item <;> simp [atoms, Item.arguments]

/-- The items of atoms are the atoms of the items. -/
theorem pair?_atoms (tokens : List Token) (arguments : List Argument) :
    pair? (tokens.flatMap Token.atoms) arguments =
      (pair? tokens arguments).map fun items => items.flatMap atoms := by
  cases paired : pair? tokens arguments with
  | some items =>
      obtain ⟨rfl, rfl⟩ := pair?_eq_some_iff.mp paired
      rw [Option.map_some, pair?_eq_some_iff, List.map_flatMap, List.flatMap_map,
        List.flatMap_assoc]
      simp only [map_token_atoms, arguments_atoms, and_self]
  | none =>
      rw [pair?_eq_none_iff, ← Token.countP_atoms fun _ => rfl, ← pair?_eq_none_iff] at paired
      rw [paired, Option.map_none]

end QueryTemplate.Item

namespace QueryTemplate.Plan

theorem make_items (items : List Item) :
    make (items.map Item.token) (items.flatMap Item.arguments) = ofItems 1 items := by
  rw [make, Item.pair?_items]

theorem make_of_ne {tokens : List Token} {arguments : List Argument}
    (different : arguments.length ≠ tokens.countP Token.isPlaceholder) :
    make tokens arguments =
      ⟨[], some ⟨[], .mismatch (tokens.countP Token.isPlaceholder) arguments.length⟩⟩ := by
  rw [make, Item.pair?_eq_none_iff.mpr different]

end QueryTemplate.Plan
