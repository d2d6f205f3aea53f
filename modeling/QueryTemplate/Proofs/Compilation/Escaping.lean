import QueryTemplate.Proofs.Compilation.Recording
import QueryTemplate.Proofs.Compilation.Regions
import QueryTemplate.Proofs.Rendering.Contents

/-! # The texts that are escaped

A compilation hands texts to the escaper placeholder by placeholder, through the first that is
refused: a text under the tags that quote it, the texts of a list, and before the value of an entry
the column it is assigned to. A list stops at its first member that is not written, before the
column of a skip and after the column of a value that is refused. Blocks play no part in it.
-/
namespace QueryTemplate

namespace Argument

/-- The texts that an entry of a list of values and assignments hands to the escaper. -/
def entryTexts : Key × Argument → List Text
  | (_, .skip) => []
  | (key, value) => columnTexts key ++ value.ownTexts

/-- The texts that an argument hands to the escaper under a tag. -/
def escapedTexts (tag : Tag) (argument : Argument) : List Text :=
  match tag, argument with
  | .auto, argument => argument.ownTexts
  | .identifier, .collection entries =>
      (through endsList entries).flatMap fun entry => entry.2.ownTexts
  | .identifier, argument => argument.ownTexts
  | .list, .collection entries => (through endsList entries).flatMap entryTexts
  | .list, _ => []
  | .integer, _ => []
  | .float, _ => []

theorem raws_renderScalar {quoted : Text → Fragment} (raws : ∀ raw, (quoted raw).raw? = some raw)
    (argument : Argument) :
    (renderScalar quoted argument).fragments.filterMap Fragment.raw? = argument.ownTexts := by
  rw [filterMap_renderScalar fun _ => rfl]
  simp only [raws, List.filterMap_some]

theorem raws_renderName (entry : Key × Argument) :
    (renderName entry).fragments.filterMap Fragment.raw? = entry.2.ownTexts := by
  rw [filterMap_renderName fun _ => rfl]
  simp only [Fragment.raw?, List.filterMap_some]

theorem raws_renderEntry (entry : Key × Argument) :
    (renderEntry entry).fragments.filterMap Fragment.raw? = entryTexts entry := by
  by_cases skip : entry.2 = .skip
  · obtain ⟨key, value⟩ := entry
    obtain rfl : value = .skip := skip
    rfl
  · rw [filterMap_renderEntry (fun _ => rfl) skip, entryTexts]
    · simp only [Fragment.raw?, List.filterMap_some]
    · exact skip

/-- The raw texts of a rendering are those that its argument hands to the escaper. -/
theorem raws_render (tag : Tag) (argument : Argument) :
    (argument.render tag).fragments.filterMap Fragment.raw? = argument.escapedTexts tag := by
  have bare : ∀ characters, (Fragment.bare characters).raw? = none := fun _ => rfl
  have literal (raw : Text) : (Fragment.literal raw).raw? = some raw := rfl
  have identifier (raw : Text) : (Fragment.identifier raw).raw? = some raw := rfl
  cases tag with
  | auto =>
      have value := raws_renderScalar literal argument
      cases argument with
      | skip => rfl
      | _ => exact value
  | integer => exact (argument.isBare_renderInteger.unlessSkip argument).filterMap bare
  | float => exact (argument.isBare_renderReal.unlessSkip argument).filterMap bare
  | identifier =>
      have value := raws_renderScalar identifier argument
      cases argument with
      | collection entries =>
          have read := filterMap_renderList bare ending_renderName entries
          simp only [raws_renderName] at read
          exact read
      | skip => rfl
      | _ => exact value
  | list =>
      cases argument with
      | collection entries =>
          have read := filterMap_renderList bare ending_renderEntry entries
          simp only [raws_renderEntry] at read
          exact read
      | _ => rfl

/-- The column of the member that is refused is escaped, and nothing after it. -/
example :
    (collection [(.name ['a'], .text ['x']), (.name ['7'], .text ['y']),
      (.name ['b'], .collection []), (.name ['c'], .text ['z'])]).escapedTexts .list =
      [['a'], ['x'], ['y'], ['b']] := by
  decide +kernel

end Argument

def Ending.isUnsupported : Ending → Bool
  | .unsupported _ => true
  | _ => false

/-- The argument of a slot is refused under its tag. -/
def isRefused (slot : Tag × Argument) : Bool := (slot.2.ending slot.1).isUnsupported

theorem Plan.raws_cons (piece : Piece) (plan : Plan) :
    (plan.cons piece).raws = piece.fragments.filterMap Fragment.raw? ++ plan.raws := by
  simp [raws]

/-- A plan escapes the texts of its arguments, through the first that is refused. -/
theorem Plan.raws_ofItems (position : Nat) (items : List Item) :
    (ofItems position items).raws =
      (through isRefused (items.filterMap Item.slot?)).flatMap
        fun slot => slot.2.escapedTexts slot.1 := by
  induction items generalizing position with
  | nil => rfl
  | cons item rest induction =>
      cases item with
      | placeholder tag argument =>
          have raws := argument.raws_render tag
          have ending := argument.ending_render tag
          rw [ofItems, Item.filterMap_slot?_placeholder, through, isRefused, ← ending]
          cases rendering : argument.render tag with
          | mk fragments ending =>
              rw [rendering] at raws
              cases ending with
              | unsupported found =>
                  rw [if_pos (by simp [Ending.isUnsupported]), List.flatMap_singleton, ← raws]
                  rfl
              | _ =>
                  rw [if_neg (by simp [Ending.isUnsupported]), List.flatMap_cons, ← raws,
                    ← induction (position + 1)]
                  exact raws_cons _ _
      | _ => exact (raws_cons _ _).trans (induction position)

theorem Plan.raws_make (tokens : List Token) (arguments : List Argument) :
    (make tokens arguments).raws =
      if arguments.length = tokens.countP Token.isPlaceholder then
        (through isRefused ((tokens.filterMap Token.tag?).zip arguments)).flatMap
          fun slot => slot.2.escapedTexts slot.1
      else [] := by
  by_cases count : arguments.length = tokens.countP Token.isPlaceholder
  · obtain ⟨items, rfl, rfl⟩ := Item.exists_items_iff.mp count
    rw [if_pos count, make_items, raws_ofItems, Item.filterMap_slot?_eq_zip]
  · rw [if_neg count, make_of_ne count]
    rfl

/-- A compilation hands to the escaper the texts of its arguments in order, through the first that
is refused, and none when there are not as many arguments as placeholders. -/
theorem Compiler.observe_escaped (compiler : Compiler) (template : Template)
    (arguments : List Argument) :
    (compiler.observe template arguments).result = compiler.compileTemplate template arguments ∧
      (compiler.observe template arguments).escaped =
        if arguments.length = template.placeholderCount then
          (through isRefused (template.slots arguments)).flatMap
            fun slot => slot.2.escapedTexts slot.1
        else [] := by
  rw [observe_eq, Plan.raws_make]
  exact ⟨rfl, rfl⟩

end QueryTemplate
