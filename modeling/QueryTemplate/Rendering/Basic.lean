import QueryTemplate.Error
import QueryTemplate.Rendering.Fragment

/-! # Renderings

A rendering is what an argument contributes under a tag: fragments, and how they end. Only a
complete rendering is written into the query, but the fragments of any rendering reach the escaper.
-/
namespace QueryTemplate

inductive Ending
  | complete
  /-- The argument asks to skip. -/
  | skipped
  /-- The argument, or one of its members, cannot be written. -/
  | unsupported (found : Found)
  deriving DecidableEq

structure Rendering where
  fragments : List Fragment
  ending : Ending
  deriving DecidableEq

namespace Rendering

/-- Fragments that are all there is. -/
def complete (fragments : List Fragment) : Rendering := ⟨fragments, .complete⟩

def skipped : Rendering := ⟨[], .skipped⟩

def unsupported (found : Found) : Rendering := ⟨[], .unsupported found⟩

def bare (text : Text) : Rendering := complete [.bare text]

/-- One rendering and then another, which is reached only if the first is complete. -/
def andThen (first second : Rendering) : Rendering :=
  match first.ending with
  | .complete => ⟨first.fragments ++ second.fragments, second.ending⟩
  | _ => first

@[simp] theorem complete_andThen (fragments : List Fragment) (second : Rendering) :
    (complete fragments).andThen second = ⟨fragments ++ second.fragments, second.ending⟩ := rfl

@[simp] theorem skipped_andThen (second : Rendering) : skipped.andThen second = skipped := rfl

@[simp] theorem unsupported_andThen (found : Found) (second : Rendering) :
    (unsupported found).andThen second = unsupported found := rfl

def sequence (renderings : List Rendering) : Rendering := renderings.foldr andThen (complete [])

/-- Renderings with a comma between each two. -/
def commaSeparated (renderings : List Rendering) : Rendering :=
  sequence (renderings.intersperse (bare [',', ' ']))

end Rendering
end QueryTemplate
