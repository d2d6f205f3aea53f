import QueryTemplate.Text.Basic

/-! # Text measured in UTF-8 bytes

Limits on displayed text count bytes, but a cut never splits a character: `takeBytes` keeps the
longest run of whole leading characters that fits, and `shorten` marks the cut with three dots.
-/
namespace QueryTemplate.Text

/-- The number of bytes of the UTF-8 encoding. -/
def byteLength : Text → Nat
  | [] => 0
  | character :: rest => character.utf8Size + byteLength rest

@[simp] theorem byteLength_nil : byteLength [] = 0 := rfl

@[simp] theorem byteLength_cons (character : Char) (text : Text) :
    byteLength (character :: text) = character.utf8Size + byteLength text := rfl

/-- The longest run of whole leading characters that takes at most `limit` bytes. -/
def takeBytes : Nat → Text → Text
  | _, [] => []
  | limit, character :: rest =>
      if character.utf8Size ≤ limit then
        character :: takeBytes (limit - character.utf8Size) rest
      else []

def ellipsis : Text := ['.', '.', '.']

/-- The text itself when it fits the limit, and otherwise its leading characters and the
ellipsis. No limit fits everything. -/
def shorten (limit : Option Nat) (text : Text) : Text :=
  match limit with
  | none => text
  | some bytes => if byteLength text ≤ bytes then text else takeBytes bytes text ++ ellipsis

theorem byteLength_takeBytes_le (limit : Nat) (text : Text) :
    byteLength (takeBytes limit text) ≤ limit := by
  induction text generalizing limit with
  | nil => simp [takeBytes]
  | cons character rest induction =>
      simp only [takeBytes]
      split
      case isTrue fits =>
        have := induction (limit - character.utf8Size)
        simp only [byteLength_cons]
        omega
      case isFalse => simp

end QueryTemplate.Text
