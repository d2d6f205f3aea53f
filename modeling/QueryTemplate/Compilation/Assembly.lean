import QueryTemplate.Text.Basic

/-! # Assembling a query

The written pieces of a query are joined. A block in which a placeholder was skipped is dropped,
any other block loses only its braces, and a skip outside blocks leaves a marker.
-/
namespace QueryTemplate

/-- A part of a query whose text is known. -/
inductive Written
  | text (characters : Text)
  | skipped
  | blockStart
  | blockEnd
  deriving DecidableEq

/-- What stands in a query for a skipped placeholder outside blocks. -/
def skipMarker : Text := ['_', '_', '-', '-', '!', '!', '-', '-', '_', '_']

/-- A query and the number of blocks dropped from it. -/
structure Assembly where
  sql : Text
  droppedBlocks : Nat
  deriving DecidableEq

/-- The part of an open block that has been read. -/
structure OpenBlock where
  text : Text
  isSkipped : Bool

namespace Assembly

def prepend (text : Text) (assembly : Assembly) : Assembly :=
  { assembly with sql := text ++ assembly.sql }

@[simp] theorem prepend_sql (text : Text) (assembly : Assembly) :
    (prepend text assembly).sql = text ++ assembly.sql := rfl

@[simp] theorem prepend_droppedBlocks (text : Text) (assembly : Assembly) :
    (prepend text assembly).droppedBlocks = assembly.droppedBlocks := rfl

def drop (assembly : Assembly) : Assembly :=
  { assembly with droppedBlocks := assembly.droppedBlocks + 1 }

@[simp] theorem drop_sql (assembly : Assembly) : (drop assembly).sql = assembly.sql := rfl

@[simp] theorem drop_droppedBlocks (assembly : Assembly) :
    (drop assembly).droppedBlocks = assembly.droppedBlocks + 1 := rfl

/-- The query of the pieces that follow an open block, if there is one. -/
def ofWritten : Option OpenBlock → List Written → Assembly
  | none, [] => ⟨[], 0⟩
  | none, .text characters :: rest => (ofWritten none rest).prepend characters
  | none, .skipped :: rest => (ofWritten none rest).prepend skipMarker
  | none, .blockStart :: rest => ofWritten (some ⟨[], false⟩) rest
  | none, .blockEnd :: rest => ofWritten none rest
  | some block, [] => ⟨block.text, 0⟩
  | some block, .text characters :: rest =>
      ofWritten (some { block with text := block.text ++ characters }) rest
  | some block, .skipped :: rest => ofWritten (some { block with isSkipped := true }) rest
  | some block, .blockStart :: rest => (ofWritten (some ⟨[], false⟩) rest).prepend block.text
  | some block, .blockEnd :: rest =>
      if block.isSkipped then (ofWritten none rest).drop
      else (ofWritten none rest).prepend block.text

end Assembly
end QueryTemplate
