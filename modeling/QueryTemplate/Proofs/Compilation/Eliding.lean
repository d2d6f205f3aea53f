import QueryTemplate.Compilation.Assembly

/-! # Assembling a query in place

A query can be assembled in one pass over its pieces that writes everything to the output at once.
At the start of a block the pass keeps the length of the output, and when a block that was skipped
ends, the output is cut back to that length. What it leaves is the assembled query.
-/
namespace QueryTemplate

/-- The output, the number of blocks dropped from it, and of an open block the length of the output
before it and whether it is skipped. -/
structure Elision where
  output : Text
  droppedBlocks : Nat
  block : Option (Nat × Bool)

namespace Elision

def initial : Elision := ⟨[], 0, none⟩

def step (state : Elision) : Written → Elision
  | .text characters => { state with output := state.output ++ characters }
  | .skipped =>
      match state.block with
      | some (start, _) => { state with block := some (start, true) }
      | none => { state with output := state.output ++ skipMarker }
  | .blockStart => { state with block := some (state.output.length, false) }
  | .blockEnd =>
      match state.block with
      | some (start, true) => ⟨state.output.take start, state.droppedBlocks + 1, none⟩
      | _ => { state with block := none }

def assembly (state : Elision) : Assembly := ⟨state.output, state.droppedBlocks⟩

/-- The state after a text outside of blocks and what has been read of an open block. -/
def within (before : Text) (droppedBlocks : Nat) : Option OpenBlock → Elision
  | none => ⟨before, droppedBlocks, none⟩
  | some block => ⟨before ++ block.text, droppedBlocks, some (before.length, block.isSkipped)⟩

theorem step_blockStart (before : Text) (droppedBlocks : Nat) (block : Option OpenBlock) :
    step (within before droppedBlocks block) .blockStart =
      within (within before droppedBlocks block).output droppedBlocks (some ⟨[], false⟩) := by
  cases block <;> simp [step, within]

/-- The end of a skipped block cuts back what was written for it. -/
theorem step_blockEnd (before : Text) (droppedBlocks : Nat) (block : OpenBlock) :
    step (within before droppedBlocks (some block)) .blockEnd =
      if block.isSkipped then within before (droppedBlocks + 1) none
      else within (before ++ block.text) droppedBlocks none := by
  obtain ⟨text, isSkipped⟩ := block
  cases isSkipped <;> simp [step, within]

/-- The pass over the pieces that follow an open block, if there is one, adds their query. -/
theorem assembly_foldl_step (written : List Written) (before : Text) (droppedBlocks : Nat)
    (block : Option OpenBlock) :
    (written.foldl step (within before droppedBlocks block)).assembly =
      ⟨before ++ (Assembly.ofWritten block written).sql,
        droppedBlocks + (Assembly.ofWritten block written).droppedBlocks⟩ := by
  -- each piece leads to a state of the same form, for other texts
  induction written generalizing before droppedBlocks block with
  | nil => cases block <;> simp [within, assembly, Assembly.ofWritten]
  | cons piece rest induction =>
      rw [List.foldl_cons]
      cases block with
      | none =>
          cases piece with
          | text characters =>
              exact (induction (before ++ characters) droppedBlocks none).trans
                (by simp [Assembly.ofWritten])
          | skipped =>
              exact (induction (before ++ skipMarker) droppedBlocks none).trans
                (by simp [Assembly.ofWritten])
          | blockStart => rw [step_blockStart, induction]; rfl
          | blockEnd => exact induction before droppedBlocks none
      | some block =>
          cases piece with
          | text characters =>
              have step_eq : step (within before droppedBlocks (some block)) (.text characters) =
                  within before droppedBlocks
                    (some { block with text := block.text ++ characters }) := by
                simp [step, within]
              rw [step_eq, induction, Assembly.ofWritten]
          | skipped => exact induction before droppedBlocks (some { block with isSkipped := true })
          | blockStart =>
              rw [step_blockStart, induction]
              simp [Assembly.ofWritten, within]
          | blockEnd =>
              rw [step_blockEnd, Assembly.ofWritten]
              split
              · rw [induction, Assembly.drop_sql, Assembly.drop_droppedBlocks]
                simp [Nat.add_assoc, Nat.add_comm 1]
              · rw [induction, Assembly.prepend_sql, List.append_assoc]
                rfl

end Elision

/-- A query is assembled as by one pass that cuts its output back at the end of a skipped block. -/
theorem Assembly.ofWritten_eq_foldl_step (written : List Written) :
    ofWritten none written = (written.foldl Elision.step Elision.initial).assembly := by
  have run := Elision.assembly_foldl_step written [] 0 none
  rw [List.nil_append, Nat.zero_add] at run
  exact run.symm

end QueryTemplate
