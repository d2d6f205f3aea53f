import QueryTemplate.Proofs.Rendering.Guards
import QueryTemplate.Proofs.Rendering.Sequence

/-! # Lists written in a loop

A list can be rendered and written in one loop over its entries. The loop carries the output and an
index, returns early at a skip and at a value that is refused, and puts a comma before every entry
but the first. It gives what the rendering of the list gives, and uses the escaper in the same way.
-/
namespace QueryTemplate

variable {m : Type → Type} [Monad m] (escape : Text → m Text) (quote : Char)

/-- Writes the fragments of a rendering, and gives a text, none for a skip, or what is refused. -/
def Rendering.write (rendering : Rendering) : m (Except Found (Option Text)) := do
  let text ← Fragment.writeAll escape quote rendering.fragments
  match rendering.ending with
  | .complete => return .ok (some text)
  | .skipped => return .ok none
  | .unsupported found => return .error found

/-- Writes a rendering behind an output. -/
def Rendering.writeAfter (output : Text) (rendering : Rendering) :
    m (Except Found (Option Text)) := do
  return (← rendering.write escape quote).map (Option.map (output ++ ·))

/-- Renderings with a comma in front of each. -/
def Rendering.commaLed : List Rendering → Rendering
  | [] => complete []
  | first :: rest => (complete [comma]).andThen (first.andThen (commaLed rest))

theorem Rendering.commaSeparated_cons (first : Rendering) (rest : List Rendering) :
    commaSeparated (first :: rest) = first.andThen (commaLed rest) := by
  induction rest generalizing first with
  | nil => rfl
  | cons second others induction => rw [commaSeparated_cons_cons, induction, commaLed]

namespace Argument

/-- The text of a value that is not quoted. -/
def bareText : Argument → Except Found Text
  | .null => .ok ['N', 'U', 'L', 'L']
  | .bool value => .ok [if value then '1' else '0']
  | .int value => .ok (Decimal.ofInt value.toInt)
  | .float value => if value.isFinite then .ok value.text else .error (.nonFinite value)
  | argument => .error (.kind argument.kind)

/-- The text of a single value, which is quoted as the given kind of fragment if it is text. -/
def writeScalar (quoted : Text → Fragment) : Argument → m (Except Found Text)
  | .text raw => do return .ok (← (quoted raw).write escape quote)
  | argument => return argument.bareText

/-- Writes the entries of a list, of which the first has the given index, behind an output. What
precedes the value of an entry is determined by its key. -/
def writeEntries (label : Key → List Fragment) (quoted : Text → Fragment) (output : Text)
    (index : Nat) : List (Key × Argument) → m (Except Found (Option Text))
  | [] => return .ok (some output)
  | (key, value) :: rest => do
      if value.isSkip then return .ok none
      let separated := if 0 < index then output ++ [',', ' '] else output
      let labelled := separated ++ (← Fragment.writeAll escape quote (label key))
      match ← value.writeScalar escape quote quoted with
      | .error found => return .error found
      | .ok written => writeEntries label quoted (labelled ++ written) (index + 1) rest

end Argument

section Laws

variable [LawfulMonad m]

theorem Fragment.writeAll_append (first second : List Fragment) :
    writeAll escape quote (first ++ second) = do
      let text ← writeAll escape quote first
      let others ← writeAll escape quote second
      return text ++ others := by
  induction first with
  | nil => simp [writeAll]
  | cons fragment rest induction =>
      simp only [List.cons_append, writeAll, induction, bind_assoc, pure_bind, List.append_assoc]

namespace Rendering

theorem writeAfter_nil (rendering : Rendering) :
    rendering.writeAfter escape quote [] = rendering.write escape quote := by
  obtain ⟨fragments, ending⟩ := rendering
  cases ending <;> simp [writeAfter, write, Except.map]

theorem writeAfter_complete (output : Text) (fragments : List Fragment) :
    (complete fragments).writeAfter escape quote output = do
      return .ok (some (output ++ (← Fragment.writeAll escape quote fragments))) := by
  simp [writeAfter, write, complete, Except.map]

theorem writeAfter_skipped (output : Text) :
    skipped.writeAfter escape quote output = pure (.ok none) := by
  simp [writeAfter, write, skipped, Fragment.writeAll, Except.map]

theorem writeAfter_unsupported (output : Text) (found : Found) :
    (unsupported found).writeAfter escape quote output = pure (.error found) := by
  simp [writeAfter, write, unsupported, Fragment.writeAll, Except.map]

/-- Fragments are written before the rendering that follows them. -/
theorem writeAfter_complete_andThen (output : Text) (fragments : List Fragment)
    (second : Rendering) :
    ((complete fragments).andThen second).writeAfter escape quote output =
      Fragment.writeAll escape quote fragments >>= fun text =>
        second.writeAfter escape quote (output ++ text) := by
  obtain ⟨others, ending⟩ := second
  rw [complete_andThen, writeAfter, write, Fragment.writeAll_append]
  cases ending <;> simp [writeAfter, write, Except.map]

end Rendering

namespace Argument

theorem renderBare_eq (argument : Argument) :
    argument.renderBare =
      match argument.bareText with
      | .ok written => .bare written
      | .error found => .unsupported found := by
  cases argument with
  | float value =>
      rw [renderBare, renderFloat, bareText]
      split <;> rfl
  | _ => rfl

theorem writeAfter_renderBare_andThen (output : Text) (value : Argument) (second : Rendering) :
    (value.renderBare.andThen second).writeAfter escape quote output =
      match value.bareText with
      | .error found => pure (.error found)
      | .ok written => second.writeAfter escape quote (output ++ written) := by
  rw [renderBare_eq]
  cases value.bareText with
  | error found => exact Rendering.writeAfter_unsupported escape quote output found
  | ok written =>
      apply (Rendering.writeAfter_complete_andThen escape quote output [.bare written] second).trans
      simp [Fragment.writeAll, Fragment.write]

/-- A value is written before what follows it, which is not reached if the value is refused. -/
theorem writeAfter_renderScalar_andThen (quoted : Text → Fragment) (output : Text)
    (value : Argument) (second : Rendering) :
    ((renderScalar quoted value).andThen second).writeAfter escape quote output =
      value.writeScalar escape quote quoted >>= fun
        | .error found => pure (.error found)
        | .ok written => second.writeAfter escape quote (output ++ written) := by
  have bare := writeAfter_renderBare_andThen escape quote output value second
  cases value with
  | text raw =>
      rw [renderScalar, Rendering.writeAfter_complete_andThen]
      simp [writeScalar, Fragment.writeAll]
  | _ =>
      rw [writeScalar, pure_bind]
      · exact bare
      · simp

/-- An entry of a list, with what its key puts in front of its value. -/
def renderLabelled (label : Key → List Fragment) (quoted : Text → Fragment)
    (entry : Key × Argument) : Rendering :=
  entry.2.unlessSkip ((Rendering.complete (label entry.1)).andThen (renderScalar quoted entry.2))

section

variable {label : Key → List Fragment} {quoted : Text → Fragment}

/-- One turn of the loop: an entry is written before what follows, if it is written at all. -/
theorem writeEntries_cons {rest : List (Key × Argument)} {following : Rendering}
    (writes : ∀ output index, writeEntries escape quote label quoted output (index + 1) rest =
      following.writeAfter escape quote output)
    (output : Text) (index : Nat) (entry : Key × Argument) :
    writeEntries escape quote label quoted output index (entry :: rest) =
      ((renderLabelled label quoted entry).andThen following).writeAfter escape quote
        (if 0 < index then output ++ [',', ' '] else output) := by
  obtain ⟨key, value⟩ := entry
  by_cases skip : value = .skip
  · subst skip
    exact (Rendering.writeAfter_skipped escape quote _).symm
  · have notSkip : ¬ value.isSkip = true := (not_congr (isSkip_iff value)).mpr skip
    rw [renderLabelled, unlessSkip_of_ne_skip skip, Rendering.andThen_assoc,
      Rendering.writeAfter_complete_andThen, writeEntries, if_neg notSkip]
    simp only [writeAfter_renderScalar_andThen, writes]

/-- The loop gives the list of the entries, with a comma in front of each if some are before. -/
theorem writeEntries_eq_commaLed (entries : List (Key × Argument)) (output : Text) (index : Nat) :
    writeEntries escape quote label quoted output (index + 1) entries =
      (Rendering.commaLed (entries.map (renderLabelled label quoted))).writeAfter escape quote
        output := by
  induction entries generalizing output index with
  | nil => simp [writeEntries, Rendering.commaLed, Rendering.writeAfter_complete, Fragment.writeAll]
  | cons entry rest induction =>
      rw [writeEntries_cons escape quote induction, if_pos (Nat.succ_pos index), List.map_cons,
        Rendering.commaLed, Rendering.writeAfter_complete_andThen]
      simp [Fragment.writeAll, Fragment.write, Rendering.comma]

theorem writeEntries_eq_commaSeparated (entries : List (Key × Argument)) :
    writeEntries escape quote label quoted [] 0 entries =
      (Rendering.commaSeparated (entries.map (renderLabelled label quoted))).write escape
        quote := by
  rw [← Rendering.writeAfter_nil]
  cases entries with
  | nil => simp [writeEntries, Rendering.writeAfter_complete, Fragment.writeAll]
  | cons entry rest =>
      rw [writeEntries_cons escape quote (writeEntries_eq_commaLed escape quote rest),
        if_neg (Nat.lt_irrefl 0), List.map_cons, Rendering.commaSeparated_cons]

end

/-- The lists of identifiers and of values and assignments are what the loop over their entries
gives, in any monad in which texts are escaped. -/
theorem write_render_collection (entries : List (Key × Argument)) :
    ((collection entries).render .identifier).write escape quote =
        writeEntries escape quote (fun _ => []) .identifier [] 0 entries ∧
      ((collection entries).render .list).write escape quote =
        writeEntries escape quote entryLabel .literal [] 0 entries := by
  have names : renderLabelled (fun _ => []) .identifier = renderName := by
    funext entry
    exact congrArg entry.2.unlessSkip (Rendering.complete_nil_andThen _)
  rw [writeEntries_eq_commaSeparated, writeEntries_eq_commaSeparated, names]
  exact ⟨rfl, rfl⟩

end Argument

end Laws
end QueryTemplate
