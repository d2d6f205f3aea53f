import QueryTemplate.Proofs.Compilation.Evaluation
import QueryTemplate.Proofs.Rendering.Refusal

/-! # Collections are written entry by entry

Under the tags of identifiers and lists a collection gives the texts of its entries with commas
between them. The text of an entry is what its value gives by itself, under the tag of lists after
the column it is assigned to. The first value that cannot stand in a list decides for all: a skip
skips the placeholder, and any other is reported, without a text of the entries before it.
-/
namespace QueryTemplate

namespace Argument

/-- The value cannot stand in a list: it asks to skip, or is a collection or a float that is not
finite. -/
def breaksList : Argument → Bool
  | .skip => true
  | .collection _ => true
  | .float value => !value.isFinite
  | _ => false

theorem isComplete_valueEnding (argument : Argument) :
    argument.valueEnding.isComplete = !argument.breaksList := by
  cases argument with
  | float value =>
      rw [valueEnding, endingOfFloat, breaksList, Bool.not_not]
      cases value.isFinite <;> rfl
  | _ => rfl

theorem valueEnding_of_not_breaksList {argument : Argument}
    (fits : argument.breaksList = false) : argument.valueEnding = .complete := by
  rw [← Ending.isComplete_iff, isComplete_valueEnding, fits, Bool.not_false]

theorem ne_skip_of_not_breaksList {argument : Argument} (fits : argument.breaksList = false) :
    argument ≠ .skip := by
  rintro rfl
  cases fits

/-- A list ends as its first value that cannot stand in it. -/
theorem listEnding_eq_find? (entries : List (Key × Argument)) :
    listEnding entries =
      match entries.find? fun entry => entry.2.breaksList with
      | some entry => entry.2.valueEnding
      | none => .complete := by
  have breaks : ((fun ending : Ending => !ending.isComplete) ∘
      fun entry : Key × Argument => entry.2.valueEnding) = fun entry => entry.2.breaksList := by
    funext entry
    rw [Function.comp_apply, isComplete_valueEnding, Bool.not_not]
  rw [listEnding, List.find?_map, breaks]
  cases entries.find? fun entry => entry.2.breaksList <;> rfl

end Argument

namespace Compiler

variable (compiler : Compiler)

theorem textOf_append (first second : List Fragment) :
    compiler.textOf (first ++ second) = compiler.textOf first ++ compiler.textOf second :=
  List.flatMap_append

/-- The text of a complete list are the texts of its members, with commas between them. -/
theorem textOf_commaSeparated {renderings : List Rendering}
    (complete : ∀ rendering ∈ renderings, rendering.ending = .complete) :
    compiler.textOf (Rendering.commaSeparated renderings).fragments =
      List.intercalate [',', ' ']
        (renderings.map fun rendering => compiler.textOf rendering.fragments) := by
  induction renderings with
  | nil => rfl
  | cons first rest induction =>
      rw [List.forall_mem_cons] at complete
      have others := induction complete.2
      cases rest with
      | nil =>
          rw [Rendering.commaSeparated_singleton, Rendering.andThen_of_complete complete.1,
            textOf_append, List.map_singleton, List.intercalate_singleton]
          exact List.append_nil _
      | cons second more =>
          rw [Rendering.commaSeparated_cons_cons, Rendering.andThen_of_complete complete.1,
            Rendering.complete_andThen, textOf_append, textOf_append, others]
          simp only [List.map_cons, List.intercalate_cons_cons, List.append_assoc]
          rfl

/-- What precedes the value of an entry in a list: the quoted column and an equals sign, and nothing
if the key is positional. -/
def columnLabel (key : Key) : Text :=
  match key with
  | .index _ => []
  | .name column =>
      if key.isPositional then []
      else Fragment.quoteIdentifier compiler.quote (compiler.escaper column) ++ [' ', '=', ' ']

theorem textOf_entryLabel (key : Key) :
    compiler.textOf (Argument.entryLabel key) = compiler.columnLabel key := by
  cases key with
  | index position => rfl
  | name column =>
      simp only [Argument.entryLabel, columnLabel]
      split <;> rfl

/-- The text that an entry of a collection gives under a tag: under the tag of lists what its value
gives without a tag, behind its column, and otherwise what its value gives under the tag itself. -/
def WritesEntry (tag : Tag) (entry : Key × Argument) (text : Text) : Prop :=
  match tag with
  | .list =>
      ∃ value, compiler.rendered .auto entry.2 = .ok (some value) ∧
        text = compiler.columnLabel entry.1 ++ value
  | _ => compiler.rendered tag entry.2 = .ok (some text)

theorem rendered_of_renderScalar {tag : Tag} {quoted : Text → Fragment} {argument : Argument}
    (render_eq :
      argument.render tag = argument.unlessSkip (Argument.renderScalar quoted argument))
    (fits : argument.breaksList = false) :
    compiler.rendered tag argument =
      .ok (some (compiler.textOf (Argument.renderScalar quoted argument).fragments)) := by
  have ending_eq : argument.ending tag = .complete := by
    rw [← Argument.ending_render, render_eq, Argument.ending_renderScalar,
      Argument.valueEnding_of_not_breaksList fits]
  rw [rendered_eq, ending_eq, render_eq,
    Argument.unlessSkip_of_ne_skip (Argument.ne_skip_of_not_breaksList fits)]

theorem writesEntry_identifier {entry : Key × Argument} (fits : entry.2.breaksList = false) :
    compiler.WritesEntry .identifier entry
      (compiler.textOf (Argument.renderName entry).fragments) := by
  rw [Argument.renderName,
    Argument.unlessSkip_of_ne_skip (Argument.ne_skip_of_not_breaksList fits)]
  apply compiler.rendered_of_renderScalar _ fits
  obtain ⟨key, value⟩ := entry
  cases value with
  | collection entries => exact absurd fits (by simp [Argument.breaksList])
  | _ => rfl

theorem writesEntry_list {entry : Key × Argument} (fits : entry.2.breaksList = false) :
    compiler.WritesEntry .list entry
      (compiler.textOf (Argument.renderEntry entry).fragments) := by
  refine ⟨compiler.textOf (Argument.renderScalar .literal entry.2).fragments, ?_, ?_⟩
  · exact compiler.rendered_of_renderScalar (Argument.render_auto entry.2) fits
  · rw [Argument.renderEntry,
      Argument.unlessSkip_of_ne_skip (Argument.ne_skip_of_not_breaksList fits),
      Rendering.complete_andThen, textOf_append, textOf_entryLabel]

/-- Under both tags a collection is a list of one rendering for each entry. -/
theorem exists_rendering {tag : Tag} (takesList : tag = .identifier ∨ tag = .list) :
    ∃ rendering : Key × Argument → Rendering,
      (∀ entries, (Argument.collection entries).render tag =
        Rendering.commaSeparated (entries.map rendering)) ∧
      (∀ entry, (rendering entry).ending = entry.2.valueEnding) ∧
      ∀ entry, entry.2.breaksList = false →
        compiler.WritesEntry tag entry (compiler.textOf (rendering entry).fragments) := by
  rcases takesList with rfl | rfl
  · exact ⟨Argument.renderName, fun _ => rfl, Argument.ending_renderName,
      fun _ => compiler.writesEntry_identifier⟩
  · exact ⟨Argument.renderEntry, fun _ => rfl, Argument.ending_renderEntry,
      fun _ => compiler.writesEntry_list⟩

/-- What the placeholder at a position of a template gives for its argument. -/
def renderAt (position : Nat) (tag : Tag) (argument : Argument) : Except Error (Option Text) :=
  (compiler.rendered tag argument).mapError (.unsupported position tag)

/-- The items of a template are written by what each placeholder gives at its position. -/
theorem writeItems_placeholder (position : Nat) (tag : Tag) (argument : Argument)
    (rest : List Item) :
    compiler.writeItems position (.placeholder tag argument :: rest) =
      (compiler.renderAt position tag argument).bind fun text? =>
        (compiler.writeItems (position + 1) rest).map (writtenOf text? :: ·) := by
  rw [writeItems, renderAt]
  cases compiler.rendered tag argument <;> rfl

/-- A collection whose values can all stand in a list gives the texts of its entries, with commas
between them. Otherwise the first value that cannot gives a skip or an error that says what it is,
and there is no text. -/
theorem renderAt_collection (position : Nat) {tag : Tag}
    (takesList : tag = .identifier ∨ tag = .list) (entries : List (Key × Argument)) :
    match entries.find? fun entry => entry.2.breaksList with
    | none =>
        ∃ texts, List.Forall₂ (compiler.WritesEntry tag) entries texts ∧
          compiler.renderAt position tag (.collection entries) =
            .ok (some (List.intercalate [',', ' '] texts))
    | some (_, .skip) => compiler.renderAt position tag (.collection entries) = .ok none
    | some (_, .float value) =>
        compiler.renderAt position tag (.collection entries) =
            .error (.unsupported position tag (.nonFinite value)) ∧
          Argument.floatRefusal? value = some (Found.nonFinite value).description
    | some (_, value) =>
        compiler.renderAt position tag (.collection entries) =
            .error (.unsupported position tag (.kind value.kind)) ∧
          (Found.kind value.kind).description =
            ['c', 'o', 'l', 'l', 'e', 'c', 't', 'i', 'o', 'n'] := by
  obtain ⟨rendering, render_eq, ending_eq, writes⟩ := compiler.exists_rendering takesList
  have listEnding_eq : (Argument.collection entries).ending tag = Argument.listEnding entries := by
    rw [← Argument.ending_render, render_eq, Argument.ending_renderList ending_eq]
  rw [Argument.listEnding_eq_find?] at listEnding_eq
  rw [renderAt, rendered_eq, listEnding_eq]
  cases first : entries.find? fun entry => entry.2.breaksList with
  | none =>
      have fits : ∀ entry ∈ entries, entry.2.breaksList = false := by
        intro entry member
        rw [← Bool.not_eq_true]
        exact List.find?_eq_none.mp first entry member
      have complete : ∀ member ∈ entries.map rendering, member.ending = .complete := by
        intro member found
        obtain ⟨entry, inside, rfl⟩ := List.mem_map.mp found
        rw [ending_eq, Argument.valueEnding_of_not_breaksList (fits entry inside)]
      refine ⟨entries.map fun entry => compiler.textOf (rendering entry).fragments, ?_, ?_⟩
      · rw [List.forall₂_map_right_iff, List.forall₂_same]
        exact fun entry member => writes entry (fits entry member)
      · rw [render_eq, compiler.textOf_commaSeparated complete, List.map_map]
        rfl
  | some entry =>
      have breaks := List.find?_some first
      obtain ⟨key, value⟩ := entry
      cases value with
      | skip => rfl
      | collection inner => exact ⟨rfl, rfl⟩
      | float value =>
          have infinite : ¬ value.isFinite = true := by simpa [Argument.breaksList] using breaks
          have refused : Argument.endingOfFloat value = .unsupported (.nonFinite value) :=
            if_neg infinite
          constructor
          · simp only [Argument.valueEnding, refused]
            rfl
          · rw [← Argument.description?_endingOfFloat, refused]
            rfl
      | _ => simp [Argument.breaksList] at breaks

/-- Columns are written for names that are no numerals. A collection within is reported before the
skip after it, and a skip goes before a collection after it. -/
theorem renderAt_collection_of_mixed_entries :
    let fitting : List (Key × Argument) :=
      [(.name ['k'], .text ['\'']), (.name ['7'], .int 5), (.index 0, .null)]
    let skip : Key × Argument := (.name ['s'], .skip)
    let nested : Key × Argument := (.name ['n'], .collection [])
    let infinite : Key × Argument := (.name ['i'], .float (.infinite true))
    let compiler : Compiler := {}
    (∃ texts, List.Forall₂ (compiler.WritesEntry .list) fitting texts ∧
      compiler.renderAt 2 .list (.collection fitting) =
        .ok (some (List.intercalate [',', ' '] texts))) ∧
    compiler.renderAt 2 .list (.collection fitting) =
      .ok (some ['\x60', 'k', '\x60', ' ', '=', ' ', '\'', '\\', '\'', '\'', ',', ' ', '5', ',',
        ' ', 'N', 'U', 'L', 'L']) ∧
    compiler.renderAt 2 .identifier (.collection (fitting ++ [skip, nested])) = .ok none ∧
    (compiler.renderAt 2 .list (.collection (fitting ++ [nested, skip])) =
        .error (.unsupported 2 .list (.kind .collection)) ∧
      (Found.kind .collection).description =
        ['c', 'o', 'l', 'l', 'e', 'c', 't', 'i', 'o', 'n']) ∧
    compiler.renderAt 2 .identifier (.collection (infinite :: fitting)) =
        .error (.unsupported 2 .identifier (.nonFinite (.infinite true))) ∧
      some (.ofString "non-finite float -inf") =
        some (Found.nonFinite (.infinite true)).description := by
  intro fitting skip nested infinite compiler
  exact ⟨compiler.renderAt_collection 2 (.inr rfl) fitting, by decide +kernel,
    compiler.renderAt_collection 2 (.inl rfl) (fitting ++ [skip, nested]),
    compiler.renderAt_collection 2 (.inr rfl) (fitting ++ [nested, skip]),
    compiler.renderAt_collection 2 (.inl rfl) (infinite :: fitting)⟩

end Compiler
end QueryTemplate
