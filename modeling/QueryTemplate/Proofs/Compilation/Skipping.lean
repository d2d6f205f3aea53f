import QueryTemplate.Proofs.Compilation.Collections

/-! # Skips among the values of a collection

A collection with a skip among its values gives no text. It is skipped if every value before the
skip can stand in a list, and reports the first value that cannot if there is one. So the order of
the entries decides between the two exactly when some value is neither a skip nor fit for a list.
-/
namespace QueryTemplate

namespace Argument

theorem ending_collection {tag : Tag} (takesList : tag = .identifier ∨ tag = .list)
    (entries : List (Key × Argument)) : (collection entries).ending tag = listEnding entries := by
  rcases takesList with rfl | rfl <;> rfl

/-- A list is skipped when nothing in it is refused before a skip. -/
theorem listEnding_eq_skipped_iff (entries : List (Key × Argument)) :
    listEnding entries = .skipped ↔
      ∃ before key after, entries = before ++ (key, .skip) :: after ∧
        ∀ entry ∈ before, entry.2.breaksList = false := by
  rw [listEnding_eq_find?]
  constructor
  · intro skipped
    cases first : entries.find? fun entry => entry.2.breaksList with
    | none => simp [first] at skipped
    | some entry =>
        rw [first] at skipped
        obtain ⟨-, before, after, split, fits⟩ := List.find?_eq_some_iff_append.mp first
        obtain ⟨key, value⟩ := entry
        obtain rfl := eq_skip_of_valueEnding skipped
        exact ⟨before, key, after, split, fun entry member => by simpa using fits entry member⟩
  · rintro ⟨before, key, after, rfl, fits⟩
    have first : (before ++ (key, .skip) :: after).find? (fun entry => entry.2.breaksList) =
        some (key, .skip) :=
      List.find?_eq_some_iff_append.mpr
        ⟨rfl, before, after, rfl, fun entry member => by simpa using fits entry member⟩
    rw [first]
    rfl

theorem listEnding_ne_complete_of_skip {entries : List (Key × Argument)}
    (skips : ∃ entry ∈ entries, entry.2 = .skip) : listEnding entries ≠ .complete := by
  obtain ⟨entry, member, skip⟩ := skips
  rw [listEnding_eq_find?]
  cases first : entries.find? fun entry => entry.2.breaksList with
  | none =>
      have fits := List.find?_eq_none.mp first entry member
      simp [skip, breaksList] at fits
  | some other =>
      have breaks := List.find?_some first
      simp only [ne_eq, ← Ending.isComplete_iff, isComplete_valueEnding, breaks]
      decide

/-- A list with a skip is skipped in every order of its entries when all else fits, and only then:
with a value that is refused in front it is not. -/
theorem listEnding_eq_skipped_of_perm_iff {entries : List (Key × Argument)}
    (skips : ∃ entry ∈ entries, entry.2 = .skip) :
    (∀ permuted, entries.Perm permuted → listEnding permuted = .skipped) ↔
      ∀ entry ∈ entries, entry.2 ≠ .skip → entry.2.breaksList = false := by
  constructor
  · intro everyOrder entry member notSkip
    obtain ⟨before, after, rfl⟩ := List.append_of_mem member
    have skipped := everyOrder (entry :: (before ++ after)) List.perm_middle
    obtain ⟨earlier, key, later, split, fits⟩ := (listEnding_eq_skipped_iff _).mp skipped
    cases earlier with
    | nil =>
        rw [List.nil_append, List.cons.injEq] at split
        exact absurd (congrArg Prod.snd split.1) notSkip
    | cons first others =>
        rw [List.cons_append, List.cons.injEq] at split
        rw [split.1]
        exact fits first List.mem_cons_self
  · intro fits permuted permutation
    have incomplete : listEnding permuted ≠ .complete := by
      obtain ⟨entry, member, skip⟩ := skips
      exact listEnding_ne_complete_of_skip ⟨entry, permutation.mem_iff.mp member, skip⟩
    obtain ⟨entry, member, same⟩ := exists_of_listEnding incomplete
    by_cases skip : entry.2 = .skip
    · rw [← same, skip]
      rfl
    · have complete :=
        valueEnding_of_not_breaksList (fits entry (permutation.mem_iff.mpr member) skip)
      exact absurd (same.symm.trans complete) incomplete

end Argument

namespace Compiler

variable (compiler : Compiler)

/-- What a placeholder gives is decided by how its rendering ends. -/
theorem renderAt_eq (position : Nat) (tag : Tag) (argument : Argument) :
    compiler.renderAt position tag argument =
      match argument.ending tag with
      | .complete => .ok (some (compiler.textOf (argument.render tag).fragments))
      | .skipped => .ok none
      | .unsupported found => .error (.unsupported position tag found) := by
  rw [renderAt, rendered_eq]
  cases argument.ending tag <;> rfl

theorem renderAt_collection_eq_ok_none_iff (position : Nat) {tag : Tag}
    (takesList : tag = .identifier ∨ tag = .list) (entries : List (Key × Argument)) :
    compiler.renderAt position tag (.collection entries) = .ok none ↔
      Argument.listEnding entries = .skipped := by
  rw [renderAt_eq, Argument.ending_collection takesList]
  cases Argument.listEnding entries <;> simp

/-- A collection with a skip gives no text. It is skipped when all values before a skip can stand in
a list, and otherwise it is refused. In every order of its entries it is skipped exactly when
every value that is no skip can stand in a list. -/
theorem renderAt_collection_of_skip (position : Nat) {tag : Tag}
    (takesList : tag = .identifier ∨ tag = .list) {entries : List (Key × Argument)}
    (skips : ∃ entry ∈ entries, entry.2 = .skip) :
    (compiler.renderAt position tag (.collection entries) = .ok none ∨
      ∃ found, compiler.renderAt position tag (.collection entries) =
        .error (.unsupported position tag found)) ∧
    (compiler.renderAt position tag (.collection entries) = .ok none ↔
      ∃ before key after, entries = before ++ (key, .skip) :: after ∧
        ∀ entry ∈ before, entry.2.breaksList = false) ∧
    ((∀ permuted, entries.Perm permuted →
        compiler.renderAt position tag (.collection permuted) = .ok none) ↔
      ∀ entry ∈ entries, entry.2 ≠ .skip → entry.2.breaksList = false) := by
  refine ⟨?_, ?_, ?_⟩
  · have incomplete := Argument.listEnding_ne_complete_of_skip skips
    rw [renderAt_eq, Argument.ending_collection takesList]
    cases ending : Argument.listEnding entries with
    | complete => exact absurd ending incomplete
    | skipped => exact .inl rfl
    | unsupported found => exact .inr ⟨found, rfl⟩
  · rw [compiler.renderAt_collection_eq_ok_none_iff position takesList]
    exact Argument.listEnding_eq_skipped_iff entries
  · simp only [compiler.renderAt_collection_eq_ok_none_iff position takesList]
    exact Argument.listEnding_eq_skipped_of_perm_iff skips

/-- A skip goes before the collection after it, but not in every order. -/
theorem renderAt_collection_of_skip_before_nested :
    let entries : List (Key × Argument) :=
      [(.name ['k'], .text ['x']), (.index 0, .skip), (.index 1, .collection [])]
    let compiler : Compiler := {}
    (∃ entry ∈ entries, entry.2 = .skip) ∧
      compiler.renderAt 1 .list (.collection entries) = .ok none ∧
      ¬ ∀ permuted, entries.Perm permuted →
        compiler.renderAt 1 .list (.collection permuted) = .ok none := by
  intro entries compiler
  have skips : ∃ entry ∈ entries, entry.2 = .skip :=
    ⟨(.index 0, .skip), by simp [entries], rfl⟩
  have whenSkipped := compiler.renderAt_collection_of_skip 1 (.inr rfl) skips
  refine ⟨skips, whenSkipped.2.1.mpr ⟨[(.name ['k'], .text ['x'])], .index 0,
    [(.index 1, .collection [])], rfl, by simp [Argument.breaksList]⟩, ?_⟩
  intro everyOrder
  have fits := whenSkipped.2.2.mp everyOrder (.index 1, .collection []) (by simp [entries])
  exact absurd (fits (by simp)) (by simp [Argument.breaksList])

/-- A collection or a float that is not finite is reported although a skip stands after it. -/
theorem renderAt_collection_of_refused_before_skip :
    let nested : List (Key × Argument) := [(.index 0, .collection []), (.index 1, .skip)]
    let infinite : List (Key × Argument) :=
      [(.index 0, .float (.infinite false)), (.index 1, .skip)]
    let compiler : Compiler := {}
    ((∃ entry ∈ nested, entry.2 = .skip) ∧ ∃ entry ∈ infinite, entry.2 = .skip) ∧
      compiler.renderAt 1 .list (.collection nested) =
        .error (.unsupported 1 .list (.kind .collection)) ∧
      compiler.renderAt 1 .identifier (.collection infinite) =
        .error (.unsupported 1 .identifier (.nonFinite (.infinite false))) ∧
      ¬ ∀ (escaper : Escaper) (settings : Settings) (position : Nat) (tag : Tag)
          (entries : List (Key × Argument)), (tag = .identifier ∨ tag = .list) →
          (∃ entry ∈ entries, entry.2 = .skip) →
          (Compiler.mk escaper settings).renderAt position tag (.collection entries) =
            .ok none := by
  intro nested infinite compiler
  have skips : ∃ entry ∈ nested, entry.2 = .skip :=
    ⟨(.index 1, .skip), by simp [nested], rfl⟩
  have refused : compiler.renderAt 1 .list (.collection nested) =
      .error (.unsupported 1 .list (.kind .collection)) := by
    decide +kernel
  refine ⟨⟨skips, (.index 1, .skip), by simp [infinite], rfl⟩, refused, by decide +kernel, ?_⟩
  intro always
  have skipped := always compiler.escaper compiler.settings 1 .list nested (.inr rfl) skips
  exact absurd (refused.symm.trans skipped) (by simp)

end Compiler
end QueryTemplate
