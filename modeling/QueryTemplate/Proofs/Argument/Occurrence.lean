import QueryTemplate.Argument.Basic

/-! # What occurs in an argument

An argument occurs in itself, and what occurs in a value of a collection occurs in the collection.
Keys are distinct in a whole argument if they are in each collection at any depth, and the texts of
an argument are found at any depth as well, among its values and among the names of its entries.
-/
namespace QueryTemplate

def Key.name? : Key → Option Text
  | .index _ => none
  | .name column => some column

namespace Argument

/-- The first argument is the second one, or occurs in a value of it. -/
inductive Occurs (inner : Argument) : Argument → Prop
  | self : Occurs inner inner
  | member {entries : List (Key × Argument)} {entry : Key × Argument} (found : entry ∈ entries)
      (inside : Occurs inner entry.2) : Occurs inner (.collection entries)

/-- The keys of every collection in an argument are distinct. -/
def DistinctKeys (argument : Argument) : Prop :=
  ∀ entries, Occurs (.collection entries) argument → (Entries.keys entries).Nodup

theorem eq_of_occurs {inner argument : Argument} (notCollection : argument.kind ≠ .collection)
    (occurs : Occurs inner argument) : inner = argument := by
  cases occurs with
  | self => rfl
  | member _ _ => exact absurd rfl notCollection

theorem distinctKeys_of_kind {argument : Argument} (notCollection : argument.kind ≠ .collection) :
    argument.DistinctKeys := by
  intro entries occurs
  obtain rfl := eq_of_occurs notCollection occurs
  exact absurd rfl notCollection

theorem occurs_collection_iff {inner : Argument} {entries : List (Key × Argument)} :
    Occurs inner (.collection entries) ↔
      inner = .collection entries ∨ ∃ entry ∈ entries, Occurs inner entry.2 := by
  constructor
  · rintro (_ | ⟨member, inside⟩)
    · exact .inl rfl
    · exact .inr ⟨_, member, inside⟩
  · rintro (rfl | ⟨entry, member, inside⟩)
    · exact .self
    · exact .member member inside

theorem distinctKeys_collection_iff {entries : List (Key × Argument)} :
    DistinctKeys (.collection entries) ↔
      (Entries.keys entries).Nodup ∧ ∀ entry ∈ entries, DistinctKeys entry.2 := by
  constructor
  · intro distinct
    exact ⟨distinct entries .self,
      fun entry member inner occurs => distinct inner (.member member occurs)⟩
  · rintro ⟨distinct, inside⟩ inner occurs
    rcases occurs_collection_iff.mp occurs with same | ⟨entry, member, occurs⟩
    · rwa [collection.inj same]
    · exact inside entry member inner occurs

mutual

/-- The texts in an argument at any depth, as values or as names of entries. -/
def texts : Argument → List Text
  | .text value => [value]
  | .collection entries => textsOfEntries entries
  | _ => []
termination_by structural argument => argument

def textsOfEntries : List (Key × Argument) → List Text
  | [] => []
  | (key, value) :: rest => key.name?.toList ++ (texts value ++ textsOfEntries rest)
termination_by structural entries => entries

end

theorem mem_textsOfEntries_iff {entries : List (Key × Argument)} {text : Text} :
    text ∈ textsOfEntries entries ↔
      ∃ entry ∈ entries, entry.1.name? = some text ∨ text ∈ entry.2.texts := by
  induction entries with
  | nil => simp [textsOfEntries]
  | cons entry rest induction =>
      rw [textsOfEntries, List.mem_append, List.mem_append, Option.mem_toList, induction,
        ← or_assoc]
      simp only [List.mem_cons, exists_eq_or_imp]

end Argument
end QueryTemplate
