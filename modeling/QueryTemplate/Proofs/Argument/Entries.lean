import QueryTemplate.Argument.Basic
import Mathlib.Data.List.Induction
import Mathlib.Data.List.Perm.Subperm

/-! # Merging entries

The collection of a list of entries has each key of the list once, in the order of first
occurrences, with the value of its last. The entries of one key have no influence on those of
another, and to merge what is merged already changes nothing, with more entries behind it or
without.
-/
namespace QueryTemplate

namespace Entries

section Lists

variable {κ α : Type}

theorem mem_keys_of_mem {entries : List (κ × α)} {entry : κ × α} (member : entry ∈ entries) :
    entry.1 ∈ keys entries :=
  List.mem_map_of_mem member

theorem keys_append (first second : List (κ × α)) :
    keys (first ++ second) = keys first ++ keys second :=
  List.map_append

/-- Distinct keys that are all among equally many others are these others. -/
theorem keys_perm {first second : List (κ × α)} (distinct : (keys first).Nodup)
    (length : first.length = second.length) (included : keys first ⊆ keys second) :
    (keys first).Perm (keys second) := by
  apply (List.subperm_of_subset distinct included).perm_of_length_le
  rw [keys, keys, List.length_map, List.length_map]
  exact Nat.le_of_eq length.symm

end Lists

variable {κ α : Type} [DecidableEq κ]

/-- The entries under other keys. -/
def without (key : κ) (entries : List (κ × α)) : List (κ × α) :=
  entries.filter fun entry => decide (entry.1 ≠ key)

theorem without_cons (key : κ) (entry : κ × α) (rest : List (κ × α)) :
    without key (entry :: rest) =
      if entry.1 = key then without key rest else entry :: without key rest := by
  rw [without, List.filter_cons]
  by_cases same : entry.1 = key <;> simp [same, without]

theorem without_concat (key : κ) (entries : List (κ × α)) (entry : κ × α) :
    without key (entries ++ [entry]) =
      if entry.1 = key then without key entries else without key entries ++ [entry] := by
  rw [without, List.filter_append]
  by_cases same : entry.1 = key <;> simp [same, without]

theorem lookup_cons (key : κ) (entry : κ × α) (rest : List (κ × α)) :
    List.lookup key (entry :: rest) =
      if key = entry.1 then some entry.2 else rest.lookup key := by
  obtain ⟨first, value⟩ := entry
  rw [List.lookup_cons]
  by_cases same : key = first
  · simp [same]
  · rw [if_neg same, beq_false_of_ne same]

theorem lookup_insert (key other : κ) (value : α) (entries : List (κ × α)) :
    (insert key value entries).lookup other =
      if other = key then some value else entries.lookup other := by
  induction entries with
  | nil => rw [insert, lookup_cons]
  | cons entry rest induction =>
      rw [insert]
      by_cases here : entry.1 = key
      · rw [if_pos here, lookup_cons, lookup_cons, here]
        by_cases same : other = key
        · rw [if_pos same, if_pos same]
        · rw [if_neg same, if_neg same, if_neg same]
      · rw [if_neg here, lookup_cons, lookup_cons, induction]
        by_cases found : other = entry.1
        · rw [if_pos found, if_pos found, if_neg (found ▸ here)]
        · rw [if_neg found, if_neg found]

theorem insert_of_notMem {key : κ} {entries : List (κ × α)} (fresh : key ∉ keys entries)
    (value : α) : insert key value entries = entries ++ [(key, value)] := by
  induction entries with
  | nil => rfl
  | cons entry rest induction =>
      rw [keys, List.map_cons, List.mem_cons, not_or] at fresh
      rw [insert, if_neg (Ne.symm fresh.1), induction fresh.2, List.cons_append]

theorem without_insert_self (key : κ) (value : α) (entries : List (κ × α)) :
    without key (insert key value entries) = without key entries := by
  induction entries with
  | nil => rw [insert, without_cons, if_pos rfl]
  | cons entry rest induction =>
      rw [insert]
      by_cases here : entry.1 = key
      · rw [if_pos here, without_cons, without_cons, if_pos rfl, if_pos here]
      · rw [if_neg here, without_cons, without_cons, if_neg here, if_neg here, induction]

theorem without_insert_of_ne {key other : κ} (distinct : other ≠ key) (value : α)
    (entries : List (κ × α)) :
    without key (insert other value entries) = insert other value (without key entries) := by
  induction entries with
  | nil => rw [insert, without_cons, if_neg distinct, without, List.filter_nil, insert]
  | cons entry rest induction =>
      rw [insert, without_cons]
      by_cases here : entry.1 = other
      · have kept : entry.1 ≠ key := here ▸ distinct
        rw [if_pos here, without_cons, if_neg distinct, if_neg kept, insert, if_pos here]
      · rw [if_neg here, without_cons, induction]
        by_cases dropped : entry.1 = key
        · rw [if_pos dropped, if_pos dropped]
        · rw [if_neg dropped, if_neg dropped, insert, if_neg here]

theorem ofList_concat (entries : List (κ × α)) (entry : κ × α) :
    ofList (entries ++ [entry]) = insert entry.1 entry.2 (ofList entries) := by
  rw [ofList, List.foldl_append]
  rfl

theorem nodup_keys_ofList (entries : List (κ × α)) : (keys (ofList entries)).Nodup := by
  induction entries using List.reverseRecOn with
  | nil => exact List.nodup_nil
  | append_singleton entries entry induction =>
      rw [ofList_concat]
      exact nodup_keys_insert entry.1 entry.2 induction

/-- A key keeps the place of its first occurrence. -/
theorem keys_ofList (entries : List (κ × α)) :
    keys (ofList entries) = (keys entries).eraseDups := by
  induction entries using List.reverseRecOn with
  | nil => rfl
  | append_singleton entries entry induction =>
      rw [ofList_concat, keys_insert, induction, keys_append, List.eraseDups_append]
      simp only [keys, List.map_cons, List.map_nil, List.mem_eraseDups, List.removeAll,
        List.elem_eq_mem]
      split
      case isTrue known => simp [known]
      case isFalse fresh => simp [fresh, List.eraseDups_cons]

/-- A key takes the value of its last occurrence. -/
theorem lookup_ofList (key : κ) (entries : List (κ × α)) :
    (ofList entries).lookup key = entries.reverse.lookup key := by
  induction entries using List.reverseRecOn with
  | nil => rfl
  | append_singleton entries entry induction =>
      rw [ofList_concat, lookup_insert, List.reverse_concat, lookup_cons, induction]

theorem ofList_of_nodup {entries : List (κ × α)} (distinct : (keys entries).Nodup) :
    ofList entries = entries := by
  induction entries using List.reverseRecOn with
  | nil => rfl
  | append_singleton entries entry induction =>
      rw [keys_append, List.nodup_append] at distinct
      obtain ⟨before, -, apart⟩ := distinct
      have fresh : entry.1 ∉ keys entries := fun known =>
        apart entry.1 known entry.1 List.mem_cons_self rfl
      rw [ofList_concat, induction before, insert_of_notMem fresh]

theorem ofList_ofList_append (first second : List (κ × α)) :
    ofList (ofList first ++ second) = ofList (first ++ second) := by
  induction second using List.reverseRecOn with
  | nil =>
      rw [List.append_nil, List.append_nil]
      exact ofList_of_nodup (nodup_keys_ofList first)
  | append_singleton second entry induction =>
      rw [← List.append_assoc, ← List.append_assoc, ofList_concat, ofList_concat, induction]

theorem ofList_without (key : κ) (entries : List (κ × α)) :
    ofList (without key entries) = without key (ofList entries) := by
  induction entries using List.reverseRecOn with
  | nil => rfl
  | append_singleton entries entry induction =>
      rw [ofList_concat, without_concat]
      by_cases same : entry.1 = key
      · rw [if_pos same, induction, same, without_insert_self]
      · rw [if_neg same, ofList_concat, induction, without_insert_of_ne same]

theorem mem_of_lookup {entries : List (κ × α)} {key : κ} {value : α}
    (found : entries.lookup key = some value) : (key, value) ∈ entries := by
  obtain ⟨before, after, rfl, -⟩ := List.lookup_eq_some_iff.mp found
  exact List.mem_append_right before List.mem_cons_self

theorem lookup_eq_some_iff {entries : List (κ × α)} (distinct : (keys entries).Nodup) {key : κ}
    {value : α} : entries.lookup key = some value ↔ (key, value) ∈ entries := by
  induction entries with
  | nil => simp
  | cons entry rest induction =>
      obtain ⟨first, kept⟩ := entry
      obtain ⟨fresh, distinct⟩ := List.nodup_cons.mp distinct
      rw [lookup_cons, List.mem_cons]
      by_cases same : key = first
      · subst same
        have later : (key, value) ∉ rest := fun member =>
          fresh (List.mem_map.mpr ⟨_, member, rfl⟩)
        simp [later, eq_comm]
      · rw [if_neg same, induction distinct]
        simp [same]

theorem mem_ofList_iff {entries : List (κ × α)} {key : κ} {value : α} :
    (key, value) ∈ ofList entries ↔
      ∃ before after, entries = before ++ (key, value) :: after ∧ key ∉ keys after := by
  rw [← lookup_eq_some_iff (nodup_keys_ofList entries), lookup_ofList, List.lookup_eq_some_iff]
  constructor
  · rintro ⟨later, earlier, split, apart⟩
    rw [List.reverse_eq_append_iff, List.reverse_cons, List.append_assoc] at split
    refine ⟨earlier.reverse, later.reverse, split, fun member => ?_⟩
    obtain ⟨entry, inLater, same⟩ := List.mem_map.mp member
    simpa [same] using apart entry (List.mem_reverse.mp inLater)
  · rintro ⟨before, after, rfl, fresh⟩
    refine ⟨after.reverse, before.reverse, by simp, fun entry member => ?_⟩
    have inAfter := mem_keys_of_mem (List.mem_reverse.mp member)
    simpa using fun same : key = entry.1 => fresh (same ▸ inAfter)

end Entries

namespace Argument

/-- The collection of a list of entries has distinct keys, those of the list in the order of first
occurrences, each with the value of its last occurrence. What is listed under one key does not count
for any other, and an index and the name that reads like it are two keys. Entries that are merged
already can be merged again, alone or with more behind them. -/
theorem ofEntries_keeps_first_positions_and_last_values :
    (∀ entries : List (Key × Argument), ∃ merged,
      ofEntries entries = .collection merged ∧
      (Entries.keys merged).Nodup ∧
      Entries.keys merged = (Entries.keys entries).eraseDups ∧
      (∀ key value, (key, value) ∈ merged ↔
        ∃ before after, entries = before ++ (key, value) :: after ∧ key ∉ Entries.keys after) ∧
      ∀ key, ofEntries (Entries.without key entries) = .collection (Entries.without key merged)) ∧
    (∀ position : Int64, Key.index position ≠ .name (Decimal.ofInt position.toInt)) ∧
    (∀ first second : List (Key × Argument),
      ofEntries ((ofEntries first).entries ++ second) = ofEntries (first ++ second)) ∧
    ∀ entries : List (Key × Argument), (Entries.keys entries).Nodup →
      ofEntries entries = .collection entries := by
  refine ⟨fun entries => ⟨Entries.ofList entries, rfl, Entries.nodup_keys_ofList entries,
    Entries.keys_ofList entries, fun _ _ => Entries.mem_ofList_iff, fun key => ?_⟩, nofun, ?_, ?_⟩
  · exact congrArg collection (Entries.ofList_without key entries)
  · exact fun first second => congrArg collection (Entries.ofList_ofList_append first second)
  · exact fun entries distinct => congrArg collection (Entries.ofList_of_nodup distinct)

/-- A repeated name and a repeated index keep their places, the index and its text are two keys, and
the merged entries can stand for those they come from. -/
theorem ofEntries_keeps_first_positions_and_last_values_of_repeated_keys :
    let five := Key.name (Decimal.ofInt (5 : Int64).toInt)
    let first : List (Key × Argument) :=
      [(.name ['a'], .int 1), (.index 5, .int 2), (five, .null), (.name ['a'], .skip)]
    let second : List (Key × Argument) := [(.name ['b'], .null), (.index 5, .int 3)]
    let merged : List (Key × Argument) :=
      [(.name ['a'], .skip), (.index 5, .int 3), (five, .null), (.name ['b'], .null)]
    ofEntries (first ++ second) = .collection merged ∧
      ofEntries (Entries.without five (first ++ second)) =
        .collection [(.name ['a'], .skip), (.index 5, .int 3), (.name ['b'], .null)] ∧
      ofEntries ((ofEntries first).entries ++ second) = .collection merged ∧
      (Entries.keys merged).Nodup ∧ ofEntries merged = .collection merged := by
  intro five first second merged
  obtain ⟨closed, -, again, alone⟩ := ofEntries_keeps_first_positions_and_last_values
  have result : ofEntries (first ++ second) = .collection merged := rfl
  have distinct : (Entries.keys merged).Nodup := by decide
  refine ⟨result, ?_, (again first second).trans result, distinct, alone merged distinct⟩
  obtain ⟨same, given, -, -, -, leaveOut⟩ := closed (first ++ second)
  obtain rfl := collection.inj (given.symm.trans result)
  exact leaveOut five

end Argument
end QueryTemplate
