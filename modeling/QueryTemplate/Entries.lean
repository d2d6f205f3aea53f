/-! # Keyed entries in insertion order

Entries are pairs of a key and a value. Inserting under a key that is already there replaces the
value in place; any other key goes to the end. Built this way, entries have distinct keys, each at
the position of its first occurrence and with the value of its last.
-/
namespace QueryTemplate.Entries

variable {κ α : Type} [DecidableEq κ]

def keys (entries : List (κ × α)) : List κ := entries.map Prod.fst

/-- The entries with `value` under `key`. -/
def insert (key : κ) (value : α) : List (κ × α) → List (κ × α)
  | [] => [(key, value)]
  | entry :: rest =>
      if entry.1 = key then (key, value) :: rest else entry :: insert key value rest

/-- The entries of a list in which keys may be repeated, inserted one after another. -/
def ofList (entries : List (κ × α)) : List (κ × α) :=
  entries.foldl (fun kept entry => insert entry.1 entry.2 kept) []

/-- Inserting adds a key at the end exactly when it is new. -/
theorem keys_insert (key : κ) (value : α) (entries : List (κ × α)) :
    keys (insert key value entries) =
      if key ∈ keys entries then keys entries else keys entries ++ [key] := by
  induction entries with
  | nil => rfl
  | cons entry rest induction =>
      by_cases same : entry.1 = key
      · subst same
        simp [insert, keys]
      · simp only [keys, insert, if_neg same, List.map_cons, List.mem_cons] at induction ⊢
        rw [induction]
        by_cases member : key ∈ rest.map Prod.fst <;> simp [member, Ne.symm same]

theorem nodup_keys_insert (key : κ) (value : α) {entries : List (κ × α)}
    (distinct : (keys entries).Nodup) : (keys (insert key value entries)).Nodup := by
  rw [keys_insert]
  split
  case isTrue => exact distinct
  case isFalse fresh =>
    rw [List.nodup_append]
    refine ⟨distinct, by simp, ?_⟩
    intro other member added addedMember same
    rw [List.mem_singleton.mp addedMember] at same
    exact fresh (same ▸ member)

end QueryTemplate.Entries
