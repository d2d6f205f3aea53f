import QueryTemplate.Proofs.Argument.Entries
import QueryTemplate.Proofs.Argument.Json
import Mathlib.Data.List.Nodup

/-! # What JSON loses as an argument

The conversion of a JSON value fails when an integer in it is too large, and names the first. Any
other value can be read off its argument again, except that an empty object looks like an empty
array. No entry is lost on the way: the keys of each collection are distinct.
-/
namespace QueryTemplate

namespace Json

mutual

/-- The value with an empty array for each empty object in it. -/
def withoutEmptyObjects : Json → Json
  | .array elements => .array (elementsWithoutEmptyObjects elements)
  | .object [] => .array []
  | .object (member :: rest) => .object (membersWithoutEmptyObjects (member :: rest))
  | json => json
termination_by structural json => json

def elementsWithoutEmptyObjects : List Json → List Json
  | [] => []
  | element :: rest => withoutEmptyObjects element :: elementsWithoutEmptyObjects rest
termination_by structural elements => elements

def membersWithoutEmptyObjects : List (Text × Json) → List (Text × Json)
  | [] => []
  | (name, member) :: rest => (name, withoutEmptyObjects member) :: membersWithoutEmptyObjects rest
termination_by structural members => members

end

/-- The names of every object in a value are distinct. -/
def DistinctNames (json : Json) : Prop :=
  ∀ members, Occurs (.object members) json → (Entries.keys members).Nodup

/-- Every position of an array in a value has an index of its own. -/
def ArraysFit (json : Json) : Prop :=
  ∀ elements, Occurs (.array elements) json → elements.length ≤ Nat.pow 2 64

end Json

namespace Argument

mutual

/-- The value that an argument can be read as: a collection under indices is an array, as is the
empty one, and a collection under names is an object. -/
def toJson? : Argument → Option Json
  | .null => some .null
  | .bool value => some (.bool value)
  | .int value => some (.number (.int value))
  | .float (.finite negative magnitude) => some (.number (.real negative magnitude))
  | .float _ => none
  | .text value => some (.string value)
  | .collection entries =>
      match elements? entries with
      | some elements => some (.array elements)
      | none => (members? entries).map .object
  | .skip => none
termination_by structural argument => argument

def elements? : List (Key × Argument) → Option (List Json)
  | [] => some []
  | (.index _, value) :: rest =>
      match toJson? value, elements? rest with
      | some element, some elements => some (element :: elements)
      | _, _ => none
  | (.name _, _) :: _ => none
termination_by structural entries => entries

def members? : List (Key × Argument) → Option (List (Text × Json))
  | [] => some []
  | (.name column, value) :: rest =>
      match toJson? value, members? rest with
      | some member, some members => some ((column, member) :: members)
      | _, _ => none
  | (.index _, _) :: _ => none
termination_by structural entries => entries

end

/-- The error of a conversion that fails. -/
def error? {α : Type} : Except Error α → Option Error
  | .error error => some error
  | .ok _ => none

theorem error?_eq_some_iff {α : Type} {result : Except Error α} {error : Error} :
    error? result = some error ↔ result = .error error := by
  cases result <;> simp [error?]

/-- The error of the first number that does not fit. -/
def firstOversized (numbers : List Json.Number) : Option Error :=
  (numbers.filterMap Json.Number.oversized?).head?.map .oversizedInteger

theorem firstOversized_append (first second : List Json.Number) :
    firstOversized (first ++ second) = (firstOversized first).or (firstOversized second) := by
  rw [firstOversized, List.filterMap_append, List.head?_append, Option.map_or]
  rfl

mutual

theorem error?_ofJson : ∀ json : Json, error? (ofJson json) = firstOversized json.numbers
  | .null => rfl
  | .bool _ => rfl
  | .number (.int _) => rfl
  | .number (.large _ _ _) => rfl
  | .number (.real _ _) => rfl
  | .string _ => rfl
  | .array elements => by
      rw [ofJson, Json.numbers, ← error?_ofElements elements]
      cases ofElements elements <;> rfl
  | .object members => by
      rw [ofJson, Json.numbers, ← error?_ofMembers members]
      cases ofMembers members <;> rfl
termination_by structural json => json

theorem error?_ofElements : ∀ elements : List Json,
    error? (ofElements elements) = firstOversized (Json.numbersOfElements elements)
  | [] => rfl
  | element :: rest => by
      rw [ofElements, Json.numbersOfElements, firstOversized_append, ← error?_ofJson element,
        ← error?_ofElements rest]
      cases ofJson element with
      | error error => rfl
      | ok value => cases ofElements rest <;> rfl
termination_by structural elements => elements

theorem error?_ofMembers : ∀ members : List (Text × Json),
    error? (ofMembers members) = firstOversized (Json.numbersOfMembers members)
  | [] => rfl
  | (name, member) :: rest => by
      rw [ofMembers, Json.numbersOfMembers, firstOversized_append, ← error?_ofJson member,
        ← error?_ofMembers rest]
      cases ofJson member with
      | error error => rfl
      | ok value => cases ofMembers rest <;> rfl
termination_by structural members => members

end

theorem ofJson_eq_error_iff {json : Json} {error : Error} :
    ofJson json = .error error ↔
      ∃ value, json.oversized.head? = some value ∧ error = .oversizedInteger value := by
  rw [← error?_eq_some_iff, error?_ofJson, firstOversized, Option.map_eq_some_iff]
  simp only [Json.oversized, eq_comm]

mutual

theorem toJson?_of_ofJson : ∀ (json : Json) {argument : Argument}, ofJson json = .ok argument →
    toJson? argument = some json.withoutEmptyObjects
  | .null, _, accepted => by
      cases accepted
      rfl
  | .bool _, _, accepted => by
      cases accepted
      rfl
  | .number (.int _), _, accepted => by
      cases accepted
      rfl
  | .number (.real _ _), _, accepted => by
      cases accepted
      rfl
  | .string _, _, accepted => by
      cases accepted
      rfl
  | .array elements, argument, accepted => by
      obtain ⟨values, converted, rfl⟩ := ofJson_array_eq_ok_iff.mp accepted
      rw [ofList, toJson?, elements?_of_ofElements elements converted 0, Json.withoutEmptyObjects]
  | .object members, argument, accepted => by
      obtain ⟨entries, converted, rfl⟩ := ofJson_object_eq_ok_iff.mp accepted
      have restored := members?_of_ofMembers members converted
      cases members with
      | nil =>
          cases converted
          rfl
      | cons member rest =>
          rw [ofMembers_eq_ok_iff, List.forall₂_cons_left_iff] at converted
          obtain ⟨⟨key, value⟩, others, ⟨rfl, -⟩, -, rfl⟩ := converted
          rw [toJson?, elements?, restored, Json.withoutEmptyObjects]
          rfl
termination_by structural json => json

theorem elements?_of_ofElements : ∀ (elements : List Json) {values : List Argument},
    ofElements elements = .ok values → ∀ start,
      elements? (enumerate start values) = some (Json.elementsWithoutEmptyObjects elements)
  | [], _, accepted, start => by
      cases accepted
      rfl
  | element :: rest, values, accepted, start => by
      rw [ofElements_eq_ok_iff, List.forall₂_cons_left_iff] at accepted
      obtain ⟨value, others, given, all, rfl⟩ := accepted
      have converted := ofElements_eq_ok_iff.mpr all
      rw [enumerate, Key.ofPosition, elements?, toJson?_of_ofJson element given,
        elements?_of_ofElements rest converted (start + 1), Json.elementsWithoutEmptyObjects]
termination_by structural elements => elements

theorem members?_of_ofMembers : ∀ (members : List (Text × Json)) {entries : List (Key × Argument)},
    ofMembers members = .ok entries →
      members? entries = some (Json.membersWithoutEmptyObjects members)
  | [], _, accepted => by
      cases accepted
      rfl
  | (name, member) :: rest, entries, accepted => by
      rw [ofMembers_eq_ok_iff, List.forall₂_cons_left_iff] at accepted
      obtain ⟨⟨key, value⟩, others, ⟨rfl, given⟩, all, rfl⟩ := accepted
      have converted := ofMembers_eq_ok_iff.mpr all
      rw [members?, toJson?_of_ofJson member given, members?_of_ofMembers rest converted,
        Json.membersWithoutEmptyObjects]
termination_by structural members => members

end

theorem keys_enumerate (start : Nat) (values : List Argument) :
    Entries.keys (enumerate start values) =
      (List.range' start values.length).map Key.ofPosition := by
  induction values generalizing start with
  | nil => rfl
  | cons value rest induction =>
      rw [enumerate, Entries.keys, List.map_cons, ← Entries.keys, induction, List.length_cons,
        List.range'_succ, List.map_cons]

theorem ofPosition_inj {first second : Nat} (firstFits : first < Nat.pow 2 64)
    (secondFits : second < Nat.pow 2 64) (same : Key.ofPosition first = Key.ofPosition second) :
    first = second := by
  have bits := congrArg Int64.toBitVec (Key.index.inj same)
  have numbers := congrArg BitVec.toNat bits
  rw [Int64.toBitVec_ofNat', Int64.toBitVec_ofNat', BitVec.toNat_ofNat, BitVec.toNat_ofNat,
    Nat.mod_eq_of_lt firstFits, Nat.mod_eq_of_lt secondFits] at numbers
  exact numbers

theorem nodup_keys_enumerate {values : List Argument} (fits : values.length ≤ Nat.pow 2 64) :
    (Entries.keys (enumerate 0 values)).Nodup := by
  rw [keys_enumerate]
  apply List.Nodup.map_on _ List.nodup_range'
  intro first inFirst second inSecond same
  rw [List.mem_range'_1] at inFirst inSecond
  exact ofPosition_inj (by omega) (by omega) same

theorem keys_of_ofMembers {members : List (Text × Json)} {entries : List (Key × Argument)}
    (converted : ofMembers members = .ok entries) :
    Entries.keys entries = (Entries.keys members).map Key.name := by
  rw [ofMembers_eq_ok_iff] at converted
  induction converted with
  | nil => rfl
  | cons here _ induction =>
      rw [Entries.keys, List.map_cons, ← Entries.keys, induction, here.1]
      rfl

/-- Distinct names, and arrays that are not too long, give collections with distinct keys. -/
theorem distinctKeys_of_ofJson {json : Json} {argument : Argument} (names : json.DistinctNames)
    (arrays : json.ArraysFit) (accepted : ofJson json = .ok argument) :
    argument.DistinctKeys := by
  intro entries occurs
  obtain ⟨part, inside, converted⟩ := exists_part_of_occurs occurs accepted
  cases part with
  | array elements =>
      obtain ⟨values, each, same⟩ := ofJson_array_eq_ok_iff.mp converted
      obtain rfl := collection.inj same
      have length := (ofElements_eq_ok_iff.mp each).length_eq
      exact nodup_keys_enumerate (length ▸ arrays elements inside)
  | object members =>
      obtain ⟨fields, each, same⟩ := ofJson_object_eq_ok_iff.mp converted
      obtain rfl := collection.inj same
      rw [keys_of_ofMembers each]
      exact (names members inside).map fun _ _ => Key.name.inj
  | number value => cases value <;> cases converted
  | _ => cases converted

theorem ofJson_array (elements : List Json) :
    ofJson (.array elements) = (listOfJson (.array elements)).map ofList := by
  rw [ofJson, listOfJson]
  cases ofElements elements <;> rfl

/-- A JSON value is refused exactly when an integer in it does not fit sixty-four signed bits, and
the error is about the first. From the argument of any other value it is read off again, but for
empty objects, which come back as empty arrays. No entry of a collection is lost: to insert them one
after another, each under its key, gives the same collection. An array by itself is the collection
of the arguments that it lists. -/
theorem ofJson_loses_only_empty_objects (json : Json) :
    (∀ error, ofJson json = .error error ↔
      ∃ value, json.oversized.head? = some value ∧ error = .oversizedInteger value ∧
        error.message = .ofString "Serialization error: integer " ++
          (Decimal.ofNat value ++ .ofString " does not fit in i64")) ∧
    (∀ value, value ∈ json.oversized ↔ ∃ exceeds fits,
      Json.Occurs (.number (.large value exceeds fits)) json) ∧
    (∀ argument, ofJson json = .ok argument →
      toJson? argument = some json.withoutEmptyObjects ∧
      (json.DistinctNames → json.ArraysFit → argument.DistinctKeys ∧
        ∀ entries, Occurs (.collection entries) argument →
          ofEntries entries = .collection entries)) ∧
    ∀ elements, json = .array elements → ofJson json = (listOfJson json).map ofList := by
  refine ⟨fun error => ?_, fun value => Json.mem_oversized_iff, fun argument accepted => ?_, ?_⟩
  · rw [ofJson_eq_error_iff]
    refine exists_congr fun value => and_congr_right fun _ => ?_
    constructor
    · rintro rfl
      exact ⟨rfl, by rw [Error.message, List.append_assoc]⟩
    · exact And.left
  · refine ⟨toJson?_of_ofJson json accepted, fun names arrays => ?_⟩
    have distinct := distinctKeys_of_ofJson names arrays accepted
    exact ⟨distinct, fun entries occurs =>
      congrArg collection (Entries.ofList_of_nodup (distinct entries occurs))⟩
  · rintro elements rfl
    exact ofJson_array elements

/-- An object within an array comes back with an empty array for the empty object in it. Of two
integers that are too large the one within the object is written first and reported. -/
theorem ofJson_loses_only_empty_objects_within_array :
    let zero : Json := .number (.real true .zero)
    let json : Json := .array [.object [(['k'], zero), (['0'], .object [])], .array []]
    let argument : Argument :=
      .ofList
        [.collection [(.name ['k'], .float (.finite true .zero)), (.name ['0'], .collection [])],
          .collection []]
    let second : Json := .number (.large (Nat.pow 2 63) (by decide) (by decide))
    let third : Json := .number (.large (Nat.pow 2 64 - 1) (by decide) (by decide))
    let refused : Json := .array [.object [(['k'], zero), (['l'], third)], second]
    ofJson json = .ok argument ∧ json.DistinctNames ∧ json.ArraysFit ∧
      toJson? argument =
        some (.array [.object [(['k'], zero), (['0'], .array [])], .array []]) ∧
      argument.DistinctKeys ∧
      ofJson refused = .error (.oversizedInteger 18446744073709551615) := by
  intro zero json argument second third refused
  have accepted : ofJson json = .ok argument := rfl
  have names : json.DistinctNames := by
    intro members occurs
    simp [json, zero, Json.occurs_array_iff, Json.occurs_object_iff, Json.occurs_number_iff]
      at occurs
    rcases occurs with rfl | rfl <;> decide
  have arrays : json.ArraysFit := by
    intro elements occurs
    simp [json, zero, Json.occurs_array_iff, Json.occurs_object_iff, Json.occurs_number_iff]
      at occurs
    rcases occurs with rfl | rfl <;> decide
  have restored := (ofJson_loses_only_empty_objects json).2.2.1 argument accepted
  refine ⟨accepted, names, arrays, restored.1, (restored.2 names arrays).1, ?_⟩
  exact ((ofJson_loses_only_empty_objects refused).1 _).mpr ⟨_, rfl, rfl, rfl⟩

end Argument
end QueryTemplate
