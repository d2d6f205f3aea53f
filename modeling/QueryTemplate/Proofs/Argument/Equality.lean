import QueryTemplate.Argument.Equality
import QueryTemplate.Proofs.Argument.Entries
import QueryTemplate.Proofs.Argument.Occurrence

/-! # Equality of arguments is a partial equivalence

Equality is symmetric and transitive, and an argument equals itself unless a float that is not a
number occurs in it. The order of entries does not matter at any depth. Although only the entries of
one collection are looked up in the other, distinct keys in equal number leave none over.
-/
namespace QueryTemplate

namespace Binary64

/-- The number that a value stands for: a zero without its sign. -/
def number? : Binary64 → Option Binary64
  | .finite negative magnitude => some (.finite (negative && magnitude.rank != 0) magnitude)
  | .infinite negative => some (.infinite negative)
  | .notNumber => none

theorem sameValue_iff (first second : Binary64) :
    first.sameValue second = true ↔
      ∃ number, first.number? = some number ∧ second.number? = some number := by
  cases first with
  | finite negative magnitude =>
      cases second with
      | finite otherNegative other =>
          simp only [sameValue, number?, Bool.and_eq_true, Bool.or_eq_true, beq_iff_eq,
            Option.some.injEq, exists_eq_left', finite.injEq]
          constructor
          · rintro ⟨rfl, rfl | zero⟩
            · exact ⟨rfl, rfl⟩
            · simp [zero]
          · rintro ⟨signs, rfl⟩
            refine ⟨rfl, ?_⟩
            rcases Nat.eq_zero_or_pos other.rank with zero | positive
            · exact .inr zero
            · have signed : (other.rank != 0) = true := bne_iff_ne.mpr (Nat.ne_of_gt positive)
              rw [signed, Bool.and_true, Bool.and_true] at signs
              exact .inl signs.symm
      | infinite _ => simp [sameValue, number?]
      | notNumber => simp [sameValue, number?]
  | infinite negative =>
      cases second with
      | infinite otherNegative =>
          simp only [sameValue, number?, beq_iff_eq, Option.some.injEq, exists_eq_left',
            infinite.injEq]
          exact eq_comm
      | finite _ _ => simp [sameValue, number?]
      | notNumber => simp [sameValue, number?]
  | notNumber => simp [sameValue, number?]

theorem sameValue_symm {first second : Binary64} (same : first.sameValue second = true) :
    second.sameValue first = true := by
  obtain ⟨number, left, right⟩ := (sameValue_iff first second).mp same
  exact (sameValue_iff second first).mpr ⟨number, right, left⟩

theorem sameValue_trans {first second third : Binary64} (left : first.sameValue second = true)
    (right : second.sameValue third = true) : first.sameValue third = true := by
  obtain ⟨number, ofFirst, ofSecond⟩ := (sameValue_iff first second).mp left
  obtain ⟨other, same, ofThird⟩ := (sameValue_iff second third).mp right
  obtain rfl := Option.some.inj (ofSecond.symm.trans same)
  exact (sameValue_iff first third).mpr ⟨number, ofFirst, ofThird⟩

theorem sameValue_self_iff (value : Binary64) :
    value.sameValue value = true ↔ value ≠ .notNumber := by
  rw [sameValue_iff]
  cases value <;> simp [number?]

end Binary64

namespace Argument

theorem sizeOf_value_lt {entries : List (Key × Argument)} {entry : Key × Argument}
    (member : entry ∈ entries) : sizeOf entry.2 < sizeOf (collection entries) := by
  have smaller := List.sizeOf_lt_of_mem member
  rw [Prod.mk.sizeOf_spec] at smaller
  rw [collection.sizeOf_spec]
  omega

/-- Induction along the values of collections. Only floats and collections are more to equality than
themselves, so the other kinds are one case. -/
@[elab_as_elim]
theorem induction_of_values {motive : Argument → Prop}
    (plain : ∀ argument, argument.kind ≠ .float → argument.kind ≠ .collection → motive argument)
    (float : ∀ value, motive (.float value))
    (collection : ∀ entries, (∀ entry ∈ entries, motive entry.2) → motive (.collection entries)) :
    ∀ argument, motive argument
  | .float value => float value
  | .collection entries => collection entries fun entry member =>
      have := sizeOf_value_lt member
      induction_of_values plain float collection entry.2
  | .null => plain .null nofun nofun
  | .bool value => plain (.bool value) nofun nofun
  | .int value => plain (.int value) nofun nofun
  | .text value => plain (.text value) nofun nofun
  | .skip => plain .skip nofun nofun
termination_by argument => sizeOf argument
decreasing_by exact this

theorem same_plain_iff {first : Argument} (notFloat : first.kind ≠ .float)
    (notCollection : first.kind ≠ .collection) (second : Argument) :
    first.same second = true ↔ first = second := by
  cases first <;> cases second <;> simp_all [same, kind]

theorem same_float_iff (value : Binary64) (second : Argument) :
    (float value).same second = true ↔
      ∃ other, second = .float other ∧ value.sameValue other = true := by
  cases second <;> simp [same]

theorem within_iff (first second : List (Key × Argument)) :
    within first second = true ↔
      ∀ entry ∈ first, ∃ other, second.lookup entry.1 = some other ∧ entry.2.same other = true := by
  induction first with
  | nil => simp [within]
  | cons entry rest induction =>
      rw [within, Bool.and_eq_true, induction, List.forall_mem_cons]
      cases second.lookup entry.1 <;> simp

theorem same_collection_iff (entries : List (Key × Argument)) (second : Argument) :
    (collection entries).same second = true ↔
      ∃ others, second = .collection others ∧ entries.length = others.length ∧
        ∀ entry ∈ entries, ∃ other,
          others.lookup entry.1 = some other ∧ entry.2.same other = true := by
  cases second <;> simp [same, within_iff]

/-- A float in the collection that is not a number is in one of its values. -/
theorem not_occurs_notNumber_collection_iff {entries : List (Key × Argument)} :
    ¬ Occurs (.float .notNumber) (.collection entries) ↔
      ∀ entry ∈ entries, ¬ Occurs (.float .notNumber) entry.2 := by
  rw [occurs_collection_iff]
  simp

theorem same_symm {first second : Argument} (distinct : first.DistinctKeys)
    (same : first.same second = true) : second.same first = true := by
  induction first using induction_of_values generalizing second with
  | plain first notFloat notCollection =>
      obtain rfl := (same_plain_iff notFloat notCollection second).mp same
      exact same
  | float value =>
      obtain ⟨other, rfl, sameValue⟩ := (same_float_iff value second).mp same
      exact (same_float_iff other _).mpr ⟨value, rfl, Binary64.sameValue_symm sameValue⟩
  | collection entries induction =>
      obtain ⟨others, rfl, length, each⟩ := (same_collection_iff entries second).mp same
      obtain ⟨distinct, inside⟩ := distinctKeys_collection_iff.mp distinct
      have included : Entries.keys entries ⊆ Entries.keys others := by
        intro key known
        obtain ⟨entry, member, rfl⟩ := List.mem_map.mp known
        obtain ⟨other, found, -⟩ := each entry member
        exact List.mem_map.mpr ⟨_, Entries.mem_of_lookup found, rfl⟩
      have permutation := Entries.keys_perm distinct length included
      have otherDistinct := permutation.nodup_iff.mp distinct
      refine (same_collection_iff others _).mpr ⟨entries, rfl, length.symm, ?_⟩
      intro entry member
      -- the key is among those looked up, and its value there is this one
      have known := permutation.mem_iff.mpr (Entries.mem_keys_of_mem member)
      obtain ⟨mine, among, sameKey⟩ := List.mem_map.mp known
      obtain ⟨other, found, sameValue⟩ := each mine among
      rw [sameKey, (Entries.lookup_eq_some_iff otherDistinct).mpr member] at found
      obtain rfl := Option.some.inj found
      exact ⟨mine.2, (Entries.lookup_eq_some_iff distinct).mpr (sameKey ▸ among),
        induction mine among (inside mine among) sameValue⟩

theorem same_trans {first second third : Argument} (left : first.same second = true)
    (right : second.same third = true) : first.same third = true := by
  induction first using induction_of_values generalizing second third with
  | plain first notFloat notCollection =>
      obtain rfl := (same_plain_iff notFloat notCollection second).mp left
      exact right
  | float value =>
      obtain ⟨other, rfl, sameLeft⟩ := (same_float_iff value second).mp left
      obtain ⟨last, rfl, sameRight⟩ := (same_float_iff other third).mp right
      exact (same_float_iff value _).mpr ⟨last, rfl, Binary64.sameValue_trans sameLeft sameRight⟩
  | collection entries induction =>
      obtain ⟨others, rfl, length, each⟩ := (same_collection_iff entries second).mp left
      obtain ⟨last, rfl, otherLength, eachOther⟩ := (same_collection_iff others third).mp right
      refine (same_collection_iff entries _).mpr ⟨last, rfl, length.trans otherLength, ?_⟩
      intro entry member
      obtain ⟨other, found, sameLeft⟩ := each entry member
      have among := Entries.mem_of_lookup found
      obtain ⟨value, foundLast, sameRight⟩ := eachOther (entry.1, other) among
      exact ⟨value, foundLast, induction entry member sameLeft sameRight⟩

theorem same_self_iff {argument : Argument} (distinct : argument.DistinctKeys) :
    argument.same argument = true ↔ ¬ Occurs (.float .notNumber) argument := by
  induction argument using induction_of_values with
  | plain argument notFloat notCollection =>
      refine iff_of_true ((same_plain_iff notFloat notCollection argument).mpr rfl) ?_
      intro occurs
      obtain rfl := eq_of_occurs notCollection occurs
      exact notFloat rfl
  | float value =>
      have onlyItself : Occurs (.float .notNumber) (.float value) ↔ value = .notNumber :=
        ⟨fun occurs => (float.inj (eq_of_occurs nofun occurs)).symm, fun same => same ▸ .self⟩
      rw [onlyItself, same]
      exact Binary64.sameValue_self_iff value
  | collection entries induction =>
      obtain ⟨distinct, inside⟩ := distinctKeys_collection_iff.mp distinct
      rw [same_collection_iff, not_occurs_notNumber_collection_iff]
      constructor
      · rintro ⟨others, same, -, each⟩ entry member
        obtain rfl := collection.inj same
        obtain ⟨other, found, sameValue⟩ := each entry member
        rw [(Entries.lookup_eq_some_iff distinct).mpr member] at found
        obtain rfl := Option.some.inj found
        exact (induction entry member (inside entry member)).mp sameValue
      · intro numbers
        refine ⟨entries, rfl, rfl, fun entry member => ?_⟩
        exact ⟨entry.2, (Entries.lookup_eq_some_iff distinct).mpr member,
          (induction entry member (inside entry member)).mpr (numbers entry member)⟩

/-- The second argument is the first one with entries of its collections in another order. -/
inductive Reordered : Argument → Argument → Prop
  | same (argument : Argument) : Reordered argument argument
  | permuted {entries others : List (Key × Argument)} (permutation : entries.Perm others) :
      Reordered (.collection entries) (.collection others)
  | inside {before after : List (Key × Argument)} {key : Key} {value other : Argument}
      (reordered : Reordered value other) :
      Reordered (.collection (before ++ (key, value) :: after))
        (.collection (before ++ (key, other) :: after))
  | trans {first second third : Argument} (left : Reordered first second)
      (right : Reordered second third) : Reordered first third

/-- Distinct keys and floats that are numbers at every depth make an argument equal itself. -/
structure Comparable (argument : Argument) : Prop where
  distinct : argument.DistinctKeys
  numbers : ¬ Occurs (.float .notNumber) argument

theorem Comparable.same_self {argument : Argument} (comparable : argument.Comparable) :
    argument.same argument = true :=
  (same_self_iff comparable.distinct).mpr comparable.numbers

theorem comparable_collection_iff {entries : List (Key × Argument)} :
    Comparable (.collection entries) ↔
      (Entries.keys entries).Nodup ∧ ∀ entry ∈ entries, Comparable entry.2 := by
  constructor
  · rintro ⟨distinct, numbers⟩
    obtain ⟨distinct, inside⟩ := distinctKeys_collection_iff.mp distinct
    rw [not_occurs_notNumber_collection_iff] at numbers
    exact ⟨distinct, fun entry member => ⟨inside entry member, numbers entry member⟩⟩
  · rintro ⟨distinct, inside⟩
    exact ⟨distinctKeys_collection_iff.mpr
        ⟨distinct, fun entry member => (inside entry member).distinct⟩,
      not_occurs_notNumber_collection_iff.mpr fun entry member => (inside entry member).numbers⟩

theorem same_of_perm {entries others : List (Key × Argument)} (permutation : entries.Perm others)
    (comparable : Comparable (.collection entries)) :
    (collection entries).same (.collection others) = true ∧ Comparable (.collection others) := by
  obtain ⟨distinct, inside⟩ := comparable_collection_iff.mp comparable
  have otherDistinct : (Entries.keys others).Nodup :=
    (permutation.map Prod.fst).nodup_iff.mp distinct
  constructor
  · refine (same_collection_iff _ _).mpr ⟨others, rfl, permutation.length_eq, ?_⟩
    intro entry member
    have among := permutation.mem_iff.mp member
    exact ⟨entry.2, (Entries.lookup_eq_some_iff otherDistinct).mpr among,
      (inside entry member).same_self⟩
  · exact comparable_collection_iff.mpr
      ⟨otherDistinct, fun entry member => inside entry (permutation.mem_iff.mpr member)⟩

/-- A value may be exchanged for an equal one. -/
theorem same_of_value {before after : List (Key × Argument)} {key : Key} {value other : Argument}
    (comparable : Comparable (.collection (before ++ (key, value) :: after)))
    (same : value.same other = true) (otherComparable : other.Comparable) :
    (collection (before ++ (key, value) :: after)).same
        (.collection (before ++ (key, other) :: after)) = true ∧
      Comparable (.collection (before ++ (key, other) :: after)) := by
  obtain ⟨distinct, inside⟩ := comparable_collection_iff.mp comparable
  have sameKeys : Entries.keys (before ++ (key, value) :: after) =
      Entries.keys (before ++ (key, other) :: after) := by
    simp only [Entries.keys, List.map_append, List.map_cons]
  rw [sameKeys] at distinct
  rw [List.forall_mem_append, List.forall_mem_cons] at inside
  obtain ⟨insideBefore, -, insideAfter⟩ := inside
  constructor
  · refine (same_collection_iff _ _).mpr ⟨_, rfl, by simp, ?_⟩
    simp only [Entries.lookup_eq_some_iff distinct]
    rw [List.forall_mem_append, List.forall_mem_cons]
    refine ⟨fun entry member => ?_, ⟨other, by simp, same⟩, fun entry member => ?_⟩
    · exact ⟨entry.2, by simp [member], (insideBefore entry member).same_self⟩
    · exact ⟨entry.2, by simp [member], (insideAfter entry member).same_self⟩
  · refine comparable_collection_iff.mpr ⟨distinct, ?_⟩
    rw [List.forall_mem_append, List.forall_mem_cons]
    exact ⟨insideBefore, otherComparable, insideAfter⟩

theorem same_of_reordered {first second : Argument} (reordered : Reordered first second)
    (comparable : first.Comparable) : first.same second = true ∧ second.Comparable := by
  induction reordered with
  | same argument => exact ⟨comparable.same_self, comparable⟩
  | permuted permutation => exact same_of_perm permutation comparable
  | inside _ induction =>
      have value := (comparable_collection_iff.mp comparable).2 _
        (List.mem_append_right _ List.mem_cons_self)
      obtain ⟨same, otherComparable⟩ := induction value
      exact same_of_value comparable same otherComparable
  | trans _ _ inductionLeft inductionRight =>
      obtain ⟨sameLeft, comparable⟩ := inductionLeft comparable
      obtain ⟨sameRight, comparable⟩ := inductionRight comparable
      exact ⟨same_trans sameLeft sameRight, comparable⟩

/-- Equality is symmetric and transitive. An argument equals itself exactly when every float in it
is a number, and then it equals whatever another order of entries makes of it. -/
theorem same_is_partial_equivalence :
    (∀ first second : Argument, first.DistinctKeys → first.same second = true →
      second.same first = true) ∧
    (∀ first second third : Argument, first.same second = true → second.same third = true →
      first.same third = true) ∧
    (∀ argument : Argument, argument.DistinctKeys →
      (argument.same argument = true ↔ ¬ Occurs (.float .notNumber) argument)) ∧
    ∀ first second : Argument, first.DistinctKeys → ¬ Occurs (.float .notNumber) first →
      Reordered first second → first.same second = true := by
  refine ⟨fun _ _ => same_symm, fun _ _ _ => same_trans,
    fun _ => same_self_iff, ?_⟩
  intro first second distinct numbers reordered
  exact (same_of_reordered reordered ⟨distinct, numbers⟩).1

/-- Entries in another order at two depths and a zero with a sign make no difference, and a float
that is not a number does. -/
theorem same_is_partial_equivalence_of_nested_entries :
    let zero : Key × Argument := (.name ['z'], .float .zero)
    let inner : List (Key × Argument) := [(.index 0, .text ['x']), (.name ['0'], .null)]
    let first : Argument := .collection [zero, (.index 1, .collection inner)]
    let second : Argument := .collection [(.index 1, .collection inner.reverse), zero]
    let third : Argument := .collection
      [(.name ['z'], .float (.finite true .zero)), (.index 1, .collection inner)]
    let broken : Argument := .collection [zero, (.index 1, .float .notNumber)]
    first.DistinctKeys ∧ ¬ Occurs (.float .notNumber) first ∧ Reordered first second ∧
      first.same second = true ∧ second.same third = true ∧ first.same third = true ∧
      third.same first = true ∧ broken.DistinctKeys ∧ broken.same broken = false := by
  intro zero inner first second third broken
  obtain ⟨symmetric, transitive, reflexive, orderless⟩ := same_is_partial_equivalence
  have zeroDistinct : zero.2.DistinctKeys := distinctKeys_of_kind nofun
  have innerDistinct : (collection inner).DistinctKeys := by
    refine distinctKeys_collection_iff.mpr ⟨by decide, List.forall_mem_cons.mpr ⟨?_, ?_⟩⟩
    · exact distinctKeys_of_kind nofun
    · exact List.forall_mem_singleton.mpr (distinctKeys_of_kind nofun)
  have distinct : first.DistinctKeys := distinctKeys_collection_iff.mpr
    ⟨by decide, List.forall_mem_cons.mpr
      ⟨zeroDistinct, List.forall_mem_singleton.mpr innerDistinct⟩⟩
  have brokenDistinct : broken.DistinctKeys := distinctKeys_collection_iff.mpr
    ⟨by decide, List.forall_mem_cons.mpr
      ⟨zeroDistinct, List.forall_mem_singleton.mpr (distinctKeys_of_kind nofun)⟩⟩
  have itself : first.same first = true := rfl
  have numbers := (reflexive first distinct).mp itself
  have reversed : Reordered (.collection inner) (.collection inner.reverse) :=
    .permuted (List.reverse_perm inner).symm
  have inside : Reordered (.collection ([zero] ++ [(.index 1, .collection inner)]))
      (.collection ([zero] ++ [(.index 1, .collection inner.reverse)])) := .inside reversed
  have reordered : Reordered first second := .trans inside (.permuted (List.Perm.swap _ _ _))
  have left := orderless first second distinct numbers reordered
  have right : second.same third = true := rfl
  have both := transitive first second third left right
  refine ⟨distinct, numbers, reordered, left, right, both, symmetric first third distinct both,
    brokenDistinct, Bool.eq_false_iff.mpr fun same => ?_⟩
  have inBroken : Occurs (.float .notNumber) broken :=
    .member (List.mem_cons_of_mem zero List.mem_cons_self) .self
  exact (reflexive broken brokenDistinct).mp same inBroken

end Argument
end QueryTemplate
