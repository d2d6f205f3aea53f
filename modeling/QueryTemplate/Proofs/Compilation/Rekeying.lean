import QueryTemplate.Argument.Json
import QueryTemplate.Compilation.Compiler
import QueryTemplate.Proofs.Argument.Positional
import QueryTemplate.Proofs.Compilation.Pairing
import Mathlib.Data.List.Forall2
import Mathlib.Data.List.Nodup

/-! # Positional keys are interchangeable

A positional key puts its entry in order and does nothing else: an index in its place, or a name
that is a numeral, changes no rendering, and so no plan. A compilation is what its host makes of a
plan, so it has the same result and the same effects. Thus an array and an object with the
positions as names are one and the same argument to a compilation.
-/
namespace QueryTemplate

/-- The same key, or two positional ones. -/
inductive Key.Interchangeable : Key → Key → Prop
  | same (key : Key) : Interchangeable key key
  | positional {first second : Key} (firstPositional : first.isPositional = true)
      (secondPositional : second.isPositional = true) : Interchangeable first second

theorem Decimal.ofInt_natCast (number : Nat) : ofInt number = ofNat number := by
  rw [ofInt, if_neg (Int.not_lt.mpr (Int.natCast_nonneg number)), Int.natAbs_natCast]

theorem Key.interchangeable_ofPosition (index number : Nat) :
    Interchangeable (ofPosition index) (name (Decimal.ofNat number)) :=
  .positional rfl (Decimal.ofInt_natCast number ▸ isPositional_ofInt number)

namespace Argument

/-- The same value under interchangeable keys. -/
structure SameEntry (first second : Key × Argument) : Prop where
  key : first.1.Interchangeable second.1
  value : first.2 = second.2

/-- The same argument, up to the positional keys of a collection. -/
inductive Rekeyed : Argument → Argument → Prop
  | same (argument : Argument) : Rekeyed argument argument
  | collection {entries others : List (Key × Argument)}
      (each : List.Forall₂ SameEntry entries others) :
      Rekeyed (.collection entries) (.collection others)

theorem entryLabel_eq_nil {key : Key} (positional : key.isPositional = true) :
    entryLabel key = [] := by
  cases key with
  | index position => rfl
  | name column => exact if_pos positional

theorem entryLabel_of_interchangeable {first second : Key} (keys : first.Interchangeable second) :
    entryLabel first = entryLabel second := by
  cases keys with
  | same => rfl
  | positional firstPositional secondPositional =>
      rw [entryLabel_eq_nil firstPositional, entryLabel_eq_nil secondPositional]

theorem renderName_of_sameEntry {first second : Key × Argument} (same : SameEntry first second) :
    renderName first = renderName second := by
  rw [renderName, renderName, same.value]

theorem renderEntry_of_sameEntry {first second : Key × Argument} (same : SameEntry first second) :
    renderEntry first = renderEntry second := by
  rw [renderEntry, renderEntry, entryLabel_of_interchangeable same.key, same.value]

/-- Arguments that every tag writes alike. -/
def RenderAlike (first second : Argument) : Prop := ∀ tag, first.render tag = second.render tag

/-- A function that is the same on related items gives related lists the same images. -/
theorem map_eq_of_forall₂ {α β : Type} {related : α → α → Prop} (function : α → β)
    (preserves : ∀ first second, related first second → function first = function second)
    {firsts seconds : List α} (all : List.Forall₂ related firsts seconds) :
    firsts.map function = seconds.map function := by
  rw [← List.forall₂_eq_eq_eq]
  exact List.rel_map (fun first second => preserves first second) all

/-- No tag tells the positional keys of a collection apart. -/
theorem renderAlike_of_rekeyed {first second : Argument} (rekeyed : Rekeyed first second) :
    RenderAlike first second := by
  intro tag
  cases rekeyed with
  | same => rfl
  | collection each =>
      cases tag with
      -- a collection is refused by its kind, whatever its entries are
      | auto | integer | float => rfl
      | identifier =>
          have names := map_eq_of_forall₂ renderName (fun _ _ => renderName_of_sameEntry) each
          exact congrArg Rendering.commaSeparated names
      | list =>
          have values := map_eq_of_forall₂ renderEntry (fun _ _ => renderEntry_of_sameEntry) each
          exact congrArg Rendering.commaSeparated values

theorem forall₂_rekeyed_self (arguments : List Argument) :
    List.Forall₂ Rekeyed arguments arguments :=
  List.forall₂_same.mpr fun argument _ => .same argument

end Argument

/-- Other arguments that are written alike can stand in the items of a plan. -/
theorem Item.exists_of_renderAlike {items : List Item} {arguments : List Argument}
    (alike : List.Forall₂ Argument.RenderAlike (items.flatMap Item.arguments) arguments) :
    ∃ others : List Item, others.map token = items.map token ∧
      others.flatMap Item.arguments = arguments ∧
      ∀ position, Plan.ofItems position others = Plan.ofItems position items := by
  -- plans are compared at every position, since a placeholder moves the rest on by one
  induction items generalizing arguments with
  | nil =>
      obtain rfl := List.forall₂_nil_left_iff.mp alike
      exact ⟨[], rfl, rfl, fun _ => rfl⟩
  | cons item rest induction =>
      cases item with
      | placeholder tag argument =>
          obtain ⟨other, remaining, same, restAlike, rfl⟩ := List.forall₂_cons_left_iff.mp alike
          obtain ⟨others, tokens, arguments, plan⟩ := induction restAlike
          refine ⟨.placeholder tag other :: others, ?_, ?_, fun position => ?_⟩
          · rw [List.map_cons, List.map_cons, tokens, token, token]
          · rw [List.flatMap_cons, arguments, Item.arguments, List.singleton_append]
          · simp only [Plan.ofItems, same tag, plan]
      | _ =>
          obtain ⟨others, tokens, arguments, plan⟩ := induction alike
          refine ⟨_ :: others, congrArg (List.cons _) tokens, arguments, fun position => ?_⟩
          simp only [Plan.ofItems, plan]

/-- A plan depends on its arguments only through what they render to. -/
theorem Plan.make_of_renderAlike (tokens : List Token) {firsts seconds : List Argument}
    (alike : List.Forall₂ Argument.RenderAlike firsts seconds) :
    make tokens firsts = make tokens seconds := by
  have sameLength := alike.length_eq
  by_cases count : firsts.length = tokens.countP Token.isPlaceholder
  · obtain ⟨items, rfl, rfl⟩ := Item.exists_items_iff.mp count
    obtain ⟨others, sameTokens, rfl, samePlan⟩ := Item.exists_of_renderAlike alike
    rw [make_items, ← sameTokens, make_items, samePlan]
  · rw [make_of_ne count, make_of_ne (sameLength ▸ count), sameLength]

/-- Lists of arguments that no host tells apart, whatever the template and the settings are. -/
def Template.CompileAlike (firsts seconds : List Argument) : Prop :=
  ∀ (m : Type → Type) [Monad m] (host : Host m) (settings : Settings) (template : Template),
    template.compileWith host settings firsts = template.compileWith host settings seconds

theorem Template.compileAlike_of_rekeyed {firsts seconds : List Argument}
    (rekeyed : List.Forall₂ Argument.Rekeyed firsts seconds) : CompileAlike firsts seconds := by
  intro m _ host settings template
  -- the arguments enter a compilation through its plan alone
  have alike : List.Forall₂ Argument.RenderAlike firsts seconds :=
    rekeyed.imp fun _ _ => Argument.renderAlike_of_rekeyed
  rw [compileWith, compileWith, Plan.make_of_renderAlike template.tokens alike]

theorem Compiler.observe_of_compileAlike (compiler : Compiler) (template : Template)
    {firsts seconds : List Argument} (alike : Template.CompileAlike firsts seconds) :
    compiler.observe template firsts = compiler.observe template seconds := by
  rw [observe, observe, alike _ compiler.recordingHost]

/-- The elements as members named by their positions, counted from `start`. -/
def Json.numbered (start : Nat) : List Json → List (Text × Json)
  | [] => []
  | element :: rest => (Decimal.ofNat start, element) :: numbered (start + 1) rest

theorem Json.map_fst_numbered (start : Nat) (elements : List Json) :
    (numbered start elements).map Prod.fst =
      (List.range' start elements.length).map Decimal.ofNat := by
  induction elements generalizing start with
  | nil => rfl
  | cons element rest induction =>
      rw [numbered, List.map_cons, induction, List.length_cons, List.range'_succ, List.map_cons]

theorem Json.map_snd_numbered (start : Nat) (elements : List Json) :
    (numbered start elements).map Prod.snd = elements := by
  induction elements generalizing start with
  | nil => rfl
  | cons element rest induction => rw [numbered, List.map_cons, induction]

/-- The decimal texts of different positions differ. -/
theorem Json.nodup_numbered (start : Nat) (elements : List Json) :
    ((numbered start elements).map Prod.fst).Nodup := by
  rw [map_fst_numbered]
  exact List.Nodup.map (Function.LeftInverse.injective Decimal.value_ofNat) List.nodup_range'

namespace Argument

/-- Members named by positions fail as the elements do, or have the same values in the same order.
-/
theorem ofMembers_numbered (start : Nat) (elements : List Json) :
    (∃ error, ofElements elements = .error error ∧
      ofMembers (Json.numbered start elements) = .error error) ∨
    ∃ values entries, ofElements elements = .ok values ∧
      ofMembers (Json.numbered start elements) = .ok entries ∧
      List.Forall₂ SameEntry (enumerate start values) entries := by
  induction elements generalizing start with
  | nil => exact .inr ⟨[], [], rfl, rfl, .nil⟩
  | cons element rest induction =>
      rw [ofElements, Json.numbered, ofMembers]
      cases ofJson element with
      | error error => exact .inl ⟨error, rfl, rfl⟩
      | ok value =>
          rcases induction (start + 1) with
            ⟨error, elementsFail, membersFail⟩ | ⟨values, entries, elementsOk, membersOk, each⟩
          · rw [elementsFail, membersFail]
            exact .inl ⟨error, rfl, rfl⟩
          · rw [elementsOk, membersOk]
            have first : SameEntry (Key.ofPosition start, value)
                (.name (Decimal.ofNat start), value) :=
              ⟨Key.interchangeable_ofPosition start start, rfl⟩
            exact .inr ⟨value :: values, _, rfl, rfl, .cons first each⟩

/-- An array and the object with its positions as names fail alike or are the same argument up to
positional keys. -/
theorem ofJson_numbered (elements : List Json) :
    (∃ error, ofJson (.array elements) = .error error ∧
      ofJson (.object (Json.numbered 0 elements)) = .error error) ∨
    ∃ first second, ofJson (.array elements) = .ok first ∧
      ofJson (.object (Json.numbered 0 elements)) = .ok second ∧ Rekeyed first second := by
  rw [ofJson, ofJson]
  rcases ofMembers_numbered 0 elements with
    ⟨error, elementsFail, membersFail⟩ | ⟨values, entries, elementsOk, membersOk, each⟩
  · rw [elementsFail, membersFail]
    exact .inl ⟨error, rfl, rfl⟩
  · rw [elementsOk, membersOk]
    exact .inr ⟨_, _, rfl, rfl, .collection each⟩

end Argument

/-- A positional key of a collection argument can be any other positional key, distinct or not from
the rest: every host gets the same result with the same effects, so a compiler gives the same query
or error, escapes the same texts and reports the same event. Hence an array and the object whose
names are its positions are refused alike or are interchangeable in every list of arguments. -/
theorem Compiler.positional_keys_are_interchangeable :
    (∀ firsts seconds : List Argument, List.Forall₂ Argument.Rekeyed firsts seconds →
      Template.CompileAlike firsts seconds ∧
      ∀ (compiler : Compiler) (template : Template),
        compiler.observe template firsts = compiler.observe template seconds) ∧
    ∀ elements : List Json,
      (Json.numbered 0 elements).map Prod.fst =
        (List.range elements.length).map Decimal.ofNat ∧
      (Json.numbered 0 elements).map Prod.snd = elements ∧
      ((Json.numbered 0 elements).map Prod.fst).Nodup ∧
      ((∃ error, Argument.ofJson (.array elements) = .error error ∧
          Argument.ofJson (.object (Json.numbered 0 elements)) = .error error) ∨
        ∃ first second, Argument.ofJson (.array elements) = .ok first ∧
          Argument.ofJson (.object (Json.numbered 0 elements)) = .ok second ∧
          ∀ before after : List Argument,
            Template.CompileAlike (before ++ first :: after) (before ++ second :: after)) := by
  refine ⟨?_, fun elements => ⟨?_, Json.map_snd_numbered 0 elements,
    Json.nodup_numbered 0 elements, ?_⟩⟩
  · intro firsts seconds rekeyed
    have alike := Template.compileAlike_of_rekeyed rekeyed
    exact ⟨alike, fun compiler template => compiler.observe_of_compileAlike template alike⟩
  · rw [Json.map_fst_numbered, List.range_eq_range']
  · refine (Argument.ofJson_numbered elements).imp_right ?_
    rintro ⟨first, second, arrayOk, objectOk, rekeyed⟩
    refine ⟨first, second, arrayOk, objectOk, fun before after => ?_⟩
    exact Template.compileAlike_of_rekeyed (List.rel_append (Argument.forall₂_rekeyed_self before)
      (.cons rekeyed (Argument.forall₂_rekeyed_self after)))

/-- An index and a number out of range stand for one another, and the column between them stays. -/
theorem Compiler.positional_keys_are_interchangeable_around_column :
    let first : Argument := .collection
      [(.index 3, .text ['x']), (.name ['k'], .null), (.name [' ', '-', '.', '5'], .bool true)]
    let second : Argument := .collection
      [(.name ['1', 'e', '9', '9', '9'], .text ['x']), (.name ['k'], .null), (.index 0, .bool true)]
    let template : Template := .parse ['?', 'a']
    let compiler : Compiler := {}
    let written : Text := .ofString "'x', `k` = NULL, 1"
    List.Forall₂ Argument.Rekeyed [first] [second] ∧
      compiler.compileTemplate template [first] = .ok written ∧
      (compiler.observe template [second]).result = .ok written ∧
      (compiler.observe template [second]).escaped = [['x'], ['k']] := by
  intro first second template compiler written
  have rekeyed : Argument.Rekeyed first second :=
    .collection (.cons ⟨.positional rfl (by decide +kernel), rfl⟩
      (.cons ⟨.same _, rfl⟩ (.cons ⟨.positional (by decide +kernel) rfl, rfl⟩ .nil)))
  have both : List.Forall₂ Argument.Rekeyed [first] [second] := .cons rekeyed .nil
  obtain ⟨-, observed⟩ := positional_keys_are_interchangeable.1 [first] [second] both
  refine ⟨both, by decide +kernel, ?_, ?_⟩
  · rw [← observed compiler template]
    decide +kernel
  · rw [← observed compiler template]
    decide +kernel

end QueryTemplate
