import QueryTemplate.Proofs.Compilation.Pairing
import QueryTemplate.Proofs.Template.Blocks

/-! # Regions of a template

The tokens of a template are grouped into regions: parts that stand outside blocks, and blocks of
parts. Every part that is a placeholder has its argument. A grouping is a list of regions that reads
as the tokens and as the arguments; there is one for every template with an argument for each
placeholder.
-/
namespace QueryTemplate

/-- A literal text, or a placeholder with its argument. -/
inductive Part
  | text (characters : Text)
  | placeholder (tag : Tag) (argument : Argument)

/-- A part outside blocks, or the parts of a block. -/
inductive Region
  | single (part : Part)
  | block (parts : List Part)

def Part.item : Part → Item
  | .text characters => .text characters
  | .placeholder tag argument => .placeholder tag argument

def Region.items : Region → List Item
  | .single part => [part.item]
  | .block parts => .blockStart :: (parts.map Part.item ++ [.blockEnd])

/-- Regions that read as the given tokens and as the given arguments. -/
structure Grouping (tokens : List Token) (arguments : List Argument) where
  regions : List Region
  tokens_eq : (regions.flatMap Region.items).map Item.token = tokens
  arguments_eq : (regions.flatMap Region.items).flatMap Item.arguments = arguments

/-- The tags of the placeholders of a template, in order, each with the argument of its position. -/
def Template.slots (template : Template) (arguments : List Argument) : List (Tag × Argument) :=
  (template.tokens.filterMap Token.tag?).zip arguments

theorem flatMap_items_single (parts : List Part) :
    (parts.map Region.single).flatMap Region.items = parts.map Part.item := by
  induction parts with
  | nil => rfl
  | cons part rest induction => rw [List.map_cons, List.flatMap_cons, induction]; rfl

/-- Items without the ends of a block are parts. -/
theorem exists_parts {items : List Item} (starts : .blockStart ∉ items.map Item.token)
    (ends : .blockEnd ∉ items.map Item.token) :
    ∃ parts : List Part, parts.map Part.item = items := by
  induction items with
  | nil => exact ⟨[], rfl⟩
  | cons item rest induction =>
      rw [List.map_cons, List.mem_cons, not_or] at starts ends
      obtain ⟨parts, rfl⟩ := induction starts.2 ends.2
      cases item with
      | text characters => exact ⟨.text characters :: parts, rfl⟩
      | placeholder tag argument => exact ⟨.placeholder tag argument :: parts, rfl⟩
      | blockStart => exact absurd rfl starts.1
      | blockEnd => exact absurd rfl ends.1

theorem exists_regions (items : List Item) :
    (Token.BlocksClosed false (items.map Item.token) →
      ∃ regions : List Region, regions.flatMap Region.items = items) ∧
    (Token.BlocksClosed true (items.map Item.token) →
      ∃ (parts : List Part) (regions : List Region),
        parts.map Part.item ++ .blockEnd :: regions.flatMap Region.items = items) := by
  induction items with
  | nil =>
      refine ⟨fun _ => ⟨[], rfl⟩, ?_⟩
      intro closed
      exact absurd closed.symm Bool.false_ne_true
  | cons item rest induction =>
      obtain ⟨outside, inside⟩ := induction
      cases item with
      | text characters =>
          constructor
          · intro closed
            obtain ⟨regions, rfl⟩ := outside closed
            exact ⟨.single (.text characters) :: regions, rfl⟩
          · intro closed
            obtain ⟨parts, regions, rfl⟩ := inside closed
            exact ⟨.text characters :: parts, regions, rfl⟩
      | placeholder tag argument =>
          constructor
          · intro closed
            obtain ⟨regions, rfl⟩ := outside closed
            exact ⟨.single (.placeholder tag argument) :: regions, rfl⟩
          · intro closed
            obtain ⟨parts, regions, rfl⟩ := inside closed
            exact ⟨.placeholder tag argument :: parts, regions, rfl⟩
      | blockStart =>
          constructor
          · rintro ⟨-, closed⟩
            obtain ⟨parts, regions, rfl⟩ := inside closed
            exact ⟨.block parts :: regions, by simp [Region.items]⟩
          · intro closed
            exact absurd closed.1.symm Bool.false_ne_true
      | blockEnd =>
          constructor
          · intro closed
            exact absurd closed.1 Bool.false_ne_true
          · rintro ⟨-, closed⟩
            obtain ⟨regions, rfl⟩ := outside closed
            exact ⟨[], regions, rfl⟩

namespace Grouping

variable {tokens : List Token} {arguments : List Argument}

def items (grouping : Grouping tokens arguments) : List Item :=
  grouping.regions.flatMap Region.items

@[simp] theorem map_token_items (grouping : Grouping tokens arguments) :
    grouping.items.map Item.token = tokens :=
  grouping.tokens_eq

@[simp] theorem flatMap_arguments_items (grouping : Grouping tokens arguments) :
    grouping.items.flatMap Item.arguments = arguments :=
  grouping.arguments_eq

theorem pair?_eq (grouping : Grouping tokens arguments) :
    Item.pair? tokens arguments = some grouping.items :=
  Item.pair?_eq_some_iff.mpr ⟨grouping.tokens_eq, grouping.arguments_eq⟩

theorem length_arguments (grouping : Grouping tokens arguments) :
    arguments.length = tokens.countP Token.isPlaceholder :=
  Item.exists_items_iff.mpr ⟨grouping.items, grouping.tokens_eq, grouping.arguments_eq⟩

/-- Tokens with closed blocks and an argument for each placeholder have a grouping. -/
theorem nonempty_of_blocksClosed (closed : Token.BlocksClosed false tokens)
    (count : arguments.length = tokens.countP Token.isPlaceholder) :
    Nonempty (Grouping tokens arguments) := by
  obtain ⟨items, rfl, rfl⟩ := Item.exists_items_iff.mp count
  obtain ⟨regions, rfl⟩ := (exists_regions items).1 closed
  exact ⟨⟨regions, rfl, rfl⟩⟩

theorem nonempty_of_template {template : Template}
    (count : arguments.length = template.placeholderCount) :
    Nonempty (Grouping template.tokens arguments) :=
  nonempty_of_blocksClosed template.blocksClosed count

theorem nonempty_of_scan {text : Text} (count : arguments.length = text.count '?') :
    Nonempty (Grouping (Token.scan false text) arguments) := by
  apply nonempty_of_blocksClosed (Token.blocksClosed_scan_false text)
  rw [count, Token.countP_isPlaceholder_scan]

theorem mem_slots_of_mem_region (grouping : Grouping tokens arguments) {region : Region}
    (member : region ∈ grouping.regions) {slot : Tag × Argument}
    (found : slot ∈ region.items.filterMap Item.slot?) :
    slot ∈ grouping.items.filterMap Item.slot? := by
  obtain ⟨item, inside, same⟩ := List.mem_filterMap.mp found
  exact List.mem_filterMap.mpr ⟨item, List.mem_flatMap_of_mem member inside, same⟩

theorem filterMap_slot?_items {template : Template}
    (grouping : Grouping template.tokens arguments) :
    grouping.items.filterMap Item.slot? = template.slots arguments := by
  rw [Item.filterMap_slot?_eq_zip, grouping.map_token_items, grouping.flatMap_arguments_items,
    Template.slots]

variable {otherTokens : List Token} {otherArguments : List Argument}

def append (first : Grouping tokens arguments) (second : Grouping otherTokens otherArguments) :
    Grouping (tokens ++ otherTokens) (arguments ++ otherArguments) where
  regions := first.regions ++ second.regions
  tokens_eq := by rw [List.flatMap_append, List.map_append, first.tokens_eq, second.tokens_eq]
  arguments_eq := by
    rw [List.flatMap_append, List.flatMap_append, first.arguments_eq, second.arguments_eq]

@[simp] theorem items_append (first : Grouping tokens arguments)
    (second : Grouping otherTokens otherArguments) :
    (first.append second).items = first.items ++ second.items :=
  List.flatMap_append

/-- The parts of a text without braces, none of them in a block. -/
def ofParts (parts : List Part)
    (tokens_eq : (parts.map Part.item).map Item.token = tokens)
    (arguments_eq : (parts.map Part.item).flatMap Item.arguments = arguments) :
    Grouping tokens arguments where
  regions := parts.map .single
  tokens_eq := by rw [flatMap_items_single, tokens_eq]
  arguments_eq := by rw [flatMap_items_single, arguments_eq]

/-- The parts of a text without braces, in one block. -/
def ofBlock (parts : List Part)
    (tokens_eq : (parts.map Part.item).map Item.token = tokens)
    (arguments_eq : (parts.map Part.item).flatMap Item.arguments = arguments) :
    Grouping (.blockStart :: (tokens ++ [.blockEnd])) arguments where
  regions := [.block parts]
  tokens_eq := by
    rw [← tokens_eq]
    simp [Region.items, Item.token]
  arguments_eq := by
    rw [← arguments_eq]
    simp [Region.items, Item.arguments]

@[simp] theorem items_ofParts (parts : List Part)
    (tokens_eq : (parts.map Part.item).map Item.token = tokens)
    (arguments_eq : (parts.map Part.item).flatMap Item.arguments = arguments) :
    (ofParts parts tokens_eq arguments_eq).items = parts.map Part.item :=
  flatMap_items_single parts

@[simp] theorem items_ofBlock (parts : List Part)
    (tokens_eq : (parts.map Part.item).map Item.token = tokens)
    (arguments_eq : (parts.map Part.item).flatMap Item.arguments = arguments) :
    (ofBlock parts tokens_eq arguments_eq).items =
      .blockStart :: (parts.map Part.item ++ [.blockEnd]) := by
  simp [items, ofBlock, Region.items]

end Grouping
end QueryTemplate
