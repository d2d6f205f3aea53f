import Mathlib.Data.List.DropRight
import QueryTemplate.Text.Blank

/-! # The two ends of a text

Blanks around a text are trimmed, and nothing is trimmed twice. Of the starts of a text that mean
something, the longest one is what is read off it.
-/
namespace QueryTemplate.Text

variable {drop : Char → Bool}

theorem dropWhile_eq_self {text : Text} (stop : ∀ character ∈ text.head?, drop character = false) :
    text.dropWhile drop = text := by
  cases text with
  | nil => rfl
  | cons first rest => exact List.dropWhile_cons_of_neg (by simp [stop first rfl])

theorem eq_false_of_mem_head?_dropWhile {text : Text} {character : Char}
    (first : character ∈ (text.dropWhile drop).head?) : drop character = false := by
  have stop := List.head?_dropWhile_not drop text
  rwa [Option.mem_def.mp first] at stop

theorem dropWhileRight_append {text dropped : Text}
    (all : ∀ character ∈ dropped, drop character = true)
    (stop : ∀ character ∈ text.getLast?, drop character = false) :
    dropWhileRight drop (text ++ dropped) = text := by
  rw [← List.head?_reverse] at stop
  rw [dropWhileRight, List.reverse_append,
    List.dropWhile_append_of_pos fun character member => all character (List.mem_reverse.mp member),
    dropWhile_eq_self stop, List.reverse_reverse]

theorem trimStart_append {blanks : Text}
    (blank : ∀ character ∈ blanks, isBlank character = true) (text : Text) :
    trimStart (blanks ++ text) = trimStart text :=
  List.dropWhile_append_of_pos blank

/-- What is trimmed at both ends has nothing left to trim at its start. -/
theorem trimStart_trim (text : Text) : trimStart (trim text) = trim text := by
  apply dropWhile_eq_self
  intro first atStart
  obtain ⟨dropped, kept⟩ : trim text <+: trimStart text := List.rdropWhile_prefix isBlank _
  have first_eq : first ∈ (trimStart text).head? := by
    rw [← kept, List.head?_append, Option.mem_def.mp atStart]
    rfl
  exact eq_false_of_mem_head?_dropWhile first_eq

/-- Blanks around a text without blanks are all that is trimmed. -/
theorem trim_append {left text right : Text}
    (leftBlank : ∀ character ∈ left, isBlank character = true)
    (rightBlank : ∀ character ∈ right, isBlank character = true) (nonempty : text ≠ [])
    (notBlank : ∀ character ∈ text, isBlank character = false) :
    trim (left ++ (text ++ right)) = text := by
  have whole : trimStart (text ++ right) = text ++ right := by
    apply dropWhile_eq_self
    rw [List.head?_append_of_ne_nil _ nonempty]
    exact fun character first => notBlank character (List.mem_of_mem_head? first)
  rw [trim, trimStart_append leftBlank, whole]
  exact dropWhileRight_append rightBlank fun character last =>
    notBlank character (List.mem_of_getLast? last)

theorem trim_eq_self {text : Text} (nonempty : text ≠ [])
    (notBlank : ∀ character ∈ text, isBlank character = false) : trim text = text := by
  have trimmed : trim ([] ++ (text ++ [])) = text :=
    trim_append (by simp) (by simp) nonempty notBlank
  rwa [List.append_nil, List.nil_append] at trimmed

/-- Of the starts of a text that denote something this is the longest, with what it denotes. -/
structure LongestStart {α : Type} (Denotes : Text → α → Prop) (text start : Text) (value : α) :
    Prop where
  isStart : start <+: text
  denotes : Denotes start value
  length_le : ∀ other otherValue, other <+: text → Denotes other otherValue →
    other.length ≤ start.length

/-- A start is longest when less is left behind it than behind any other. -/
theorem LongestStart.of_rest {α : Type} {Denotes : Text → α → Prop} {start rest : Text} {value : α}
    (denotes : Denotes start value)
    (least : ∀ other otherValue more, start ++ rest = other ++ more → Denotes other otherValue →
      rest <:+ more) :
    LongestStart Denotes (start ++ rest) start value where
  isStart := List.prefix_append start rest
  denotes := denotes
  length_le := by
    rintro other otherValue ⟨more, same⟩ otherDenotes
    have left := (least other otherValue more same.symm otherDenotes).length_le
    have total := congrArg List.length same
    rw [List.length_append, List.length_append] at total
    omega

end QueryTemplate.Text
