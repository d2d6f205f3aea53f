import QueryTemplate.Text.Bytes

/-! # Shortened text

A text over its limit is cut behind the longest run of whole leading characters that fits. Among
the bytes of its encoding that is the first place, going back from the limit, at which a character
starts: the bytes before it encode the characters that are kept, and none of them is cut.
-/
namespace QueryTemplate.Text

/-- The UTF-8 encoding. -/
def utf8 (text : Text) : List UInt8 := text.flatMap String.utf8EncodeChar

@[simp] theorem utf8_nil : utf8 [] = [] := rfl

@[simp] theorem utf8_cons (character : Char) (text : Text) :
    utf8 (character :: text) = String.utf8EncodeChar character ++ utf8 text := rfl

theorem utf8_append (first second : Text) : utf8 (first ++ second) = utf8 first ++ utf8 second :=
  List.flatMap_append

theorem length_utf8 (text : Text) : (utf8 text).length = byteLength text := by
  induction text with
  | nil => rfl
  | cons character rest induction =>
      rw [utf8_cons, List.length_append, induction, String.length_utf8EncodeChar, byteLength_cons]

theorem byteLength_append (first second : Text) :
    byteLength (first ++ second) = byteLength first + byteLength second := by
  rw [← length_utf8, utf8_append, List.length_append, length_utf8, length_utf8]

/-- A character starts at a position among bytes, or the bytes end there. -/
def isBoundary (bytes : List UInt8) (position : Nat) : Bool :=
  match bytes[position]? with
  | some byte => decide byte.IsUTF8FirstByte
  | none => position == bytes.length

/-- The first boundary on the way back from a position to the start. -/
def boundaryBefore (bytes : List UInt8) : Nat → Nat
  | 0 => 0
  | position + 1 =>
      if isBoundary bytes (position + 1) then position + 1 else boundaryBefore bytes position

/-- The runs of leading characters that fit are the starts of the longest one. -/
theorem prefix_takeBytes_iff (limit : Nat) (text start : Text) :
    start <+: takeBytes limit text ↔ start <+: text ∧ byteLength start ≤ limit := by
  induction text generalizing limit start with
  | nil =>
      rw [takeBytes, List.prefix_nil]
      constructor
      · rintro rfl
        exact ⟨rfl, Nat.zero_le limit⟩
      · exact And.left
  | cons character rest induction =>
      cases start with
      | nil => simp
      | cons first start =>
          rw [takeBytes, List.cons_prefix_cons, byteLength_cons]
          split
          case isTrue fits =>
            rw [List.cons_prefix_cons, induction, and_assoc]
            refine and_congr_right fun same => and_congr_right fun _ => ?_
            subst same
            omega
          case isFalse exceeds =>
            simp only [List.prefix_nil, reduceCtorEq, false_iff, not_and]
            rintro ⟨rfl, -⟩
            omega

theorem takeBytes_prefix (limit : Nat) (text : Text) : takeBytes limit text <+: text :=
  ((prefix_takeBytes_iff limit text _).mp (List.prefix_refl _)).1

/-- What is left behind the longest run starts with a character that does not fit. -/
theorem lt_byteLength_takeBytes {limit : Nat} {text : Text} (exceeds : limit < byteLength text) :
    limit < byteLength (takeBytes limit text) + 4 := by
  obtain ⟨rest, split⟩ := takeBytes_prefix limit text
  have bound := byteLength_takeBytes_le limit text
  cases rest with
  | nil =>
      rw [List.append_nil] at split
      rw [split] at bound
      omega
  | cons next rest =>
      have longer : ¬ takeBytes limit text ++ [next] <+: takeBytes limit text := by
        intro shorter
        have := shorter.length_le
        rw [List.length_append, List.length_singleton] at this
        omega
      rw [prefix_takeBytes_iff, byteLength_append, byteLength_cons] at longer
      have starts : takeBytes limit text ++ [next] <+: text :=
        ⟨rest, by rw [List.append_assoc, List.singleton_append, split]⟩
      have unfit := mt (And.intro starts) longer
      have width := next.utf8Size_le_four
      rw [byteLength_nil] at unfit
      omega

theorem takeBytes_eq_nil_iff {limit : Nat} {text : Text} (exceeds : limit < byteLength text) :
    takeBytes limit text = [] ↔ ∃ first rest, text = first :: rest ∧ limit < first.utf8Size := by
  cases text with
  | nil => exact absurd exceeds (Nat.not_lt_zero limit)
  | cons character rest =>
      rw [takeBytes]
      split
      case isTrue fits => simpa using fits
      case isFalse unfit => simpa using unfit

/-- The boundaries of an encoding are the ends of the runs of leading characters. -/
theorem isBoundary_utf8_iff (text : Text) (position : Nat) :
    isBoundary (utf8 text) position = true ↔
      ∃ start, start <+: text ∧ byteLength start = position := by
  induction text generalizing position with
  | nil =>
      simp only [isBoundary, utf8_nil, List.getElem?_nil, List.length_nil, beq_iff_eq,
        List.prefix_nil, exists_eq_left, byteLength_nil]
      exact eq_comm
  | cons character rest induction =>
      have size := String.length_utf8EncodeChar character
      have positive := character.utf8Size_pos
      rcases Nat.lt_or_ge position character.utf8Size with inside | beyond
      · -- within the first character only its first byte starts a character
        have inBytes : position < (String.utf8EncodeChar character).length := size ▸ inside
        rw [isBoundary, utf8_cons, List.getElem?_append_left inBytes,
          List.getElem?_eq_getElem inBytes]
        simp only [decide_eq_true_eq, UInt8.isUTF8FirstByte_getElem_utf8EncodeChar]
        constructor
        · rintro rfl
          exact ⟨[], List.nil_prefix, rfl⟩
        · rintro ⟨start, starts, rfl⟩
          cases start with
          | nil => rfl
          | cons first start =>
              obtain ⟨rfl, -⟩ := List.cons_prefix_cons.mp starts
              rw [byteLength_cons] at inside
              omega
      · have shifted : isBoundary (utf8 (character :: rest)) position =
            isBoundary (utf8 rest) (position - character.utf8Size) := by
          rw [isBoundary, isBoundary, utf8_cons, List.getElem?_append_right (size ▸ beyond), size,
            List.length_append, size]
          have sameEnd : (position == character.utf8Size + (utf8 rest).length) =
              (position - character.utf8Size == (utf8 rest).length) := by
            rw [Bool.eq_iff_iff, beq_iff_eq, beq_iff_eq]
            omega
          rw [sameEnd]
        rw [shifted, induction]
        constructor
        · rintro ⟨start, starts, length⟩
          refine ⟨character :: start, List.cons_prefix_cons.mpr ⟨rfl, starts⟩, ?_⟩
          rw [byteLength_cons, length]
          omega
        · rintro ⟨start, starts, rfl⟩
          cases start with
          | nil => exact absurd beyond (Nat.not_le.mpr positive)
          | cons first start =>
              obtain ⟨rfl, restStarts⟩ := List.cons_prefix_cons.mp starts
              exact ⟨start, restStarts, by rw [byteLength_cons, Nat.add_sub_cancel_left]⟩

theorem boundaryBefore_eq {bytes : List UInt8} {limit position : Nat} (below : position ≤ limit)
    (boundary : isBoundary bytes position = true)
    (last : ∀ other, isBoundary bytes other = true → other ≤ limit → other ≤ position) :
    boundaryBefore bytes limit = position := by
  induction limit with
  | zero => exact (Nat.le_zero.mp below).symm
  | succ limit induction =>
      rw [boundaryBefore]
      split
      case isTrue here => exact Nat.le_antisymm (last _ here (Nat.le_refl _)) below
      case isFalse notHere =>
        have distinct : position ≠ limit + 1 := fun same => notHere (same ▸ boundary)
        exact induction (by omega) fun other starts inLimit => last other starts (by omega)

/-- Going back from the limit ends behind the longest run of characters that fits. -/
theorem boundaryBefore_utf8 (limit : Nat) (text : Text) :
    boundaryBefore (utf8 text) limit = byteLength (takeBytes limit text) := by
  apply boundaryBefore_eq (byteLength_takeBytes_le limit text)
  · exact (isBoundary_utf8_iff _ _).mpr ⟨_, takeBytes_prefix limit text, rfl⟩
  · intro other boundary inLimit
    obtain ⟨start, starts, rfl⟩ := (isBoundary_utf8_iff _ _).mp boundary
    obtain ⟨rest, split⟩ := (prefix_takeBytes_iff limit text start).mpr ⟨starts, inLimit⟩
    rw [← split, byteLength_append]
    exact Nat.le_add_right _ _

/-- The bytes before the cut encode the characters that are kept. -/
theorem utf8_takeBytes (limit : Nat) (text : Text) :
    utf8 (takeBytes limit text) = (utf8 text).take (boundaryBefore (utf8 text) limit) := by
  obtain ⟨rest, split⟩ := takeBytes_prefix limit text
  have bytes : utf8 text = utf8 (takeBytes limit text) ++ utf8 rest := by
    rw [← utf8_append, split]
  rw [boundaryBefore_utf8, ← length_utf8, bytes, List.take_left]

/-- A text that fits its limit is shown as it is. Of any other the longest run of whole leading
characters that fits is shown, and three dots: it misses the limit by three bytes at most, is empty
only if the first character does not fit, and its encoding is cut off that of the text at the last
boundary within the limit. -/
theorem shorten_keeps_longest_start (text : Text) :
    shorten none text = text ∧
    ∀ limit,
      ((utf8 text).length ≤ limit → shorten (some limit) text = text) ∧
      (limit < (utf8 text).length → ∃ kept,
        shorten (some limit) text = kept ++ ['.', '.', '.'] ∧
        kept <+: text ∧ (utf8 kept).length ≤ limit ∧
        (∀ longer, longer <+: text → (utf8 longer).length ≤ limit → longer <+: kept) ∧
        limit < (utf8 kept).length + 4 ∧
        (kept = [] ↔ ∃ first rest, text = first :: rest ∧ limit < first.utf8Size) ∧
        utf8 kept = (utf8 text).take (boundaryBefore (utf8 text) limit)) := by
  refine ⟨rfl, fun limit => ?_⟩
  simp only [length_utf8]
  refine ⟨fun fits => if_pos fits, fun exceeds => ⟨takeBytes limit text, ?_⟩⟩
  refine ⟨if_neg (Nat.not_le.mpr exceeds), takeBytes_prefix limit text,
    byteLength_takeBytes_le limit text, ?_, lt_byteLength_takeBytes exceeds,
    takeBytes_eq_nil_iff exceeds, utf8_takeBytes limit text⟩
  exact fun longer starts fits => (prefix_takeBytes_iff limit text longer).mpr ⟨starts, fits⟩

/-- Characters of one to four bytes: a limit of nine lies within the last one and goes back to its
first byte, and a limit of three keeps nothing of a text that starts with it. -/
theorem shorten_keeps_longest_start_of_wide_characters :
    let widths : Text := ['a', 'é', '€', '😀']
    (utf8 widths).length = 10 ∧ shorten (some 10) widths = widths ∧
      shorten (some 9) widths = ['a', 'é', '€', '.', '.', '.'] ∧
      utf8 ['a', 'é', '€'] = (utf8 widths).take (boundaryBefore (utf8 widths) 9) ∧
      boundaryBefore (utf8 widths) 9 = 6 ∧
      shorten (some 3) ['😀', 'a'] = ['.', '.', '.'] := by
  intro widths
  have length : (utf8 widths).length = 10 := by decide
  have shown : shorten (some 9) widths = ['a', 'é', '€'] ++ ['.', '.', '.'] := by decide
  have fits := ((shorten_keeps_longest_start widths).2 10).1 (Nat.le_of_eq length)
  obtain ⟨kept, cut, -, -, -, -, -, bytes⟩ :=
    ((shorten_keeps_longest_start widths).2 9).2 (by decide)
  obtain rfl := List.append_cancel_right (cut.symm.trans shown)
  obtain ⟨nothing, unfit, -, -, -, -, empty, -⟩ :=
    ((shorten_keeps_longest_start ['😀', 'a']).2 3).2 (by decide)
  obtain rfl := empty.mpr ⟨'😀', ['a'], rfl, by decide⟩
  exact ⟨length, fits, shown, bytes, by decide, unfit⟩

end QueryTemplate.Text
