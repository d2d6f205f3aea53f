import QueryTemplate.Proofs.Template.Atoms

/-! # Merging literal texts

Merging joins the literal texts of each run and does nothing else: the other tokens stay, in order,
and so does the text between them. Its results are the sequences without two literal texts side by
side, and these are what it leaves unchanged. The start of a sequence may be merged before the rest,
so tokens may be merged as they come, each joined to the last one that is kept.
-/
namespace QueryTemplate.Token

/-- The tokens with one more at the end, joined to the last of them if both are literal texts. -/
def push (tokens : List Token) (token : Token) : List Token :=
  match tokens.getLast?, token with
  | some (.text last), .text next => tokens.dropLast ++ [.text (last ++ next)]
  | _, _ => tokens ++ [token]

/-- The literal texts before, between and after the other tokens. There is one more of them than
there are other tokens, and it is empty where no literal text stands. -/
def gaps (tokens : List Token) : List Text :=
  (tokens.splitOnP fun token => !token.isText).map print

theorem gaps_text (characters : Text) (rest : List Token) :
    gaps (.text characters :: rest) = (gaps rest).modifyHead (characters ++ ·) := by
  rw [gaps, List.splitOnP_cons_eq_if_modifyHead, if_neg (by simp [isText]), gaps]
  cases rest.splitOnP fun token => !token.isText with
  | nil => rfl
  | cons run runs => rfl

theorem gaps_of_isText_eq_false {token : Token} (notText : token.isText = false)
    (rest : List Token) : gaps (token :: rest) = [] :: gaps rest := by
  rw [gaps, List.splitOnP_cons_eq_if_modifyHead, if_pos (by simp [notText])]
  rfl

theorem gaps_joinText (characters : Text) (tokens : List Token) :
    gaps (joinText characters tokens) = (gaps tokens).modifyHead (characters ++ ·) := by
  induction tokens using text_induction with
  | nil => exact gaps_text characters []
  | text second others _ =>
      rw [joinText, gaps_text, gaps_text, List.modifyHead_modifyHead]
      simp [Function.comp_def]
  | other token others notText _ => rw [joinText_of_isText_eq_false notText, gaps_text]

/-- Merging moves no literal text across another token, and neither drops nor repeats any. -/
theorem gaps_mergeText (tokens : List Token) : gaps (mergeText tokens) = gaps tokens := by
  induction tokens using text_induction with
  | nil => rfl
  | text characters rest induction => rw [mergeText_text, gaps_joinText, induction, gaps_text]
  | other token rest notText induction =>
      rw [mergeText_of_isText_eq_false notText, gaps_of_isText_eq_false notText, induction,
        gaps_of_isText_eq_false notText]

theorem filter_mergeText (tokens : List Token) :
    (mergeText tokens).filter (fun token => !token.isText) =
      tokens.filter fun token => !token.isText := by
  rw [← List.filterMap_eq_filter, filterMap_mergeText fun _ => rfl]

/-- Tokens are merged already when no two literal texts stand side by side, and only then. -/
theorem mergeText_eq_self_iff (tokens : List Token) :
    mergeText tokens = tokens ↔ tokens.IsChain Apart := by
  refine ⟨?_, mergeText_of_isChain⟩
  intro same
  rw [← same]
  exact isChain_mergeText tokens

theorem mergeText_mergeText (tokens : List Token) :
    mergeText (mergeText tokens) = mergeText tokens :=
  mergeText_of_isChain (isChain_mergeText tokens)

theorem mergeText_joinText_append (characters : Text) (tokens rest : List Token) :
    mergeText (joinText characters tokens ++ rest) =
      joinText characters (mergeText (tokens ++ rest)) := by
  induction tokens using text_induction with
  | nil => exact mergeText_text characters rest
  | text second others _ =>
      rw [joinText, List.cons_append, mergeText_text, List.cons_append, mergeText_text,
        joinText_joinText]
  | other token others notText _ =>
      rw [joinText_of_isText_eq_false notText, List.cons_append, mergeText_text]

/-- The start of a sequence of tokens may be merged first. -/
theorem mergeText_mergeText_append (first second : List Token) :
    mergeText (mergeText first ++ second) = mergeText (first ++ second) := by
  induction first using text_induction with
  | nil => rfl
  | text characters rest induction =>
      rw [mergeText_text, mergeText_joinText_append, induction, List.cons_append, mergeText_text]
  | other token rest notText induction =>
      rw [mergeText_of_isText_eq_false notText, List.cons_append,
        mergeText_of_isText_eq_false notText, induction, List.cons_append,
        mergeText_of_isText_eq_false notText]

/-- Tokens that are merged alike are merged alike behind any others. -/
theorem mergeText_append_congr (first : List Token) {second third : List Token}
    (alike : mergeText second = mergeText third) :
    mergeText (first ++ second) = mergeText (first ++ third) := by
  induction first using text_induction with
  | nil => exact alike
  | text characters rest induction =>
      rw [List.cons_append, mergeText_text, induction, List.cons_append, mergeText_text]
  | other token rest notText induction =>
      rw [List.cons_append, mergeText_of_isText_eq_false notText, induction, List.cons_append,
        mergeText_of_isText_eq_false notText]

theorem push_concat_text (tokens : List Token) (last next : Text) :
    push (tokens ++ [.text last]) (.text next) = tokens ++ [.text (last ++ next)] := by
  simp [push]

theorem push_of_apart {tokens : List Token} {token : Token}
    (apart : ∀ last ∈ tokens.getLast?, Apart last token) :
    push tokens token = tokens ++ [token] := by
  unfold push
  split
  case h_1 last next isLast => exact absurd ⟨rfl, rfl⟩ (apart _ isLast)
  case h_2 => rfl

theorem isText_iff (token : Token) :
    token.isText = true ↔ ∃ characters, token = .text characters := by
  cases token <;> simp [isText]

theorem push_text_eq_mergeText {front : List Token} {last next : Text}
    (merged : List.IsChain Apart (front ++ [.text last])) :
    push (front ++ [.text last]) (.text next) =
      mergeText (front ++ [.text last] ++ [.text next]) := by
  have chain : List.IsChain Apart (front ++ [.text (last ++ next)]) := by
    obtain ⟨frontMerged, -, apart⟩ := List.isChain_append.mp merged
    refine List.isChain_append.mpr ⟨frontMerged, List.isChain_singleton _, ?_⟩
    intro previous isPrevious
    simpa [Apart, isText] using apart previous isPrevious
  calc
    push (front ++ [.text last]) (.text next)
        = front ++ [.text (last ++ next)] := push_concat_text front last next
    _ = mergeText (front ++ [.text (last ++ next)]) := (mergeText_of_isChain chain).symm
    _ = mergeText (front ++ ([.text last] ++ [.text next])) := mergeText_append_congr front rfl
    _ = mergeText (front ++ [.text last] ++ [.text next]) := by rw [List.append_assoc]

/-- One step: a token behind merged ones is joined to no more than the last of them. -/
theorem push_eq_mergeText {tokens : List Token} (merged : tokens.IsChain Apart) (token : Token) :
    push tokens token = mergeText (tokens ++ [token]) := by
  by_cases apart : ∀ last ∈ tokens.getLast?, Apart last token
  case pos =>
    have chain : (tokens ++ [token]).IsChain Apart :=
      List.isChain_append.mpr ⟨merged, List.isChain_singleton token, by simpa using apart⟩
    rw [push_of_apart apart, mergeText_of_isChain chain]
  case neg =>
    simp only [not_forall, Apart, not_not] at apart
    obtain ⟨last, isLast, lastIsText, tokenIsText⟩ := apart
    obtain ⟨front, rfl⟩ := List.getLast?_eq_some_iff.mp isLast
    obtain ⟨ending, rfl⟩ := (isText_iff last).mp lastIsText
    obtain ⟨next, rfl⟩ := (isText_iff token).mp tokenIsText
    exact push_text_eq_mergeText merged

/-- A whole run of steps from the first token to the last is merging. -/
theorem foldl_push (tokens : List Token) : tokens.foldl push [] = mergeText tokens := by
  induction tokens using List.reverseRecOn with
  | nil => rfl
  | append_singleton tokens token induction =>
      rw [List.foldl_concat, induction, push_eq_mergeText (isChain_mergeText tokens),
        mergeText_mergeText_append]

/-- Merging, which may be done token by token, gives a normal form. It leaves no two literal texts
side by side, keeps the other tokens in order and the literal text before, between and after them,
and changes only tokens with two literal texts side by side; so to merge again changes nothing. -/
theorem mergeText_gives_normal_form (tokens : List Token) :
    tokens.foldl push [] = mergeText tokens ∧
      (mergeText tokens).IsChain Apart ∧
      (mergeText tokens).filter (fun token => !token.isText) =
        tokens.filter (fun token => !token.isText) ∧
      gaps (mergeText tokens) = gaps tokens ∧
      (mergeText tokens = tokens ↔ tokens.IsChain Apart) ∧
      mergeText (mergeText tokens) = mergeText tokens :=
  ⟨foldl_push tokens, isChain_mergeText tokens, filter_mergeText tokens, gaps_mergeText tokens,
    mergeText_eq_self_iff tokens, mergeText_mergeText tokens⟩

/-- Three texts in a row between two ends of blocks that match nothing, one of them empty. -/
example :
    let tokens : List Token :=
      [.blockEnd, .text ['a'], .text [], .text ['b'], .blockEnd, .blockStart, .text []]
    mergeText tokens = [.blockEnd, .text ['a', 'b'], .blockEnd, .blockStart, .text []] ∧
      gaps tokens = [[], ['a', 'b'], [], []] := by
  decide

end QueryTemplate.Token
