import QueryTemplate.Proofs.Template.Merging
import QueryTemplate.Proofs.Template.Scan

/-! # Tokens in one pass

The tokens of a template can be gathered in one pass that never looks further ahead than a tag
letter. A pass starts a block at every opening brace outside of one and remembers where. If the
source ends within a block, its start is taken out again, and literal texts that meet there are
joined. So it need not be known in advance whether a block is closed.
-/
namespace QueryTemplate

namespace Token

/-- A token that is no literal text is a border for merging. -/
theorem mergeText_append_of_isText_eq_false {token : Token} (notText : token.isText = false)
    (before after : List Token) :
    mergeText (before ++ token :: after) = mergeText before ++ token :: mergeText after := by
  have chain : (mergeText before ++ token :: mergeText after).IsChain Apart := by
    rw [← mergeText_of_isText_eq_false notText]
    refine List.isChain_append.mpr ⟨isChain_mergeText before, isChain_mergeText _, ?_⟩
    rw [mergeText_of_isText_eq_false notText]
    rintro last - next first
    obtain rfl : token = next := by simpa using first
    exact apart_of_isText_eq_false notText last
  have merged : mergeText (token :: mergeText after) = mergeText (token :: after) := by
    rw [mergeText_of_isText_eq_false notText, mergeText_mergeText,
      mergeText_of_isText_eq_false notText]
  rw [← mergeText_of_isChain chain, mergeText_mergeText_append]
  exact (mergeText_append_congr before merged).symm

/-- A literal text may be pushed behind merged tokens for all its characters. -/
theorem push_mergeText_text (tokens : List Token) {characters : Text} (nonempty : characters ≠ []) :
    push (mergeText tokens) (.text characters) =
      mergeText (tokens ++ (Token.text characters).atoms) := by
  have merged := mergeText_atoms_append nonempty []
  rw [List.append_nil] at merged
  rw [push_eq_mergeText (isChain_mergeText tokens), mergeText_mergeText_append]
  exact mergeText_append_congr tokens merged.symm

end Token

/-- What has been read of a source: tokens, the literal text behind them that is not among them yet,
and the index of the start of the open block among them. -/
structure Tokenizer where
  tokens : List Token
  text : Text
  openAt : Option Nat

namespace Tokenizer

def initial : Tokenizer := ⟨[], [], none⟩

/-- Puts the literal text among the tokens, joined to one that is the last of them. -/
def flush (state : Tokenizer) : Tokenizer :=
  if state.text = [] then state
  else { state with tokens := Token.push state.tokens (.text state.text), text := [] }

def put (state : Tokenizer) (token : Token) : Tokenizer :=
  { state.flush with tokens := state.flush.tokens ++ [token] }

def openBlock (state : Tokenizer) : Tokenizer :=
  { state.put .blockStart with openAt := some state.flush.tokens.length }

def closeBlock (state : Tokenizer) : Tokenizer := { state.put .blockEnd with openAt := none }

def addCharacter (state : Tokenizer) (character : Char) : Tokenizer :=
  { state with text := state.text ++ [character] }

/-- Reads the rest of a source. -/
def read (state : Tokenizer) : Text → Tokenizer
  | [] => state
  | character :: rest =>
      if character = '?' then
        match rest with
        | [] => state.put (.placeholder .auto)
        | letter :: after =>
            match Tag.ofLetter? letter with
            | some tag => (state.put (.placeholder tag)).read after
            | none => (state.put (.placeholder .auto)).read (letter :: after)
      else if character = '{' then
        if state.openAt.isNone then state.openBlock.read rest else state.read rest
      else if character = '}' then
        if state.openAt.isSome then state.closeBlock.read rest else state.read rest
      else (state.addCharacter character).read rest

/-- The tokens of a source that has been read, without the start of a block that is still open. -/
def finish (state : Tokenizer) : List Token :=
  match state.flush.openAt with
  | none => state.flush.tokens
  | some start => (state.flush.tokens.eraseIdx start).foldl Token.push []

open Token (mergeText scan)

/-- The tokens of the characters read so far: those before the open block, if there is one, its
start, and those after it. -/
def readTokens (before? : Option (List Token)) (tokens : List Token) : List Token :=
  match before? with
  | none => tokens
  | some before => before ++ .blockStart :: tokens

/-- The tokens of a source of which some have been read. The start of an open block is one of them
if a closing brace follows. -/
def resolve (before? : Option (List Token)) (tokens : List Token) (rest : Text) : List Token :=
  match before? with
  | none => tokens ++ scan false rest
  | some before =>
      before ++ ((if '}' ∈ rest then [.blockStart] else []) ++ (tokens ++ scan true rest))

/-- The state holds the tokens of the characters read so far, merged up to its literal text. -/
structure Holds (state : Tokenizer) (before? : Option (List Token)) (tokens : List Token) :
    Prop where
  tokens_eq : ∃ flushed, state.tokens = mergeText flushed ∧
    flushed ++ (Token.text state.text).atoms = readTokens before? tokens
  openAt_eq : state.openAt = before?.map fun before => (mergeText before).length

theorem readTokens_append (before? : Option (List Token)) (tokens more : List Token) :
    readTokens before? (tokens ++ more) = readTokens before? tokens ++ more := by
  cases before? with
  | none => rfl
  | some before => simp [readTokens]

/-- What the rest of a source starts with is resolved to a token, in whatever state. -/
theorem resolve_concat {token : Token} {text rest : Text}
    (scanned : ∀ isOpen, scan isOpen text = token :: scan isOpen rest)
    (closes : '}' ∈ text ↔ '}' ∈ rest) (before? : Option (List Token)) (tokens : List Token) :
    resolve before? (tokens ++ [token]) rest = resolve before? tokens text := by
  cases before? with
  | none => simp [resolve, scanned]
  | some before => simp [resolve, scanned, closes]

theorem resolve_open (tokens : List Token) (rest : Text) :
    resolve (some tokens) [] rest = resolve none tokens ('{' :: rest) := by
  rw [resolve, resolve]
  split
  case isTrue closes => rw [Token.scan_open closes]; rfl
  case isFalse unclosed =>
    rw [Token.scan_open_of_notMem unclosed, Token.scan_eq_of_notMem unclosed]
    rfl

theorem resolve_nested (before tokens : List Token) (rest : Text) :
    resolve (some before) tokens rest = resolve (some before) tokens ('{' :: rest) := by
  simp [resolve]

theorem resolve_close (before tokens : List Token) (rest : Text) :
    resolve none (before ++ .blockStart :: tokens ++ [.blockEnd]) rest =
      resolve (some before) tokens ('}' :: rest) := by
  simp [resolve]

theorem resolve_stray (tokens : List Token) (rest : Text) :
    resolve none tokens rest = resolve none tokens ('}' :: rest) := by
  rw [resolve, resolve, Token.scan_close_of_not_isOpen]

theorem text_flush (state : Tokenizer) : state.flush.text = [] := by
  unfold flush
  split
  case isTrue empty => exact empty
  case isFalse => rfl

theorem openAt_flush (state : Tokenizer) : state.flush.openAt = state.openAt := by
  unfold flush
  split <;> rfl

theorem holds_initial : initial.Holds none [] := ⟨⟨[], rfl, rfl⟩, rfl⟩

namespace Holds

variable {state : Tokenizer} {before? : Option (List Token)} {tokens : List Token}

theorem tokens_flush (holds : state.Holds before? tokens) :
    state.flush.tokens = mergeText (readTokens before? tokens) := by
  obtain ⟨flushed, merged, all⟩ := holds.tokens_eq
  rw [← all]
  unfold flush
  split
  case isTrue empty => rw [merged, empty, Token.atoms, List.map_nil, List.append_nil]
  case isFalse nonempty => rw [merged, Token.push_mergeText_text flushed nonempty]

theorem tokens_put (holds : state.Holds before? tokens) {token : Token}
    (notText : token.isText = false) :
    (state.put token).tokens = mergeText (readTokens before? tokens ++ [token]) := by
  rw [Token.mergeText_append_of_isText_eq_false notText, ← holds.tokens_flush]
  rfl

/-- Without a literal text apart from them, the tokens are merged. -/
theorem of_flushed (flushed : state.text = [])
    (all : state.tokens = mergeText (readTokens before? tokens))
    (openAt : state.openAt = before?.map fun before => (mergeText before).length) :
    state.Holds before? tokens := by
  refine ⟨⟨readTokens before? tokens, all, ?_⟩, openAt⟩
  rw [flushed]
  exact List.append_nil _

theorem put (holds : state.Holds before? tokens) {token : Token}
    (notText : token.isText = false) : (state.put token).Holds before? (tokens ++ [token]) := by
  refine of_flushed (text_flush state) ?_ ((openAt_flush state).trans holds.openAt_eq)
  rw [holds.tokens_put notText, readTokens_append]

theorem openBlock (holds : state.Holds none tokens) : state.openBlock.Holds (some tokens) [] := by
  have index : some state.flush.tokens.length = some (mergeText tokens).length :=
    congrArg (fun flushed => some flushed.length) holds.tokens_flush
  exact of_flushed (text_flush state) (holds.tokens_put rfl) index

theorem closeBlock {before : List Token} (holds : state.Holds (some before) tokens) :
    state.closeBlock.Holds none (before ++ .blockStart :: tokens ++ [.blockEnd]) :=
  of_flushed (text_flush state) (holds.tokens_put rfl) rfl

theorem addCharacter (holds : state.Holds before? tokens) (character : Char) :
    (state.addCharacter character).Holds before? (tokens ++ [.text [character]]) := by
  obtain ⟨flushed, merged, all⟩ := holds.tokens_eq
  refine ⟨⟨flushed, merged, ?_⟩, holds.openAt_eq⟩
  rw [readTokens_append, ← all, List.append_assoc]
  simp [Tokenizer.addCharacter, Token.atoms]

/-- The start of a block that is open at the end is the one that is taken out. -/
theorem finish_eq (holds : state.Holds before? tokens) :
    state.finish = mergeText (resolve before? tokens []) := by
  rw [finish, openAt_flush, holds.openAt_eq, holds.tokens_flush]
  cases before? with
  | none => simp [readTokens, resolve, scan]
  | some before =>
      rw [Option.map_some, readTokens, Token.mergeText_append_of_isText_eq_false rfl]
      dsimp only
      rw [List.eraseIdx_append_of_length_le (Nat.le_refl _), Nat.sub_self, List.eraseIdx_cons_zero,
        Token.foldl_push, Token.mergeText_mergeText_append,
        Token.mergeText_append_congr before (Token.mergeText_mergeText tokens)]
      simp [resolve, scan]

/-- Reading on from a state leads to the tokens of what has been read and of the rest. -/
theorem finish_read (holds : state.Holds before? tokens) (rest : Text) :
    (state.read rest).finish = mergeText (resolve before? tokens rest) := by
  -- every step adds to what has been read, and a brace also decides what is open
  fun_induction read state rest generalizing before? tokens with
  | case1 state => exact holds.finish_eq
  | case2 state =>
      have notTag : ¬ Tag.Leads [] := by simp [Tag.Leads]
      rw [(holds.put rfl).finish_eq, resolve_concat (Token.scan_question notTag)]
      simp
  | case3 state letter after tag found induction =>
      obtain ⟨-, -, closing⟩ := Tag.ne_of_ofLetter?_eq_some found
      rw [induction (holds.put rfl), resolve_concat (Token.scan_question_letter found · after)]
      simp [Ne.symm closing]
  | case4 state letter after plain induction =>
      have notTag : ¬ Tag.Leads (letter :: after) := by simp [Tag.leads_cons, plain]
      rw [induction (holds.put rfl), resolve_concat (Token.scan_question notTag)]
      simp
  | case5 state rest closed _ induction =>
      cases before? with
      | none => rw [induction holds.openBlock, resolve_open]
      | some before => simp [holds.openAt_eq] at closed
  | case6 state rest opened _ induction =>
      cases before? with
      | none => simp [holds.openAt_eq] at opened
      | some before => rw [induction holds, resolve_nested]
  | case7 state rest opened _ _ induction =>
      cases before? with
      | none => simp [holds.openAt_eq] at opened
      | some before => rw [induction holds.closeBlock, resolve_close]
  | case8 state rest closed _ _ induction =>
      cases before? with
      | none => rw [induction holds, resolve_stray]
      | some before => simp [holds.openAt_eq] at closed
  | case9 state character rest question opening closing induction =>
      rw [induction (holds.addCharacter character),
        resolve_concat (Token.scan_letter question opening closing · rest)]
      simp [Ne.symm closing]

end Holds
end Tokenizer

/-- The tokens of a template are those that one pass over its source gathers. -/
theorem Template.tokens_parse_eq_finish_read (source : Text) :
    (parse source).tokens = (Tokenizer.initial.read source).finish := by
  rw [Tokenizer.holds_initial.finish_read, (parse source).tokens_eq, Tokenizer.resolve,
    List.nil_append]
  rfl

end QueryTemplate
