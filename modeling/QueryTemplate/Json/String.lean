import QueryTemplate.Text.Basic

/-! # Reading JSON strings

A string ends at the first quote that no backslash precedes. Control characters are refused, and a
character beyond the first plane is written as two escaped halves, of which neither stands alone.
-/
namespace QueryTemplate.Json

def hexDigit? (character : Char) : Option Nat :=
  let code := character.toNat
  if 48 ≤ code ∧ code ≤ 57 then some (code - 48)
  else if 65 ≤ code ∧ code ≤ 70 then some (code - 55)
  else if 97 ≤ code ∧ code ≤ 102 then some (code - 87)
  else none

def codeUnit? (first second third fourth : Char) : Option Nat :=
  match hexDigit? first, hexDigit? second, hexDigit? third, hexDigit? fourth with
  | some first, some second, some third, some fourth =>
      some (((first * 16 + second) * 16 + third) * 16 + fourth)
  | _, _, _, _ => none

def isHighHalf (unit : Nat) : Bool := 0xD800 ≤ unit && unit < 0xDC00

def isLowHalf (unit : Nat) : Bool := 0xDC00 ≤ unit && unit < 0xE000

def joinHalves (high low : Nat) : Char :=
  Char.ofNat (0x10000 + (high - 0xD800) * 0x400 + (low - 0xDC00))

/-- The character that a letter after a backslash stands for. -/
def shortEscape? (letter : Char) : Option Char :=
  match letter with
  | '"' => some '"'
  | '\\' => some '\\'
  | '/' => some '/'
  | 'b' => some '\x08'
  | 'f' => some '\x0c'
  | 'n' => some '\n'
  | 'r' => some '\r'
  | 't' => some '\t'
  | _ => none

def consRead (character : Char) : Option (Text × Text) → Option (Text × Text)
  | some (characters, rest) => some (character :: characters, rest)
  | none => none

/-- The characters of a string up to its closing quote, and the text after that quote. The opening
quote has been read. -/
def readString? : Text → Option (Text × Text)
  | [] => none
  | character :: rest =>
      if character = '"' then some ([], rest)
      else if character.toNat < 0x20 then none
      else if character ≠ '\\' then consRead character (readString? rest)
      else
        match rest with
        | 'u' :: a :: b :: c :: d :: rest =>
            match codeUnit? a b c d with
            | none => none
            | some unit =>
                if isLowHalf unit then none
                else if isHighHalf unit then
                  match rest with
                  | '\\' :: 'u' :: a :: b :: c :: d :: rest =>
                      match codeUnit? a b c d with
                      | none => none
                      | some low =>
                          if isLowHalf low then consRead (joinHalves unit low) (readString? rest)
                          else none
                  | _ => none
                else consRead (Char.ofNat unit) (readString? rest)
        | letter :: rest =>
            match shortEscape? letter with
            | some meant => consRead meant (readString? rest)
            | none => none
        | [] => none

end QueryTemplate.Json
