import StyleTypings.Text.Basic

/-!
# Double-quoted literals

The text that a double-quoted literal stands for. A backslash starts one of the eight short
escapes or a four-digit code; raw control characters are admitted. Two codes that are the two halves
of a pair stand for one character. A literal without a backslash stands for the characters between
its quotes, which is what `decode_quote` says.
-/

namespace StyleTypings.Literal

/-- The value of a hexadecimal digit. -/
def hexValue? (c : CodePoint) : Option Nat :=
  if .char '0' ≤ c ∧ c ≤ '9' then some (c.toNat - 48)
  else if .char 'a' ≤ c ∧ c ≤ 'f' then some (c.toNat - 87)
  else if .char 'A' ≤ c ∧ c ≤ 'F' then some (c.toNat - 55)
  else none

/-- The character that the letter after a backslash names. -/
def shortEscape? : CodePoint → Option CodePoint
  | '"' => some '"'
  | '\\' => some '\\'
  | '/' => some '/'
  | 'b' => some '\x08'
  | 'f' => some '\x0c'
  | 'n' => some '\n'
  | 'r' => some '\r'
  | 't' => some '\t'
  | _ => none

/-- The number that four hexadecimal digits stand for. -/
def code? (a b c d : CodePoint) : Option Nat := do
  return (← hexValue? a) * 4096 + (← hexValue? b) * 256 + (← hexValue? c) * 16 + (← hexValue? d)

/-- The character that two surrogates stand for, the first of the one half of the surrogates and the
second of the other. -/
def pair? (first second : Nat) : Option CodePoint :=
  if 0xD800 ≤ first ∧ first < 0xDC00 ∧ 0xDC00 ≤ second ∧ second < 0xE000 then
    some (.ofNat (0x10000 + (first - 0xD800) * 0x400 + (second - 0xDC00)))
  else none

/-- The text of a literal from behind its opening quote to its closing one, which must end the
input. -/
def body? : Text → Option Text
  | [] => none
  | ['"'] => some []
  | '"' :: _ => none
  | '\\' :: 'u' :: a :: b :: c :: d :: rest => do
    let first ← code? a b c d
    match rest with
    | '\\' :: 'u' :: e :: f :: g :: h :: tail =>
      match (code? e f g h).bind (pair? first) with
      | some joined => return joined :: (← body? tail)
      | none => return CodePoint.ofNat first :: (← body? ('\\' :: 'u' :: e :: f :: g :: h :: tail))
    | rest => return CodePoint.ofNat first :: (← body? rest)
  | '\\' :: e :: rest => do return (← shortEscape? e) :: (← body? rest)
  | c :: rest => (body? rest).map (c :: ·)

/-- The text that a whole literal, quotes included, stands for. -/
def decode : Text → Option Text
  | '"' :: rest => body? rest
  | _ => none

/-- The text between double quotes. -/
def quote (text : Text) : Text := .char '"' :: text ++ ['"']

/-- A literal without quotes and backslashes inside stands for its own characters. -/
theorem decode_quote {text : Text} (h : ∀ c ∈ text, c ≠ '"' ∧ c ≠ '\\') :
    decode (quote text) = some text := by
  show body? (text ++ ['"']) = some text
  induction text with
  | nil => rfl
  | cons c text ih =>
    obtain ⟨hq, hb⟩ := h c List.mem_cons_self
    have ih := ih fun d hd => h d (List.mem_cons_of_mem _ hd)
    rw [List.cons_append, body?]
    · rw [ih]; rfl
    all_goals simp_all

end StyleTypings.Literal
