import StyleTypings.Text.Basic

/-!
# Tags

The tag of a node says what kind of value the node stands for. A node without a tag gets the one
of its form; for bare text that is decided by the form of the text, in the manner of YAML 1.1:
words for truth values and nothing, whole and floating-point numbers with their bases, dates and
times, the merge mark and the default mark. All other tags are without a meaning here.
-/

namespace StyleTypings.Yaml

/-- The meaning of a tag. -/
inductive Tag where
  /-- Nothing. -/
  | null
  /-- A truth value. -/
  | bool
  /-- A whole number. -/
  | int
  /-- A floating-point number. -/
  | float
  /-- Bytes. -/
  | binary
  /-- A date or a time. -/
  | timestamp
  /-- An ordered mapping. -/
  | omap
  /-- A list of pairs. -/
  | pairs
  /-- A set of keys. -/
  | set
  /-- A text. -/
  | str
  /-- A list. -/
  | seq
  /-- A mapping. -/
  | map
  /-- The mark of mappings to be merged. -/
  | merge
  /-- The mark of a default value. -/
  | value
  /-- No meaning. -/
  | unknown
  deriving DecidableEq, Repr

namespace Tag

/-- What the tags of YAML's own types start with. -/
def standardStart : Text := "tag:yaml.org,2002:".toText

/-- The names of the standard types. -/
def standardNames : List (String × Tag) :=
  [("null", null), ("bool", bool), ("int", int), ("float", float), ("binary", binary),
   ("timestamp", timestamp), ("omap", omap), ("pairs", pairs), ("set", set), ("str", str),
   ("seq", seq), ("map", map)]

/-- The meaning of the name of a standard type. -/
def ofName (name : Text) : Tag :=
  match standardNames.find? fun entry => entry.1.toText == name with
  | some (_, tag) => tag
  | none => unknown

/-- The meaning of a tag in full. -/
def ofText (text : Text) : Tag :=
  match Text.after? standardStart text with
  | some name =>
    if name = "merge".toText then merge
    else if name = "value".toText then value
    else ofName name
  | none => unknown

end Tag

namespace Plain

/-- Whether a text is one of the words, in small letters, in capital letters, or with one capital
in front. -/
def isOneOfWords (words : List String) (text : Text) : Bool :=
  words.any fun word =>
    let small := word.toText
    text == small || text == small.map CodePoint.toUpper ||
      text == (small.take 1).map CodePoint.toUpper ++ small.drop 1

/-- The text without a sign in front. -/
def unsigned : Text → Text
  | '+' :: text => text
  | '-' :: text => text
  | text => text

/-- Whether a text holds only the given characters, and at least one. -/
def isRun (p : CodePoint → Bool) (text : Text) : Bool := !text.isEmpty && text.all p

/-- Whether a character is a digit or an underscore. -/
def isDigitOrBar (c : CodePoint) : Bool := c.isDigit || c == '_'

/-- Whether a text is a digit with further digits and underscores behind it. -/
def isDigits : Text → Bool
  | [] => false
  | c :: text => c.isDigit && text.all isDigitOrBar

/-- Whether a text is one or more numbers below sixty with a colon before each. -/
def isSixties (text : Text) : Bool :=
  match Text.splitAtChar ':' text with
  | [] :: part :: parts => (part :: parts).all fun
    | [d] => d.isDigit
    | [t, d] => .char '0' ≤ t && t ≤ '5' && d.isDigit
    | _ => false
  | _ => false

/-- Whether a text has the form of a whole number. -/
def isInt (text : Text) : Bool :=
  match unsigned text with
  | '0' :: 'b' :: rest => isRun (fun c => c == '0' || c == '1' || c == '_') rest
  | '0' :: 'x' :: rest =>
    isRun (fun c => c.isDigit || (.char 'a' ≤ c && c ≤ 'f') || (.char 'A' ≤ c && c ≤ 'F') ||
      c == '_') rest
  | '0' :: rest => rest.all fun c => (.char '0' ≤ c && c ≤ '7') || c == '_'
  | c :: rest =>
    let back := rest.dropWhile isDigitOrBar
    c.isDigit && (back.isEmpty || isSixties back)
  | [] => false

/-- Whether a text is empty or an exponent with its sign. -/
def isExponent : Text → Bool
  | [] => true
  | e :: sign :: rest =>
    (e == 'e' || e == 'E') && (sign == '+' || sign == '-') && isRun CodePoint.isDigit rest
  | _ => false

/-- Whether a text is a point with digits and underscores behind it, and then what `p` admits. -/
def isPoint (p : Text → Bool) : Text → Bool
  | '.' :: rest => p (rest.dropWhile isDigitOrBar)
  | _ => false

/-- Whether a text has the form of a floating-point number. -/
def isFloat (text : Text) : Bool :=
  let body := unsigned text
  let front := body.takeWhile isDigitOrBar
  let back := body.dropWhile isDigitOrBar
  (isDigits front && (isPoint isExponent back ||
    (isSixties (back.takeWhile (· != '.')) && isPoint List.isEmpty (back.dropWhile (· != '.'))))) ||
  (match text with
    | '.' :: rest => isDigits (rest.takeWhile isDigitOrBar) &&
        isExponent (rest.dropWhile isDigitOrBar)
    | _ => false) ||
  (match body with
    | '.' :: word => word == "inf".toText || word == "Inf".toText || word == "INF".toText
    | _ => false) ||
  text == ".nan".toText || text == ".NaN".toText || text == ".NAN".toText

end Plain

end StyleTypings.Yaml
