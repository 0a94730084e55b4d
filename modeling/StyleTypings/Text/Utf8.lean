import StyleTypings.Text.Basic

/-!
# UTF-8

Text to bytes and back. The writer refuses a surrogate, for which there are no bytes, and reports
the run of surrogates that it begins. The reader refuses overlong forms, surrogates and code points
above U+10FFFF at the first byte that shows the fault, and reports the span of the ill-formed
sequence together with the kind of the fault. The arithmetic is on natural numbers, one lead byte at
a time.
-/

namespace StyleTypings

/-- Bytes as they stand in a file. -/
abbrev Bytes := List UInt8

namespace Utf8

/-- The bytes of the character with this code point. -/
def encodeNat (n : Nat) : List Nat :=
  if n < 0x80 then [n]
  else if n < 0x800 then [0xC0 + n / 0x40, 0x80 + n % 0x40]
  else if n < 0x10000 then [0xE0 + n / 0x1000, 0x80 + n / 0x40 % 0x40, 0x80 + n % 0x40]
  else [0xF0 + n / 0x40000, 0x80 + n / 0x1000 % 0x40, 0x80 + n / 0x40 % 0x40, 0x80 + n % 0x40]

/-- The bytes of one character. -/
def encodeChar (c : Char) : Bytes := (encodeNat c.toNat).map UInt8.ofNat

/-- The first run of surrogates in a text that cannot be written. -/
structure SurrogateRun where
  /-- How many code points stand in front of it. -/
  start : Nat
  /-- How many surrogates it has. -/
  length : Nat
  /-- The first of them. -/
  first : Fin 0x800
  deriving DecidableEq, Repr

/-- The bytes of a text that stands behind `position` other code points. `escape` gives the byte of
a surrogate, if there is one for it. -/
def encodeFrom (escape : Fin 0x800 → Option UInt8) (position : Nat) :
    Text → Except SurrogateRun Bytes
  | [] => .ok []
  | .char c :: text => (encodeFrom escape (position + 1) text).map (encodeChar c ++ ·)
  | .surrogate offset :: text =>
    match escape offset with
    | some byte => (encodeFrom escape (position + 1) text).map (byte :: ·)
    | none => .error ⟨position, (text.takeWhile CodePoint.isSurrogate).length + 1, offset⟩

/-- The bytes of a text, or the first run of surrogates. -/
def encode (text : Text) : Except SurrogateRun Bytes := encodeFrom (fun _ => none) 0 text

/-- The byte that a surrogate stands for in the name of a file. A name may have bytes that are no
text, and each of them is taken for a surrogate of its own. -/
def nameByte? (offset : Fin 0x800) : Option UInt8 :=
  if 0x480 ≤ offset.val ∧ offset.val < 0x500 then some (UInt8.ofNat (offset.val - 0x400)) else none

/-- The bytes of the name of a file, or the first run of surrogates that has none. -/
def encodeName (name : Text) : Except SurrogateRun Bytes := encodeFrom nameByte? 0 name

/-- The bytes of a code point; a surrogate has the one that `escape` gives, or none. -/
def bytesOf (escape : Fin 0x800 → Option UInt8) : CodePoint → Bytes
  | .char c => encodeChar c
  | .surrogate offset => (escape offset).toList

/-- The bytes of the name of a file, without those surrogates that have none. -/
def nameBytes (name : Text) : Bytes := name.flatMap (bytesOf nameByte?)

/-- How a byte sequence can fail to be UTF-8. -/
inductive Reason where
  /-- No character starts with this byte. -/
  | invalidStart
  /-- A character was begun, and this byte cannot continue it. -/
  | invalidContinuation
  /-- The bytes end inside a character. -/
  | unexpectedEnd
  deriving DecidableEq, Repr

/-- The wording of a reason. -/
def Reason.message : Reason → Text
  | .invalidStart => "invalid start byte".toText
  | .invalidContinuation => "invalid continuation byte".toText
  | .unexpectedEnd => "unexpected end of data".toText

/-- The first ill-formed sequence of a byte list. -/
structure Fault where
  /-- Offset of the first byte of the sequence. -/
  start : Nat
  /-- How many bytes the sequence has. -/
  length : Nat
  /-- The first byte of the sequence. -/
  lead : UInt8
  /-- What is wrong with it. -/
  reason : Reason
  deriving DecidableEq, Repr

/-- Whether a byte may stand at a place of a character other than the first. -/
def isContinuation (b : Nat) : Bool := 0x80 ≤ b && b < 0xC0

/-- Whether `b` may be the second byte after the lead `lead`. The narrower ranges after four of
the leads keep out overlong forms, surrogates and code points that are too large. -/
def isSecond (lead b : Nat) : Bool :=
  if lead == 0xE0 then 0xA0 ≤ b && b < 0xC0
  else if lead == 0xED then 0x80 ≤ b && b < 0xA0
  else if lead == 0xF0 then 0x90 ≤ b && b < 0xC0
  else if lead == 0xF4 then 0x80 ≤ b && b < 0x90
  else isContinuation b

/-- What stands at the beginning of a byte list. -/
inductive Step where
  /-- A character and the number of its bytes. -/
  | char (code : Nat) (length : Nat)
  /-- An ill-formed sequence and the number of its bytes. -/
  | bad (reason : Reason) (length : Nat)
  deriving DecidableEq, Repr

/-- Reads the character that starts with `lead` from the bytes that follow it. -/
def step (lead : Nat) (rest : List Nat) : Step :=
  if lead < 0x80 then .char lead 1
  else if lead < 0xC2 then .bad .invalidStart 1
  else if lead < 0xE0 then
    match rest with
    | [] => .bad .unexpectedEnd 1
    | b :: _ =>
      if isContinuation b then .char ((lead - 0xC0) * 0x40 + (b - 0x80)) 2
      else .bad .invalidContinuation 1
  else if lead < 0xF0 then
    match rest with
    | [] => .bad .unexpectedEnd 1
    | b :: rest =>
      if !isSecond lead b then .bad .invalidContinuation 1
      else match rest with
        | [] => .bad .unexpectedEnd 2
        | c :: _ =>
          if isContinuation c then
            .char ((lead - 0xE0) * 0x1000 + (b - 0x80) * 0x40 + (c - 0x80)) 3
          else .bad .invalidContinuation 2
  else if lead < 0xF5 then
    match rest with
    | [] => .bad .unexpectedEnd 1
    | b :: rest =>
      if !isSecond lead b then .bad .invalidContinuation 1
      else match rest with
        | [] => .bad .unexpectedEnd 2
        | c :: rest =>
          if !isContinuation c then .bad .invalidContinuation 2
          else match rest with
            | [] => .bad .unexpectedEnd 3
            | d :: _ =>
              if isContinuation d then
                .char ((lead - 0xF0) * 0x40000 + (b - 0x80) * 0x1000 + (c - 0x80) * 0x40
                  + (d - 0x80)) 4
              else .bad .invalidContinuation 3
  else .bad .invalidStart 1

/-- Reads the bytes from offset `offset` on. The fuel is the number of bytes left, of which
each character takes at least one. -/
def decodeFrom (offset : Nat) : Nat → List Nat → Except Fault Text
  | 0, _ => .ok []
  | _ + 1, [] => .ok []
  | fuel + 1, lead :: rest =>
    match step lead rest with
    | .char code length =>
      match decodeFrom (offset + length) fuel (rest.drop (length - 1)) with
      | .ok text => .ok (.char (Char.ofNat code) :: text)
      | .error fault => .error fault
    | .bad reason length => .error ⟨offset, length, UInt8.ofNat lead, reason⟩

/-- The text that the bytes stand for, or the first ill-formed sequence. -/
def decode (bytes : Bytes) : Except Fault Text :=
  decodeFrom 0 bytes.length (bytes.map UInt8.toNat)

/-- A nibble as a small hexadecimal digit. -/
def hexDigit (n : Nat) : CodePoint :=
  .char (if n < 10 then Char.ofNat (48 + n) else Char.ofNat (87 + n))

/-- A byte as two small hexadecimal digits. -/
def hexByte (b : UInt8) : Text := [hexDigit (b.toNat / 16), hexDigit (b.toNat % 16)]

/-- The report of a run of surrogates, with its span. -/
def SurrogateRun.message (run : SurrogateRun) : Text :=
  let code := 0xD800 + run.first.val
  "'utf-8' codec can't encode ".toText ++
  (if run.length = 1 then
    "character '\\u".toText ++ hexByte (UInt8.ofNat (code / 0x100)) ++
      hexByte (UInt8.ofNat (code % 0x100)) ++ "' in position ".toText ++ Text.ofNat run.start
  else
    "characters in position ".toText ++ Text.ofNat run.start ++ ['-'] ++
      Text.ofNat (run.start + run.length - 1)) ++
  ": surrogates not allowed".toText

/-- The report of a fault, with the span of its bytes. -/
def Fault.message (fault : Fault) : Text :=
  "'utf-8' codec can't decode ".toText ++
  (if fault.length = 1 then
    "byte 0x".toText ++ hexByte fault.lead ++ " in position ".toText ++ Text.ofNat fault.start
  else
    "bytes in position ".toText ++ Text.ofNat fault.start ++ ['-'] ++
      Text.ofNat (fault.start + fault.length - 1)) ++
  ": ".toText ++ fault.reason.message

end Utf8

end StyleTypings
