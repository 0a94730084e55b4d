import StyleTypings.Failure
import StyleTypings.Text.Numeral

/-!
# Arguments of a command line

A grammar lists the options of a command and says what its operands are. Arguments are first
told apart one by one: an option may be shortened to a beginning that no other option shares,
flags of one letter may stand together, and behind a double hyphen nothing is an option. Then
options are taken in order. The operands are one unbroken run of plain arguments; whatever else
is left over is handed back, so that the caller can refuse it.
-/

namespace StyleTypings.CommandLine

/-- What an option sets. -/
inductive Setting where
  /-- Shows the help. -/
  | help
  /-- Asks for more messages. -/
  | verbose
  /-- Asks for fewer messages. -/
  | quiet
  /-- Names the configuration. -/
  | config
  /-- Names the compiled module. -/
  | compiled
  /-- Chooses the kind of export block. -/
  | namedExports
  /-- Names the host of the service. -/
  | host
  /-- Gives the number of the socket of the service. -/
  | socket
  deriving DecidableEq, Repr

/-- An option. -/
structure Spec where
  /-- What it sets. -/
  setting : Setting
  /-- Its spellings. -/
  names : List Text
  /-- Whether a value belongs to it. -/
  takesValue : Bool
  deriving DecidableEq, Repr

/-- The name of an option in messages. -/
def Spec.title (spec : Spec) : Text := Text.join ['/'] spec.names

/-- What the operands of a command are. -/
inductive Operands where
  /-- There are none. -/
  | none
  /-- One or more; the word stands for them in messages. -/
  | some (title : Text)
  /-- A subcommand, which all further arguments belong to. -/
  | command (title : Text)
  deriving DecidableEq, Repr

/-- What a command accepts, and how it is described. -/
structure Grammar where
  /-- The name of the command. -/
  program : Text
  /-- The short description. -/
  usage : Text
  /-- The long description, the short one included. -/
  help : Text
  /-- The options. -/
  options : List Spec
  /-- The operands. -/
  operands : Operands
  deriving DecidableEq, Repr

/-- Why the arguments are not to be acted on. -/
inductive Stop where
  /-- The help of a command was asked for. -/
  | help (grammar : Grammar)
  /-- A command does not accept its arguments. -/
  | misuse (grammar : Grammar) (message : Text)
  deriving DecidableEq, Repr

/-- An option found in an argument. -/
structure Found where
  /-- The option. -/
  spec : Spec
  /-- The spelling that stands for it. -/
  name : Text
  /-- What is attached to it in the same argument. -/
  attached : Option Text
  deriving DecidableEq, Repr

/-- The kind of an argument. -/
inductive Kind where
  /-- No option. -/
  | plain
  /-- The double hyphen behind which nothing is an option. -/
  | separator
  /-- An option of the command, or none that it has. -/
  | option (found : Option Found)
  deriving DecidableEq, Repr

/-- An argument with its kind. -/
structure Argument where
  /-- The argument as it was given. -/
  text : Text
  /-- Its kind. -/
  kind : Kind
  deriving DecidableEq, Repr

namespace Argument

/-- Whether it is an option. -/
def isOption (argument : Argument) : Bool :=
  match argument.kind with
  | .option _ => true
  | _ => false

end Argument

namespace Grammar

/-- All spellings of options with their options, in order. -/
def spellings (grammar : Grammar) : List (Text × Spec) :=
  grammar.options.flatMap fun spec => spec.names.map fun name => (name, spec)

/-- The option with a spelling. -/
def find? (grammar : Grammar) (name : Text) : Option Spec := grammar.spellings.lookup name

/-- A text before and after its first equals sign, if it has one. -/
def splitEquals (text : Text) : Text × Option Text :=
  match Text.cutAt? ['='] text with
  | some (front, back) => (front, some back)
  | none => (text, none)

/-- The options that an argument may be short for, or that it starts with as a letter. -/
def candidates (grammar : Grammar) (text : Text) : List Found :=
  match text with
  | '-' :: '-' :: _ =>
    let (front, value) := splitEquals text
    (grammar.spellings.filter fun entry => front.isPrefixOf entry.1).map fun entry =>
      ⟨entry.2, entry.1, value⟩
  | _ =>
    grammar.spellings.filterMap fun entry =>
      if entry.1 = text.take 2 then some ⟨entry.2, entry.1, some (text.drop 2)⟩
      else if text.isPrefixOf entry.1 then some ⟨entry.2, entry.1, none⟩
      else none

/-- Whether a text is a negative number. -/
def isNegativeNumber (text : Text) : Bool :=
  let isDigit := fun c => (Numeral.decimalDigit? c).isSome
  match text with
  | '-' :: rest =>
    let rest := if rest.getLast? = some (.char '\n') then rest.dropLast else rest
    (!rest.isEmpty && rest.all isDigit) ||
      (match rest.dropWhile isDigit with
        | '.' :: places => !places.isEmpty && places.all isDigit
        | _ => false)
  | _ => false

/-- The kind of an argument in front of a separator. -/
def kindOf (grammar : Grammar) (text : Text) : Except Stop Kind :=
  match text with
  | [] | ['-'] => .ok .plain
  | '-' :: _ =>
    match grammar.find? text with
    | some spec => .ok (.option (some ⟨spec, text, none⟩))
    | none =>
      let (front, value) := splitEquals text
      match value, grammar.find? front with
      | some value, some spec => .ok (.option (some ⟨spec, front, some value⟩))
      | _, _ =>
        match grammar.candidates text with
        | [found] => .ok (.option (some found))
        | [] =>
          if isNegativeNumber text || text.contains ' ' then .ok .plain
          else .ok (.option none)
        | many =>
          .error (.misuse grammar ("ambiguous option: ".toText ++ text ++
            " could match ".toText ++ Text.join [',', ' '] (many.map Found.name)))
  | _ => .ok .plain

/-- The arguments with their kinds. -/
def classify (grammar : Grammar) : List Text → Except Stop (List Argument)
  | [] => .ok []
  | text :: texts =>
    if text = ['-', '-'] then
      .ok (⟨text, .separator⟩ :: texts.map fun text => ⟨text, .plain⟩)
    else
      match grammar.kindOf text with
      | .error stop => .error stop
      | .ok kind =>
        match grammar.classify texts with
        | .error stop => .error stop
        | .ok arguments => .ok (⟨text, kind⟩ :: arguments)

end Grammar

/-- What was read from the arguments so far. -/
structure Reading (α : Type) where
  /-- The settings that were made, with their values, in order. -/
  settings : List (Setting × Text) := []
  /-- What the operands stand for, once they were read. -/
  operands : Option α := none
  /-- Arguments that nothing was done with. -/
  unused : List Text := []

namespace Reading

variable {α : Type}

/-- Whether a setting was made. -/
def has (reading : Reading α) (setting : Setting) : Bool :=
  reading.settings.any (·.1 == setting)

/-- The last value of a setting. -/
def value? (reading : Reading α) (setting : Setting) : Option Text :=
  (reading.settings.reverse.find? (·.1 == setting)).map (·.2)

/-- The refusal of an option. -/
def refuse {β : Type} (grammar : Grammar) (spec : Spec) (message : Text) : Except Stop β :=
  .error (.misuse grammar ("argument ".toText ++ spec.title ++ ": ".toText ++ message))

/-- The setting that excludes another one. -/
def rival? : Setting → Option Setting
  | .verbose => some .quiet
  | .quiet => some .verbose
  | _ => none

/-- The option that was given and excludes another one. -/
def conflict? (grammar : Grammar) (reading : Reading α) (spec : Spec) : Option Spec :=
  match rival? spec.setting with
  | none => none
  | some rival =>
    if reading.has rival then grammar.options.find? (·.setting == rival) else none

/-- Makes the setting of an option. -/
def make (grammar : Grammar) (reading : Reading α) (spec : Spec) (value : Text) :
    Except Stop (Reading α) :=
  match conflict? grammar reading spec with
  | some other => refuse grammar spec ("not allowed with argument ".toText ++ other.title)
  | none =>
    if spec.setting = .help then .error (.help grammar)
    else if spec.setting = .socket ∧ !(Numeral.toInt 10 value).toOption.isSome then
      refuse grammar spec ("invalid int value: ".toText ++ Quoted.text value)
    else .ok { reading with settings := reading.settings ++ [(spec.setting, value)] }

/-- The flags of one letter in an argument, from one with letters attached on. A letter that is no
flag refuses what is attached, which is the rule up to release 3.11.9 of the reader of arguments;
later releases hand such letters back. -/
def flags (grammar : Grammar) (spec : Spec) : Text → Except Stop (List Spec)
  | [] => refuse grammar spec ("ignored explicit argument ".toText ++ Quoted.text [])
  | letter :: rest =>
    match grammar.find? ['-', letter] with
    | none =>
      refuse grammar spec ("ignored explicit argument ".toText ++ Quoted.text (letter :: rest))
    | some next =>
      if rest.isEmpty then .ok [spec, next]
      else (flags grammar next rest).map (spec :: ·)

/-- Makes the settings of flags. -/
def makeAll (grammar : Grammar) : Reading α → List Spec → Except Stop (Reading α)
  | reading, [] => .ok reading
  | reading, spec :: specs =>
    match make grammar reading spec [] with
    | .error stop => .error stop
    | .ok reading => makeAll grammar reading specs

/-- Takes an option that stands in front of `rest`. The result is what is left of `rest`. -/
def takeOption (grammar : Grammar) (reading : Reading α) (found : Found)
    (rest : List Argument) : Except Stop (Reading α × List Argument) :=
  let spec := found.spec
  if spec.takesValue then
    match found.attached, rest with
    | some value, _ => (make grammar reading spec value).map (·, rest)
    | none, ⟨value, .plain⟩ :: rest => (make grammar reading spec value).map (·, rest)
    | none, _ => refuse grammar spec "expected one argument".toText
  else
    match found.attached with
    | none => (make grammar reading spec []).map (·, rest)
    | some value =>
      if "--".toText.isPrefixOf found.name then
        refuse grammar spec ("ignored explicit argument ".toText ++ Quoted.text value)
      else
        match flags grammar spec value with
        | .error stop => .error stop
        | .ok specs => (makeAll grammar reading specs).map (·, rest)

/-- The operands that a run of plain arguments stands for: the first separator is left out. -/
def withoutSeparator (arguments : List Argument) : List Text :=
  (arguments.map Argument.text).erase ['-', '-']

/-- Reads operands in front of other arguments, if the command still expects some. The result is
what is left of the arguments; it is absent if there are no operands to be read. -/
def takeOperands (grammar : Grammar) (meaning : List Text → Except Stop α) (reading : Reading α)
    (arguments : List Argument) : Except Stop (Option (Reading α × List Argument)) :=
  let run := arguments.takeWhile (!·.isOption)
  if reading.operands.isSome || !run.any (·.kind == .plain) then .ok none
  else match grammar.operands with
    | .none => .ok none
    | .some _ =>
      (meaning (withoutSeparator run)).map fun operands =>
        some ({ reading with operands := some operands }, arguments.dropWhile (!·.isOption))
    | .command _ =>
      (meaning (arguments.map Argument.text)).map fun operands =>
        some ({ reading with operands := some operands }, [])

theorem takeOption_length {grammar : Grammar} {reading next : Reading α} {found : Found}
    {rest left : List Argument} (h : takeOption grammar reading found rest = .ok (next, left)) :
    left.length ≤ rest.length := by
  have handedOn {reading : Except Stop (Reading α)} {given : List Argument}
      (h : reading.map (·, given) = .ok (next, left)) : left.length ≤ given.length := by
    cases reading <;> simp_all [Except.map]
  unfold takeOption refuse at h
  simp only at h
  split at h
  · split at h
    · exact handedOn h
    · exact Nat.le_succ_of_le (handedOn h)
    · cases h
  · split at h
    · exact handedOn h
    · split at h
      · cases h
      · split at h
        · cases h
        · exact handedOn h

theorem takeOperands_length {grammar : Grammar} {meaning : List Text → Except Stop α}
    {reading next : Reading α} {arguments left : List Argument}
    (h : takeOperands grammar meaning reading arguments = .ok (some (next, left))) :
    left.length < arguments.length := by
  unfold takeOperands at h
  simp only at h
  split at h
  · cases h
  · next hrun =>
    cases arguments with
    | nil => simp at hrun
    | cons first rest =>
      have hfirst : first.isOption = false := by
        cases hf : first.isOption <;> simp_all
      split at h
      · cases h
      · cases hm : meaning (withoutSeparator ((first :: rest).takeWhile (!·.isOption))) with
        | error _ => simp [hm, Except.map] at h
        | ok _ =>
          simp only [hm, Except.map, Except.ok.injEq, Option.some.injEq, Prod.mk.injEq] at h
          have hdrop : (rest.dropWhile (!·.isOption)).length ≤ rest.length :=
            (List.dropWhile_sublist _).length_le
          rw [← h.2]
          simp only [List.dropWhile_cons, hfirst, Bool.not_false, if_true, List.length_cons]
          omega
      · cases hm : meaning ((first :: rest).map Argument.text) with
        | error _ => rw [hm] at h; simp [Except.map] at h
        | ok _ =>
          simp only [hm, Except.map, Except.ok.injEq, Option.some.injEq, Prod.mk.injEq] at h
          rw [← h.2]
          simp

/-- Reads arguments one after the other. -/
def readAll (grammar : Grammar) (meaning : List Text → Except Stop α) (reading : Reading α)
    (arguments : List Argument) : Except Stop (Reading α) :=
  match arguments with
  | [] => .ok reading
  | ⟨text, .option none⟩ :: rest =>
    readAll grammar meaning { reading with unused := reading.unused ++ [text] } rest
  | ⟨_, .option (some found)⟩ :: rest =>
    match taken : takeOption grammar reading found rest with
    | .error stop => .error stop
    | .ok (reading, left) =>
      have := Nat.lt_succ_of_le (takeOption_length taken)
      readAll grammar meaning reading left
  | argument :: rest =>
    match taken : takeOperands grammar meaning reading (argument :: rest) with
    | .error stop => .error stop
    | .ok (some (reading, left)) =>
      have := takeOperands_length taken
      readAll grammar meaning reading left
    | .ok none =>
      readAll grammar meaning { reading with unused := reading.unused ++ [argument.text] } rest
termination_by arguments.length
decreasing_by
  · exact Nat.lt_succ_self _
  · assumption
  · assumption
  · exact Nat.lt_succ_self _

/-- The complaint about operands that are missing. -/
def missing? (grammar : Grammar) (reading : Reading α) : Option Text :=
  match grammar.operands, reading.operands with
  | .some title, none | .command title, none => some title
  | _, _ => none

end Reading

/-- Reads the arguments of a command. `meaning` says what its operands stand for. -/
def Grammar.read {α : Type} (grammar : Grammar) (meaning : List Text → Except Stop α)
    (texts : List Text) : Except Stop (Reading α) :=
  match grammar.classify texts with
  | .error stop => .error stop
  | .ok arguments =>
    match Reading.readAll grammar meaning {} arguments with
    | .error stop => .error stop
    | .ok reading =>
      match Reading.missing? grammar reading with
      | some title =>
        .error (.misuse grammar ("the following arguments are required: ".toText ++ title))
      | none => .ok reading

end StyleTypings.CommandLine
