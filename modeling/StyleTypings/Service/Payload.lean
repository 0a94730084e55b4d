import StyleTypings.Options

/-!
# Payloads of the service

A request to reconcile carries an object with four fields, of which two may be left out. Each
field that is missing or of the wrong kind is a problem of its own, and all problems are
reported in the order of the fields. Fields of other names are passed over.
-/

namespace StyleTypings.Service

/-- What is wrong with a part of a payload. -/
inductive Fault where
  /-- The part is missing. -/
  | missing
  /-- The part is no object. -/
  | notObject
  /-- The part is no text. -/
  | notText
  /-- The part is a text with a surrogate, which is not compared with words. -/
  | notUnicode
  /-- The part is a text or a number that stands for no truth value. -/
  | unclearTruth
  /-- The part is nothing that could stand for a truth value. -/
  | notTruth
  deriving DecidableEq, Repr

namespace Fault

/-- The name of the kind of a fault. -/
def kind : Fault → Text
  | missing => "missing".toText
  | notObject => "model_attributes_type".toText
  | notText => "string_type".toText
  | notUnicode => "string_unicode".toText
  | unclearTruth => "bool_parsing".toText
  | notTruth => "bool_type".toText

/-- The wording of a fault. -/
def message : Fault → Text
  | missing => "Field required".toText
  | notObject => "Input should be a valid dictionary or object to extract fields from".toText
  | notText => "Input should be a valid string".toText
  | notUnicode =>
    ("Input should be a valid string, " ++
      "unable to parse raw data as a unicode string").toText
  | unclearTruth => "Input should be a valid boolean, unable to interpret input".toText
  | notTruth => "Input should be a valid boolean".toText

end Fault

/-- A fault of the body, or of one of its fields. -/
structure Problem where
  /-- The field; the body itself if it is absent. -/
  field : Option Text
  /-- What is wrong with it. -/
  fault : Fault
  /-- The value that was found: that of the field, or that of the body if the field is missing. -/
  input : Value
  deriving Repr

/-- A problem as a value. -/
def Problem.value (problem : Problem) : Value :=
  .map
    [(.text "type".toText, .text problem.fault.kind),
     (.text "loc".toText, .list (.text "body".toText :: problem.field.toList.map .text)),
     (.text "msg".toText, .text problem.fault.message),
     (.text "input".toText, problem.input)]

/-- What a request to reconcile carries. -/
structure Payload where
  /-- The compiled text. -/
  content : Text
  /-- The path of the resource. -/
  resource : Text
  /-- The options. -/
  options : Options
  deriving DecidableEq, Repr

namespace Payload

/-- The words that stand for true. -/
def trueWords : List Text := ["1", "on", "t", "true", "y", "yes"].map String.toText

/-- The words that stand for false. -/
def falseWords : List Text := ["0", "off", "f", "false", "n", "no"].map String.toText

/-- The least size that is too large for a machine word with a sign. -/
def wordLimit : Int := 0x8000000000000000

/-- The truth value that a whole number stands for. Numbers beyond a machine word are no numbers
here. -/
def truthOfInt (n : Int) : Except Fault Bool :=
  if n = 0 then .ok false
  else if n = 1 then .ok true
  else if -wordLimit ≤ n ∧ n < wordLimit then .error .unclearTruth
  else .error .notTruth

/-- The truth value that a value stands for. -/
def truth : Value → Except Fault Bool
  | .bool value => .ok value
  | .int n => truthOfInt n
  | .float x =>
    if x.toInt? = some 0 then .ok false
    else if x.toInt? = some 1 then .ok true
    else .error .notTruth
  | .text word =>
    if word.any CodePoint.isSurrogate then .error .notUnicode
    else if trueWords.contains (Text.lowerLatin word) then .ok true
    else if falseWords.contains (Text.lowerLatin word) then .ok false
    else .error .unclearTruth
  | _ => .error .notTruth

/-- The text that a value is. -/
def text : Value → Except Fault Text
  | .text value => .ok value
  | _ => .error .notText

/-- A field read by `read`; the value `otherwise` stands in for a field that is left out. -/
def field {α : Type} (entries : List (Value × Value)) (name : Text)
    (read : Value → Except Fault α) (otherwise : Option α) : Except Problem α :=
  match (Value.text name).lookup? entries, otherwise with
  | none, some value => .ok value
  | none, none => .error ⟨some name, .missing, .map entries⟩
  | some value, _ =>
    match read value with
    | .ok value => .ok value
    | .error fault => .error ⟨some name, fault, value⟩

/-- The problem of a field, if it has one. -/
def problemOf {α : Type} : Except Problem α → List Problem
  | .ok _ => []
  | .error problem => [problem]

/-- The payload in the body of a request, or all problems of the body. -/
def ofBody : Option Value → Except (List Problem) Payload
  | none => .error [⟨none, .missing, .null⟩]
  | some (.map entries) =>
    let content := field entries "content".toText text none
    let resource := field entries "resource_path".toText text none
    let mode := field entries "mode".toText text (some Mode.emit.text)
    let namedExports := field entries "named_exports".toText truth (some false)
    match content, resource, mode, namedExports with
    | .ok content, .ok resource, .ok mode, .ok namedExports =>
      .ok ⟨content, resource, ⟨mode, namedExports⟩⟩
    | _, _, _, _ =>
      .error (problemOf content ++ problemOf resource ++ problemOf mode ++
        problemOf namedExports)
  | some body => .error [⟨none, .notObject, body⟩]

end Payload

end StyleTypings.Service
