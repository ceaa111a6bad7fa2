import TrackerQuery.Json.Reading
import TrackerQuery.Json.Record
import TrackerQuery.Setting

namespace TrackerQuery

open Json (Key)

def FieldSpec.ofJson? (j : Json) : Option FieldSpec := do
  let keys : List Key := [
    ⟨"name", .required⟩, ⟨"type", .required⟩, ⟨"allow_multiple", .defaulted⟩, ⟨"choices", .defaulted⟩]
  match ← j.record? keys with
  | [some name, some type, multiple, choices] =>
    let name ← name.string?
    let type ← type.name?.bind FieldType.ofName?
    let multiple ← Json.orDefault false Json.bool? multiple
    let choices ← Json.orDefault [] (Json.list? Json.string?) choices
    some ⟨name, type, multiple, choices⟩
  | _ => none

def FieldSpec.toJson (spec : FieldSpec) : Json :=
  .ofMembers [
    ("name", .ofString spec.name),
    ("type", .ofString spec.type.name),
    ("allow_multiple", .bool spec.allowMultiple),
    ("choices", .array (spec.choices.map .ofString))]

namespace Setting

def ofJson? (j : Json) : Option Setting := do
  match ← j.record? [⟨"fields", .defaulted⟩, ⟨"states", .defaulted⟩] with
  | [fields, states] =>
    let fields ← Json.orDefault [] (Json.list? FieldSpec.ofJson?) fields
    let states ← Json.orDefault [] (Json.list? Json.string?) states
    some ⟨fields, states⟩
  | _ => none

def toJson (s : Setting) : Json :=
  .ofMembers [
    ("fields", .array (s.fields.map FieldSpec.toJson)),
    ("states", .array (s.states.map .ofString))]

inductive File where
  | missing
  | directory
  | content (bytes : ByteArray)

inductive ReadFault where
  | notUtf8
  | isDirectory
deriving DecidableEq, Repr

inductive LoadError where
  | missing (path : String)
  | unreadable (path : String) (fault : ReadFault)
  | unparsable (path : String)
deriving DecidableEq, Repr

def ReadFault.message : ReadFault → String
  | notUtf8 => "stream did not contain valid UTF-8"
  | isDirectory => "Is a directory (os error 21)"

def LoadError.message : LoadError → String
  | missing path => "Setting file does not exist: " ++ path
  | unreadable path fault => "Unable to read setting file " ++ path ++ ": " ++ fault.message
  | unparsable path => "Unable to parse setting file " ++ path

def load (path : String) : File → Except LoadError Setting
  | .missing => .error (.missing path)
  | .directory => .error (.unreadable path .isDirectory)
  | .content bytes =>
    match String.fromUTF8? bytes with
    | none => .error (.unreadable path .notUtf8)
    | some text =>
      match (Json.read? text).bind ofJson? with
      | some setting => .ok setting
      | none => .error (.unparsable path)

end Setting

end TrackerQuery
