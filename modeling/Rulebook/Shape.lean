import Rulebook.Json
import Rulebook.Text.Quoted

/-!
# Reading values of a given shape

The parts of a document have shapes: texts, lists, objects with known fields,
choices among names. Reading a JSON value as a shape either gives its parts or
names the first part that is wrong, the fields of an object being visited in key
order and fields that are not known being passed over.
-/

namespace Rulebook

/-- What a shape wants to find. -/
inductive Form where
  /-- A text. -/
  | text
  /-- A list. -/
  | list
  /-- An object with any fields. -/
  | object
  /-- A document. -/
  | document
  /-- A rule. -/
  | rule
  /-- A value distribution. -/
  | distribution
  /-- A name out of a few. -/
  | choice
  /-- Nothing more than the name of a choice. -/
  | nothing
deriving DecidableEq, Repr

/-- The words for a form. -/
def Form.words : Form → String
  | .text => "a string"
  | .list => "a sequence"
  | .object => "a map"
  | .document => "struct RawDocument"
  | .rule => "struct RawRule"
  | .distribution => "struct RawDistribution"
  | .choice => "string or map"
  | .nothing => "unit"

/-- What is wrong with a value that should have a shape. -/
inductive ShapeError where
  /-- Something else stands where a form was wanted. -/
  | unexpected (found : Json) (wanted : Form)
  /-- A field that must be there is missing. -/
  | missing (field : String)
  /-- A name is none of those to choose from. -/
  | unknownName (name : String) (known : List String)
  /-- An object that should name a choice has no field or several. -/
  | notOneName
  /-- A list of fields is longer than the fields. -/
  | tooLong (length : Nat)
  /-- A list of fields ends before a field that must be there. -/
  | tooShort (length : Nat) (wanted : Form) (fields : Nat)

namespace ShapeError

/-- The words for what was found. -/
def describe : Json → String
  | .null => "null"
  | .bool true => "boolean `true`"
  | .bool false => "boolean `false`"
  | .number (.float x) => "floating point `" ++ (Number.float x).text ++ "`"
  | .number n => "integer `" ++ n.text ++ "`"
  | .string s => "string " ++ Text.quoted s
  | .array _ => "sequence"
  | .object _ => "map"

/-- The words for a list of names to choose from. -/
def alternatives : List String → String
  | [] => "nothing"
  | [name] => s!"`{name}`"
  | [first, second] => s!"`{first}` or `{second}`"
  | names => "one of " ++ ", ".intercalate (names.map fun name => s!"`{name}`")

/-- The wording of a shape error. -/
def message : ShapeError → String
  | .unexpected found wanted => s!"invalid type: {describe found}, expected {wanted.words}"
  | .missing field => s!"missing field `{field}`"
  | .unknownName name known => s!"unknown variant `{name}`, expected {alternatives known}"
  | .notOneName => "invalid value: map, expected map with a single key"
  | .tooLong length => s!"invalid length {length}, expected fewer elements in array"
  | .tooShort length wanted fields =>
    s!"invalid length {length}, expected {wanted.words} with {fields} elements"

end ShapeError

namespace Shape

variable {α : Type}

/-- A text. -/
def text : Json → Except ShapeError String
  | .string s => .ok s
  | found => .error (.unexpected found .text)

/-- A value that may be missing, null being the same as missing. -/
def optional (read : Json → Except ShapeError α) : Json → Except ShapeError (Option α)
  | .null => .ok none
  | value => (read value).map some

/-- A list, its items being read from the left. -/
def list (read : Json → Except ShapeError α) : Json → Except ShapeError (List α)
  | .array items => items.mapM read
  | found => .error (.unexpected found .list)

/-- The fields of an object, whatever they are. -/
def fields : Json → Except ShapeError (Dict Json)
  | .object fields => .ok fields
  | found => .error (.unexpected found .object)

/-- The meaning of a name among those to choose from. -/
def named (known : List (String × α)) (name : String) : Except ShapeError α :=
  match known.lookup name with
  | some meaning => .ok meaning
  | none => .error (.unknownName name (known.map Prod.fst))

/-- A choice: a name, or an object whose only field has the name and the value
null. -/
def choice (known : List (String × α)) : Json → Except ShapeError α
  | .string name => named known name
  | .object [(name, value)] => do
    let meaning ← named known name
    match value with
    | .null => .ok meaning
    | found => .error (.unexpected found .nothing)
  | .object _ => .error .notOneName
  | found => .error (.unexpected found .choice)

/-- A record whose fields are read one after the other into `start`. An object
names its fields and gives them in key order; a list gives them in the order of
`names`, and may end early but not go on. -/
def record (form : Form) (names : List String) (start : α)
    (readField : α → String → Json → Except ShapeError α) : Json → Except ShapeError α
  | .object fields => fields.foldlM (fun record field => readField record field.1 field.2) start
  | .array items => do
    let record ← (names.zip items).foldlM
      (fun record field => readField record field.1 field.2) start
    if names.length < items.length then .error (.tooLong items.length) else .ok record
  | found => .error (.unexpected found form)

end Shape

end Rulebook
