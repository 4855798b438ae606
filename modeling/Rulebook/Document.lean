import Rulebook.RuleTree

/-!
# Documents

A document is a list of rules, or an object with its rules, the partitions that
divide them, a value for contexts to which no rule gives one, and the type of all
its values.
-/

namespace Rulebook

/-- A document as it is written. -/
structure WrittenDocument where
  /-- The properties that divide the rules, from the top. -/
  partitions : List String
  /-- The rules, if they have been read. -/
  rules : Option Json
  /-- The value when no rule gives one; a null that is written counts as a value. -/
  defaultValue : Option Json
  /-- The type of all values. -/
  valueType : Option ValueType

namespace WrittenDocument

/-- A field of a document. -/
def readField (document : WrittenDocument) (name : String) (value : Json) :
    Except ShapeError WrittenDocument :=
  match name with
  | "partitions" => do
    let partitions ← Shape.list Shape.text value
    return { document with partitions }
  | "rules" => .ok { document with rules := some value }
  | "defaultValue" => .ok { document with defaultValue := some value }
  | "valueType" => do
    let valueType ← Shape.optional (Shape.choice ValueType.named) value
    return { document with valueType }
  | _ => .ok document

/-- A document; a list is its rules alone. -/
def read : Json → Except ShapeError WrittenDocument
  | .array rules => .ok ⟨[], some (.array rules), none, none⟩
  | .object fields =>
    fields.foldlM (fun document field => readField document field.1 field.2) ⟨[], none, none, none⟩
  | found => .error (.unexpected found .document)

end WrittenDocument

/-- A compiled document. -/
structure Document where
  /-- The properties that divide the rules, from the top. -/
  partitions : List String
  /-- The rules. -/
  rules : RuleTree
  /-- The value when no rule gives one. -/
  defaultValue : Option Json

namespace Document

/-- The default value must be of the declared type. -/
def checkDefault (written : WrittenDocument) : Except CompileError Unit :=
  match written.defaultValue with
  | some value => CompileError.checkDeclared written.valueType value
  | none => .ok ()

/-- The document that a written one describes, with comparers from a registry. -/
def compileWritten (registry : Registry) (written : WrittenDocument) :
    Except CompileError Document :=
  match written.rules with
  | none => .error (.shape (.missing "rules"))
  | some rules => do
    checkDefault written
    let tree ← RuleTree.compile registry written.valueType written.partitions.length rules
    return ⟨written.partitions, tree, written.defaultValue⟩

/-- The document that a JSON value writes. -/
def compileJson (registry : Registry) (json : Json) : Except CompileError Document := do
  let written ← (WrittenDocument.read json).mapError CompileError.shape
  compileWritten registry written

/-- The document that a text writes. -/
def compile (registry : Registry) (text : String) : Except CompileError Document :=
  match Json.read? text with
  | none => .error .notJson
  | some json => compileJson registry json

/-- What a document gives to a context, and what it asks for: the value of the
first rule that gives one, or else the default value. -/
def run (lookup : Lookup) (hasher : Hasher) (document : Document) :
    Evaluation (Option Json) := do
  let hit ← document.rules.run lookup hasher document.partitions
  pure (hit.or document.defaultValue)

/-- What a document gives to a context. -/
def evaluate (lookup : Lookup) (hasher : Hasher) (document : Document) :
    Except ComparisonError (Option Json) :=
  (document.run lookup hasher).result

end Document

end Rulebook
