import Rulebook.Json
import Rulebook.Text.LowerCase

/-!
# Contexts

A context gives values to properties. Names are kept in lower case, so names that
differ only in case are one property, and what was written last is what a name
stands for. On the command line a context is a list of tokens `name=value`, every
value being a text.
-/

namespace Rulebook

/-- A token that is not of the form `name=value`. -/
structure MalformedToken where
  /-- The token. -/
  token : String
deriving DecidableEq, Repr

/-- The wording of a malformed token. -/
def MalformedToken.message (error : MalformedToken) : String :=
  s!"malformed context `{error.token}`, expected key=value"

/-- Values of properties, by their names in lower case. -/
structure Context where
  /-- The values in the order of their names. -/
  entries : Dict Json

namespace Context

/-- The context without properties. -/
def empty : Context := ⟨[]⟩

/-- The value of a property. -/
def get? (context : Context) (name : String) : Option Json :=
  Dict.find? (Text.lowerCase name) context.entries

/-- The context with a value for a property, in place of an older one. -/
def insert (name : String) (value : Json) (context : Context) : Context :=
  ⟨Dict.insert (Text.lowerCase name) value context.entries⟩

/-- The value that a property had, and the context with a new one. -/
def replace (name : String) (value : Json) (context : Context) : Option Json × Context :=
  (context.get? name, context.insert name value)

/-- A property just written has the value written, under every name of it. -/
theorem get?_insert_of_same {name other : String}
    (h : Text.lowerCase other = Text.lowerCase name) (value : Json) (context : Context) :
    (context.insert name value).get? other = some value := by
  unfold get? insert
  rw [h]
  exact Dict.find?_insert_self _ value context.entries

theorem get?_insert_of_ne {name other : String}
    (h : Text.lowerCase other ≠ Text.lowerCase name) (value : Json) (context : Context) :
    (context.insert name value).get? other = context.get? other := by
  unfold get? insert
  exact Dict.find?_insert_of_ne h value context.entries

/-- How many properties have a value. -/
def size (context : Context) : Nat := context.entries.length

/-- Whether two contexts give equal values to the same properties. -/
def same (a b : Context) : Bool := Json.sameFields a.entries b.entries

/-- The name and the value of a token: what is before its first `=`, which must
not be empty, and all that is behind it. -/
def splitToken (token : String) : Except MalformedToken (String × String) :=
  match token.toList.span (· != '=') with
  | (name, _ :: value) =>
    if name.isEmpty then .error ⟨token⟩
    else .ok (String.ofList name, String.ofList value)
  | (_, []) => .error ⟨token⟩

/-- The context with the tokens written into it one after the other; the first
malformed token is the error. -/
def addTokens (context : Context) : List String → Except MalformedToken Context
  | [] => .ok context
  | token :: rest => do
    let (name, value) ← splitToken token
    addTokens (context.insert name (.string value)) rest

/-- The context of a list of tokens. -/
def ofTokens (tokens : List String) : Except MalformedToken Context :=
  addTokens empty tokens

end Context

end Rulebook
