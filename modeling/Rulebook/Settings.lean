import Rulebook.Comparer.Version
import Rulebook.Document
import Rulebook.Failure
import Rulebook.Hash.Sha1

/-!
# Compiling and evaluating with settings

The settings are the digest function and the comparers that documents can use.
With them a text is compiled, and evaluated against a context of tokens. The same
is done for the text of a file, whose bytes are given by a function of its path.
-/

namespace Rulebook

/-- What compilations and evaluations share. -/
structure Settings where
  /-- The digest function that assigns owners. -/
  hasher : Hasher
  /-- The comparers that documents can use. -/
  registry : Registry

/-- The bytes of files, or why they cannot be read. -/
abbrev Files := String → Except ReadFault ByteArray

namespace Settings

/-- SHA-1 and the comparers that every document can use. -/
def standard : Settings := ⟨Sha1.hash, Registry.builtin⟩

/-- The document of a text. -/
def compile (settings : Settings) (text : String) : Except Failure Document :=
  (Document.compile settings.registry text).mapError fun _ => .invalidDocument

/-- What a document gives to a context. -/
def calculate (settings : Settings) (document : Document) (context : Context) :
    Except Failure (Option Json) :=
  (document.evaluate context.get? settings.hasher).mapError .evaluation

/-- What the document of a text gives to the context of tokens. The text is
compiled before the tokens are read. -/
def calculateText (settings : Settings) (text : String) (tokens : List String) :
    Except Failure (Option Json) := do
  let document ← settings.compile text
  let context ← (Context.ofTokens tokens).mapError .context
  settings.calculate document context

/-- What settings compile, their registry compiles. -/
theorem compile_eq_ok {settings : Settings} {text : String} {document : Document}
    (h : settings.compile text = .ok document) :
    Document.compile settings.registry text = .ok document := by
  unfold compile at h
  cases hcompile : Document.compile settings.registry text with
  | error error =>
    rw [hcompile] at h
    cases h
  | ok found =>
    rw [hcompile] at h
    cases h
    rfl

/-- What the registry compiles, the settings compile. -/
theorem compile_of_document {settings : Settings} {text : String} {document : Document}
    (h : Document.compile settings.registry text = .ok document) :
    settings.compile text = .ok document := by
  unfold compile
  rw [h]
  rfl

/-- A text that compiles is evaluated against what its tokens write, or has the malformed
token as its error. -/
theorem calculateText_eq {settings : Settings} {text : String} {document : Document}
    (hcompile : settings.compile text = .ok document) (tokens : List String) :
    settings.calculateText text tokens =
      match Context.ofTokens tokens with
      | .ok context => settings.calculate document context
      | .error error => .error (.context error) := by
  unfold calculateText
  rw [hcompile]
  cases Context.ofTokens tokens <;> rfl

/-- The text of a result; nothing is written as null. -/
def render (result : Option Json) : String := (result.getD .null).render

/-- The text of a file. -/
def readText (files : Files) (path : String) : Except Failure String :=
  match files path with
  | .error fault => .error (.unreadable path fault)
  | .ok bytes =>
    match String.fromUTF8? bytes with
    | some text => .ok text
    | none => .error (.unreadable path .notText)

/-- The document of a file. -/
def compileFile (settings : Settings) (files : Files) (path : String) :
    Except Failure Document := do
  let text ← readText files path
  settings.compile text

/-- Whether a file has a document. -/
def validateFile (settings : Settings) (files : Files) (path : String) :
    Except Failure Unit := do
  let _ ← settings.compileFile files path
  return ()

/-- The text of what the document of a file gives to the context of tokens. -/
def calculateFile (settings : Settings) (files : Files) (path : String) (tokens : List String) :
    Except Failure String := do
  let document ← settings.compileFile files path
  let context ← (Context.ofTokens tokens).mapError .context
  let result ← settings.calculate document context
  return render result

end Settings

end Rulebook
