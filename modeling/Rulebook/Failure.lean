import Rulebook.Comparer
import Rulebook.Context

/-!
# Failures of a command

What keeps a command from giving a result. Why a document does not compile is not
part of the failure.
-/

namespace Rulebook

/-- Why the text of a file cannot be read. -/
inductive ReadFault where
  /-- There is no such file. -/
  | notFound
  /-- A part of the path is used as a directory and is none. -/
  | notDirectory
  /-- The path leads to a directory. -/
  | isDirectory
  /-- The bytes of the file are not UTF-8 text. -/
  | notText
  /-- The system gives another reason. -/
  | other (reason : String)
deriving DecidableEq, Repr

/-- The wording of a read fault, as the system gives it. -/
def ReadFault.message : ReadFault → String
  | .notFound => "No such file or directory (os error 2)"
  | .notDirectory => "Not a directory (os error 20)"
  | .isDirectory => "Is a directory (os error 21)"
  | .notText => "stream did not contain valid UTF-8"
  | .other reason => reason

/-- What keeps a command from giving a result. -/
inductive Failure where
  /-- The document cannot be read from its file. -/
  | unreadable (path : String) (fault : ReadFault)
  /-- The document does not compile. -/
  | invalidDocument
  /-- The context has a malformed token. -/
  | context (error : MalformedToken)
  /-- The evaluation gives a comparer a text that it refuses. -/
  | evaluation (error : ComparisonError)
deriving DecidableEq, Repr

namespace Failure

/-- The beginning of the wording of an unreadable file. -/
def unreadableLead (path : String) : String := s!"cannot read `{path}`: "

/-- The wording of a failure. -/
def message : Failure → String
  | .unreadable path fault => unreadableLead path ++ fault.message
  | .invalidDocument => "jpad is not valid"
  | .context error => error.message
  | .evaluation error => s!"evaluation failed: {error.message}"

end Failure

end Rulebook
