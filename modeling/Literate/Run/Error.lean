import Literate.Decimal.Shortest
import Literate.Files.FileTree
import Literate.Macro.Expansion
import Literate.Settings.Error

/-!
# Why a block does not run to its end

A status other than zero is no error: these are the cases without a result.
-/

namespace Literate

open Text

/-- Why the source of a block cannot be put together. -/
inductive SourceError
  | expansion (e : ExpansionError)
  | configuration (e : ConfigurationError)
  deriving DecidableEq, Repr

/-- The error as shown. -/
def SourceError.message : SourceError → String
  | expansion e => e.message
  | configuration e => e.message

/-- Why a block has no result.  Model of `errors.ExecutionError` and its subclasses. -/
inductive ExecutionError
  | notFound (block : Text)
  | busy (block : Text)
  | unsupportedLanguage (language block : Text)
  | expansionFailed (cause : SourceError) (block : Text)
  | writeFailed (cause : OsError) (block : Text)
  | spawnFailed (program : Text) (cause : OsError) (block : Text)
  | timedOut (seconds : Double) (block : Text)
  | cancelled (block : Text)
  deriving DecidableEq, Repr

namespace ExecutionError

/-- The block that was to run. -/
def block : ExecutionError → Text
  | notFound b => b
  | busy b => b
  | unsupportedLanguage _ b => b
  | expansionFailed _ b => b
  | writeFailed _ b => b
  | spawnFailed _ _ b => b
  | timedOut _ b => b
  | cancelled b => b

/-- The reason in a word. -/
def reason : ExecutionError → String
  | notFound _ => "not_found"
  | busy _ => "busy"
  | unsupportedLanguage _ _ => "unsupported_language"
  | expansionFailed _ _ => "expansion_failed"
  | writeFailed _ _ => "write_failed"
  | spawnFailed _ _ _ => "spawn_failed"
  | timedOut _ _ => "timeout"
  | cancelled _ => "cancelled"

/-- The kind of error as written in answers. -/
def kind : ExecutionError → String
  | timedOut _ _ => "ExecutionTimeout"
  | cancelled _ => "ExecutionCancelled"
  | _ => "ExecutionError"

/-- The error as shown. -/
def message : ExecutionError → String
  | notFound b => "Block not found: " ++ b.toStr
  | busy b => "Block '" ++ b.toStr ++ "' is already running"
  | unsupportedLanguage l b =>
    "No runner for language '" ++ (if l.isEmpty then "(none)" else l.toStr) ++ "' of block '"
      ++ b.toStr ++ "'"
  | expansionFailed cause _ => cause.message
  | writeFailed cause _ => "Cannot write scratch file: " ++ cause.message
  | spawnFailed program cause _ => "Cannot start " ++ program.toStr ++ ": " ++ cause.message
  | timedOut seconds b =>
    "Block '" ++ b.toStr ++ "' timed out after " ++ seconds.general.toStr ++ "s"
  | cancelled b => "Execution of block '" ++ b.toStr ++ "' was cancelled"

end ExecutionError

end Literate
