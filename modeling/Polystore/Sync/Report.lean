import Polystore.Connection.Basic
import Polystore.Plan

/-!
# Synchronization reports

What a synchronization did, and the problems it met that did not stop it. Every warning is logged when
it is added.
-/

namespace Polystore.Sync

inductive WarningKind where
  | introspectionFailure
  | partialAlterFailure
  | indexCreationFailed
  | nullableFallback
  deriving DecidableEq, Repr

def WarningKind.name : WarningKind → String
  | introspectionFailure => "introspection_failure"
  | partialAlterFailure => "partial_alter_failure"
  | indexCreationFailed => "index_creation_failed"
  | nullableFallback => "nullable_fallback"

/-- A problem that did not stop the synchronization; the target is a table, column or index. -/
structure Warning where
  kind : WarningKind
  message : String
  target : String
  deriving DecidableEq, Repr

/-- The outcome of a synchronization. -/
structure Report where
  created : Bool := false
  altered : Bool := false
  changes : List String := []
  warnings : List Warning := []
  plan : List Change := []
  deriving Repr

namespace Report

variable {σ : Type}

/-- Adds a warning and logs it. -/
def warn (r : Report) (w : Warning) : Action σ Report := do
  .note .warning .sync (w.kind.name ++ ": " ++ w.message)
  pure { r with warnings := r.warnings ++ [w] }

/-- Adds several warnings. -/
def warnAll (r : Report) (ws : List Warning) : Action σ Report :=
  ws.foldlM (fun r w => r.warn w) r

end Report

end Polystore.Sync
