import BundleBuilder.ProcessingError

/-!
# Diagnostics

Errors, warnings and notes are collected in the order in which they arise. Warnings may be switched
off; errors and notes are always kept.
-/

set_option autoImplicit false

namespace BundleBuilder

/-- The weight of a diagnostic. -/
inductive Severity where
  | error
  | warning
  | note
  deriving DecidableEq, Repr

/-- The word for a severity. -/
def Severity.word : Severity → String
  | error => "error"
  | warning => "warning"
  | note => "note"

/-- A message about an element of the class model, or about the whole run. -/
structure Diagnostic where
  severity : Severity
  message : String
  element? : Option String := none
  deriving DecidableEq, Repr

/-- The line for a diagnostic. -/
def Diagnostic.line (diagnostic : Diagnostic) : String :=
  match diagnostic.element? with
  | some element => diagnostic.severity.word ++ ": " ++ element ++ ": " ++ diagnostic.message
  | none => diagnostic.severity.word ++ ": " ++ diagnostic.message

/-- The diagnostics of a run so far, and whether warnings are kept. -/
structure Diagnostics where
  warningsEnabled : Bool
  entries : List Diagnostic := []
  deriving DecidableEq, Repr

namespace Diagnostics

/-- The diagnostics with one more entry. -/
def add (diagnostics : Diagnostics) (entry : Diagnostic) : Diagnostics :=
  { diagnostics with entries := diagnostics.entries ++ [entry] }

/-- Adds an error. -/
def error (diagnostics : Diagnostics) (message : String) (element? : Option String) : Diagnostics :=
  diagnostics.add ⟨.error, message, element?⟩

/-- Adds a warning if warnings are kept. -/
def warning (diagnostics : Diagnostics) (message : String) (element? : Option String) :
    Diagnostics :=
  if diagnostics.warningsEnabled then diagnostics.add ⟨.warning, message, element?⟩ else diagnostics

/-- Adds a note. -/
def note (diagnostics : Diagnostics) (message : String) (element? : Option String) : Diagnostics :=
  diagnostics.add ⟨.note, message, element?⟩

/-- Adds a processing error. -/
def report (diagnostics : Diagnostics) (error : ProcessingError) : Diagnostics :=
  diagnostics.error error.message (some error.element)

/-- The number of entries of a severity. -/
def count (diagnostics : Diagnostics) (severity : Severity) : Nat :=
  diagnostics.entries.countP fun entry => entry.severity == severity

/-- The number of errors. -/
def errorCount (diagnostics : Diagnostics) : Nat := diagnostics.count .error

/-- The number of warnings. -/
def warningCount (diagnostics : Diagnostics) : Nat := diagnostics.count .warning

/-- Whether there is an error. -/
def hasErrors (diagnostics : Diagnostics) : Bool := decide (0 < diagnostics.errorCount)

/-- Takes all entries out. -/
def flush (diagnostics : Diagnostics) : List Diagnostic × Diagnostics :=
  (diagnostics.entries, { diagnostics with entries := [] })

end Diagnostics

end BundleBuilder
