import CrateAtlas.Diagnostic
import CrateAtlas.Failure
import CrateAtlas.ModulePath

/-!
# The log of a run

What happens during a run, in the order in which it happens, for those who ask for it.  A `Logged`
computation gives its entries and then a result or a failure; the entries before a failure are kept.
-/

set_option autoImplicit false

namespace CrateAtlas

/-- Something that happened during a run. -/
inductive LogEntry where
  | parsed (file : Path)
  | skippedItems (module : ModulePath) (reason : Diagnostic)
  | skippedDeclaration (name : String) (reason : Diagnostic)
  | built (summary : String)
  | analyzing (crate : String) (rootFile : Path)
  | skippedMember (directory : Path) (reason : EnumerationFault)
  | usingSettings (file : Path)
deriving DecidableEq, Repr

namespace LogEntry

/-- The level of an entry and the part of the program it comes from. -/
def label : LogEntry → String
  | .parsed _ => "DEBUG scanner.parser"
  | .skippedItems .. | .skippedDeclaration .. | .built _ => "DEBUG scanner.builder"
  | .analyzing .. => "INFO scanner.builder"
  | .skippedMember .. => "DEBUG scanner.discovery"
  | .usingSettings _ => "INFO scanner.config"

/-- What an entry says. -/
def message : LogEntry → String
  | .parsed file => "Parsed " ++ file.render
  | .skippedItems module reason =>
    "Skipping items of " ++ module.render ++ ": " ++ reason.message
  | .skippedDeclaration name reason =>
    "Skipping declaration of " ++ name ++ ": " ++ reason.message
  | .built summary => "Built " ++ summary
  | .analyzing crate rootFile => "Analyzing crate " ++ crate ++ " (" ++ rootFile.render ++ ")"
  | .skippedMember directory reason =>
    "Skipping workspace member " ++ directory.render ++ ": " ++ reason.message
  | .usingSettings file => "Using configuration from " ++ file.render

/-- The line of an entry. -/
def line (e : LogEntry) : String := e.label ++ ": " ++ e.message

end LogEntry

/-- A result or a failure, and what happened before it. -/
structure Logged (α : Type) where
  log : List LogEntry
  result : Except Failure α

namespace Logged

variable {α β : Type}

/-- A result without any entry. -/
def done (a : α) : Logged α := ⟨[], .ok a⟩

/-- A failure without any entry. -/
def fail (f : Failure) : Logged α := ⟨[], .error f⟩

/-- Puts entries before a computation. -/
def after (entries : List LogEntry) (x : Logged α) : Logged α := ⟨entries ++ x.log, x.result⟩

/-- Goes on with the result, unless there is a failure. -/
def andThen (x : Logged α) (f : α → Logged β) : Logged β :=
  match x.result with
  | .error e => ⟨x.log, .error e⟩
  | .ok a => (f a).after x.log

/-- A result or a failure without any entry. -/
def ofExcept : Except Failure α → Logged α
  | .ok a => done a
  | .error f => fail f

instance : Monad Logged where
  pure := done
  bind := andThen

@[simp] theorem result_done (a : α) : (done a).result = .ok a := rfl

@[simp] theorem result_fail (f : Failure) : (fail f : Logged α).result = .error f := rfl

@[simp] theorem result_after (entries : List LogEntry) (x : Logged α) :
    (x.after entries).result = x.result := rfl

@[simp] theorem result_ofExcept (x : Except Failure α) : (ofExcept x).result = x := by
  cases x <;> rfl

theorem result_andThen (x : Logged α) (f : α → Logged β) :
    (x.andThen f).result =
      match x.result with
      | .error e => .error e
      | .ok a => (f a).result := by
  rw [andThen]
  cases x.result <;> rfl

end Logged

end CrateAtlas
