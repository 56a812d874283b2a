import Docblock.Defect

namespace Docblock.Yaml

inductive Fault
  | malformed (reason : Text)
  | defect (cause : Defect)
deriving DecidableEq, Repr

def Fault.illFormed : Fault :=
  .malformed "not well formed".toList

/-- A step that may fail, over a state that outlives the failure. -/
abbrev Step (σ : Type) := ExceptT Fault (StateM σ)

namespace Step

variable {σ τ α : Type}

def refuse : Step σ α :=
  throw .illFormed

def stop (cause : Defect) : Step σ α :=
  throw (.defect cause)

def require (condition : Bool) : Step σ Unit :=
  if condition then pure () else refuse

def ofOption : Option α → Step σ α
  | some value => pure value
  | none => refuse

def within (part : σ → τ) (update : τ → σ → σ) (step : Step τ α) : Step σ α :=
  fun state =>
    let (result, changed) := step (part state)
    (result, update changed state)

end Step

end Docblock.Yaml
