import Docblock.Log

/-!
What a stretch of a conversion yields: output lines, fragments, log records and counts, all of which
add up when one stretch follows another.
-/

namespace Docblock

@[ext] structure Yield where
  lines : List Text := []
  fragments : List Fragment := []
  log : List Record := []
  blocks : Nat := 0
  skippedReturns : Nat := 0
deriving DecidableEq, Repr

namespace Yield

instance : EmptyCollection Yield :=
  ⟨[], [], [], 0, 0⟩

instance : Append Yield where
  append first second :=
    { lines := first.lines ++ second.lines
      fragments := first.fragments ++ second.fragments
      log := first.log ++ second.log
      blocks := first.blocks + second.blocks
      skippedReturns := first.skippedReturns + second.skippedReturns }

def note (record : Record) : Yield :=
  { log := [record] }

def emit (config : Config) (fragment : Fragment) : Yield where
  lines := fragment.render config.markers.doc config.lineSeparator
  fragments := [fragment]
  log := [.emitted fragment]

@[simp] theorem lines_append (first second : Yield) :
    (first ++ second).lines = first.lines ++ second.lines := rfl

@[simp] theorem fragments_append (first second : Yield) :
    (first ++ second).fragments = first.fragments ++ second.fragments := rfl

@[simp] theorem log_append (first second : Yield) :
    (first ++ second).log = first.log ++ second.log := rfl

@[simp] theorem blocks_append (first second : Yield) :
    (first ++ second).blocks = first.blocks + second.blocks := rfl

@[simp] theorem skippedReturns_append (first second : Yield) :
    (first ++ second).skippedReturns = first.skippedReturns + second.skippedReturns := rfl

@[simp] theorem lines_empty : (∅ : Yield).lines = [] := rfl

@[simp] theorem fragments_empty : (∅ : Yield).fragments = [] := rfl

@[simp] theorem log_empty : (∅ : Yield).log = [] := rfl

@[simp] theorem blocks_empty : (∅ : Yield).blocks = 0 := rfl

@[simp] theorem skippedReturns_empty : (∅ : Yield).skippedReturns = 0 := rfl

@[simp] theorem empty_append (yield : Yield) : ∅ ++ yield = yield := by
  ext1 <;> simp

@[simp] theorem append_empty (yield : Yield) : yield ++ ∅ = yield := by
  ext1 <;> simp

theorem append_assoc (first second third : Yield) :
    first ++ second ++ third = first ++ (second ++ third) := by
  ext1 <;> simp [Nat.add_assoc]

end Yield

end Docblock
