namespace Docblock

abbrev Ranges := List (Nat × Nat)

namespace Ranges

def has (ranges : Ranges) (c : Char) : Bool :=
  ranges.any fun range => range.1 ≤ c.toNat && c.toNat ≤ range.2

@[simp] theorem has_nil (c : Char) : has [] c = false := rfl

end Ranges

end Docblock
