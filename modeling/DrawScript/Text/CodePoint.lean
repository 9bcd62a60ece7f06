set_option autoImplicit false

namespace DrawScript.Text

abbrev CodePoints := List (Nat × Nat)

def CodePoints.holds (ranges : CodePoints) (c : Char) : Bool :=
  ranges.any fun (first, last) => first ≤ c.toNat && c.toNat ≤ last

def isAscii (c : Char) : Bool := c.toNat < 128

end DrawScript.Text
