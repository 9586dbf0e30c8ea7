/-!
Quotients rounded to the nearest number. Halves go to the even neighbour, so the
rounded quotient is never off by more than half a unit.
-/

namespace TestAtlas
namespace Rounding

/-- A quotient rounded to the nearest number, halves to an even one. -/
def quotient (n d : Nat) : Nat :=
  let q := n / d
  let twice := 2 * (n % d)
  if twice < d || (twice = d && q % 2 = 0) then q else q + 1

end Rounding
end TestAtlas
