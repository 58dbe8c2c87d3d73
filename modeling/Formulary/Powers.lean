-- Powers of two, five and ten.
namespace Formulary

/-- The number `2 ^ n`. -/
def twoPow (n : Nat) : Nat := Nat.pow 2 n

/-- The number `5 ^ n`. -/
def fivePow (n : Nat) : Nat := Nat.pow 5 n

/-- The number `10 ^ n`, a one with `n` zeros. -/
def tenPow (n : Nat) : Nat := Nat.pow 10 n

end Formulary
