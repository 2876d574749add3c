/-!
# Digits

Digits and the numbers they write, in any base up to sixteen.
-/
namespace GrammarLex.Digits

def hex? (c : Char) : Option Nat :=
  if '0' ≤ c ∧ c ≤ '9' then some (c.toNat - '0'.toNat)
  else if 'a' ≤ c ∧ c ≤ 'f' then some (c.toNat - 'a'.toNat + 10)
  else if 'A' ≤ c ∧ c ≤ 'F' then some (c.toNat - 'A'.toNat + 10)
  else none

def isDigit (base : Nat) (c : Char) : Bool := (hex? c).any fun value => value < base

def value (base : Nat) (digits : List Char) : Nat :=
  digits.foldl (fun n c => n * base + (hex? c).getD 0) 0

/-- The number that digits write in a base, if it is below a bound. The digits behind the one that
leads to the bound are not looked at, so the work grows with the number of digits alone. -/
def below? (base bound : Nat) (digits : List Char) : Option Nat :=
  digits.foldlM (fun n c =>
    let next := n * base + (hex? c).getD 0
    if next < bound then some next else none) 0

def hexOf (n : Nat) : Char :=
  if n < 10 then Char.ofNat ('0'.toNat + n) else Char.ofNat ('a'.toNat + (n - 10))

end GrammarLex.Digits
