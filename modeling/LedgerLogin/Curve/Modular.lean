/-!
# Arithmetic modulo a number

Sums, products, powers and inverses of residues, which are kept reduced.
-/

namespace LedgerLogin.Modular

def sub (m a b : Nat) : Nat := (a + (m - b % m)) % m

def pow (m a e : Nat) : Nat :=
  if e = 0 then 1 % m
  else
    let h := pow m (a * a % m) (e / 2)
    if e % 2 = 1 then h * a % m else h
termination_by e

/-- The steps of Euclid's algorithm on `r` and `s`, with the multiples `t` and `u` of the second
start value that they are: the multiple that the last remainder is. -/
def bezout (r s : Nat) (t u : Int) : Int :=
  if s = 0 then t else bezout s (r % s) u (t - (r / s : Nat) * u)
termination_by s
decreasing_by exact Nat.mod_lt r (Nat.pos_of_ne_zero ‹_›)

/-- The inverse modulo `m` of a number that has one. -/
def inv (m a : Nat) : Nat := (bezout m (a % m) 0 1 % (m : Int)).toNat

end LedgerLogin.Modular
