/-!
# Numerals

Reading natural numbers from digits of a base up to sixteen. A numeral has at least one digit and
nothing else; leading zeros change nothing.
-/

namespace SearchPanel.Text

/-- The value of a digit of base sixteen. -/
def digitValue? (c : Char) : Option Nat :=
  if '0' ≤ c ∧ c ≤ '9' then some (c.toNat - '0'.toNat)
  else if 'a' ≤ c ∧ c ≤ 'f' then some (c.toNat - 'a'.toNat + 10)
  else if 'A' ≤ c ∧ c ≤ 'F' then some (c.toNat - 'A'.toNat + 10)
  else none

/-- The value of a digit of `base`. -/
def digitOf? (base : Nat) (c : Char) : Option Nat :=
  (digitValue? c).filter (· < base)

/-- The number that `digits` continue, `value` being read already. -/
def digitsAfter? (base value : Nat) : List Char → Option Nat
  | [] => some value
  | c :: rest => (digitOf? base c).bind fun d => digitsAfter? base (value * base + d) rest

/-- The number written by `digits`. -/
def numeral? (base : Nat) (digits : List Char) : Option Nat :=
  if digits.isEmpty then none else digitsAfter? base 0 digits

/-- A decimal number below `bound`, perhaps after a plus sign. -/
def boundedNumber? (bound : Nat) (text : String) : Option Nat :=
  let digits := match text.toList with
    | '+' :: rest => rest
    | cs => cs
  (numeral? 10 digits).filter (· < bound)

end SearchPanel.Text
