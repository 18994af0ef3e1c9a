/-!
# The shortest decimal of a float

A double stands for every real that rounds to it. Of the decimals `digits * 10 ^ exponent` in that
interval, `shortest` takes one from the coarsest grid of powers of ten that has any, and of these
the one nearest to the value. The search works in exact integer arithmetic on the bits: on each grid
the only candidates are the two neighbours of the value.

`Form` says how such a decimal is written.
-/

namespace SearchPanel.Decimal

/-- The power of two `2 ^ n`. -/
def twoTo (n : Nat) : Nat := Nat.pow 2 n

/-- The power of ten `10 ^ n`. -/
def tenTo (n : Nat) : Nat := Nat.pow 10 n

/-- A positive double `mantissa * 2 ^ exponent`. -/
structure Binary where
  mantissa : Nat
  exponent : Int
  /-- The next smaller double is only half as far away as the next larger one. -/
  narrowBelow : Bool

/-- The magnitude of the finite double with these bits. -/
def Binary.ofBits (bits : Nat) : Binary :=
  let fraction := bits % twoTo 52
  let biased : Nat := bits / twoTo 52 % twoTo 11
  if biased = 0 then ⟨fraction, -1074, false⟩
  else ⟨twoTo 52 + fraction, (biased : Int) - 1075, fraction = 0 && 1 < biased⟩

/-- A decimal `digits * 10 ^ exponent`. -/
structure Scaled where
  digits : Nat
  exponent : Int
deriving DecidableEq, Repr

/-- The candidate on the grid of multiples of `10 ^ k`, if one of them rounds to `b`. Of two at the
same distance the larger is taken with `tieUp`, else the even one. -/
def candidate? (b : Binary) (tieUp : Bool) (k : Int) : Option Scaled :=
  -- all sizes are in units of a quarter of the last place of `b`
  let q := b.exponent - 2
  let grid := tenTo k.toNat * twoTo (-q).toNat
  let unit := tenTo (-k).toNat * twoTo q.toNat
  let value := 4 * b.mantissa * unit
  let low := (4 * b.mantissa - (if b.narrowBelow then 1 else 2)) * unit
  let high := (4 * b.mantissa + 2) * unit
  let inside (n : Nat) : Bool :=
    if b.mantissa % 2 = 0 then low ≤ n * grid && n * grid ≤ high
    else low < n * grid && n * grid < high
  let below := value / grid
  match inside below, inside (below + 1) with
  | false, false => none
  | true, false => some ⟨below, k⟩
  | false, true => some ⟨below + 1, k⟩
  | true, true =>
    let down := value - below * grid
    let up := (below + 1) * grid - value
    if up < down || (up = down && (tieUp || below % 2 = 1)) then some ⟨below + 1, k⟩
    else some ⟨below, k⟩

/-- The exponents of ten of a double's digits reach from 308 down to −324; the grid one above may
hold a candidate too. -/
def exponents : List Int := (List.range 634).map fun (i : Nat) => 309 - (i : Int)

/-- The shortest decimal that rounds to a positive double. -/
def shortest (b : Binary) (tieUp : Bool) : Scaled :=
  (exponents.findSome? (candidate? b tieUp)).getD ⟨b.mantissa, 0⟩

/-- How a float is written. An integral value ends in `.0`, and an exponent has a sign and no more
digits than it needs. -/
structure Form where
  /-- The exponents of the leading digit for which no exponent is written; always if `none`. -/
  positional : Option (Int × Int)
  /-- Of two shortest decimals at the same distance the larger is written. -/
  tieUp : Bool

namespace Form

/-- A decimal without an exponent. -/
def plain (d : Scaled) : String :=
  let digits := toString d.digits
  let lead := (digits.length : Int) - 1 + d.exponent
  if 0 ≤ d.exponent then digits ++ String.ofList (List.replicate d.exponent.toNat '0') ++ ".0"
  else if 0 ≤ lead then
    let whole := lead.toNat + 1
    String.ofList (digits.toList.take whole) ++ "." ++ String.ofList (digits.toList.drop whole)
  else "0." ++ String.ofList (List.replicate (-lead - 1).toNat '0') ++ digits

/-- A decimal with an exponent. -/
def scientific (d : Scaled) : String :=
  let digits := toString d.digits
  let lead := (digits.length : Int) - 1 + d.exponent
  let fraction := digits.toList.drop 1
  String.ofList (digits.toList.take 1) ++
    (if fraction.isEmpty then "" else "." ++ String.ofList fraction) ++ "e" ++
    (if 0 ≤ lead then "+" else "-") ++ toString lead.natAbs

/-- The text of a positive decimal. -/
def decimal (l : Form) (d : Scaled) : String :=
  let lead := ((toString d.digits).length : Int) - 1 + d.exponent
  match l.positional with
  | none => plain d
  | some (least, greatest) => if least ≤ lead ∧ lead ≤ greatest then plain d else scientific d

/-- The text of the double with these bits. -/
def ofBits (l : Form) (bits : Nat) : String :=
  let negative := bits / twoTo 63 = 1
  let biased := bits / twoTo 52 % twoTo 11
  let minus := if negative then "-" else ""
  if biased = 2047 then (if bits % twoTo 52 = 0 then minus ++ "inf" else "NaN")
  else if bits % twoTo 63 = 0 then minus ++ "0.0"
  else minus ++ l.decimal (shortest (Binary.ofBits bits) l.tieUp)

/-- The text of a float. -/
def float (l : Form) (x : Float) : String := l.ofBits x.toBits.toNat

end Form

end SearchPanel.Decimal
