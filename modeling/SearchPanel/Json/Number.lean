import SearchPanel.Json.Token

/-!
# Values of JSON numbers

A number without point and exponent is an integer if it fits 64 bits, signed ones from `-2 ^ 63`; a
negative zero and everything else are floats. The significand of a float keeps as many leading
digits as fit 64 bits. It is multiplied with, or divided by, one power of ten (for the very small
ones, by several), so the last place may differ from the nearest float.
-/

namespace SearchPanel.Json

/-- The value of a decimal digit. -/
def digit (c : Char) : Nat := c.toNat - '0'.toNat

/-- The number that `digits` continue as long as it stays below `bound`, and how many digits are
left over. -/
def gather (bound value : Nat) : List Char → Nat × Nat
  | [] => (value, 0)
  | c :: rest =>
    let next := value * 10 + digit c
    if next < bound then gather bound next rest else (value, rest.length + 1)

/-- The power of ten `10 ^ n` as a float. -/
def tenTo (n : Nat) : Float := Float.ofScientific 1 false n

/-- `x / 10 ^ n`, in steps of at most `10 ^ 308`. -/
def divideByTens (x : Float) (n : Nat) : Float :=
  if h : n ≤ 308 then x / tenTo n
  else if x == 0 then x
  else divideByTens (x / tenTo 308) (n - 308)
termination_by n

/-- The float `significand * 10 ^ exponent`, unless it is too large. -/
def scale? (significand : Nat) (exponent : Int) : Option Float :=
  let x := Float.ofNat significand
  if exponent < 0 then some (divideByTens x (-exponent).toNat)
  else if 308 < exponent then (if significand = 0 then some x else none)
  else
    let y := x * tenTo exponent.toNat
    if y.isInf then none else some y

/-- What is wrong with the size of a number. -/
structure TooLarge where
  /-- How many digits at its end were not looked at. -/
  unread : Nat

/-- The exponents of a number are read up to this bound. -/
def exponentBound : Nat := Decimal.twoTo 31

/-- Significands and integers stay below this bound. -/
def wordBound : Nat := Decimal.twoTo 64

/-- The magnitude of a number with point or exponent, or of a long one. -/
def Numeral.magnitude (n : Numeral) : Except TooLarge Float :=
  let (significand, excess) := gather wordBound 0 n.whole
  let (significand, dropped) := gather wordBound significand n.fraction
  let places : Int := (excess : Int) - (n.fraction.length - dropped : Nat)
  let sized (e : Int) : Except TooLarge Float :=
    match scale? significand e with
    | some x => .ok x
    | none => .error ⟨0⟩
  match n.exponent with
  | none => sized places
  | some (negative, digits) =>
    match gather exponentBound 0 digits with
    | (e, 0) => sized (if negative then places - e else places + e)
    | (_, left) => if significand = 0 || negative then .ok 0 else .error ⟨left - 1⟩

/-- The value of a number. -/
def Numeral.value (n : Numeral) : Except TooLarge Found :=
  let signed (x : Float) := Found.float (if n.negative then -x else x)
  if n.fraction.isEmpty && n.exponent.isNone then
    match gather wordBound 0 n.whole with
    | (m, 0) =>
      if !n.negative then .ok (.integer m)
      else if m = 0 || wordBound / 2 < m then .ok (signed (Float.ofNat m))
      else .ok (.integer (-m))
    | _ => n.magnitude.map signed
  else n.magnitude.map signed

/-- The last `count` digits of a number that was written before `rest`, and `rest`. -/
def Numeral.tail (n : Numeral) (count : Nat) (rest : List Char) : List Char :=
  match n.exponent with
  | some (_, digits) => digits.drop (digits.length - count) ++ rest
  | none => rest

/-- The value of the number in front of a text, its minus sign being read. -/
def readNumber (negative : Bool) (text : List Char) : Reading Found :=
  match scanNumber .endInValue negative text with
  | .error e => .error e
  | .ok (n, rest) =>
    match n.value with
    | .ok v => .ok (v, rest)
    | .error e => .error (.behind .numberOutOfRange (n.tail e.unread rest))

end SearchPanel.Json
