import LedgerNet.Octets

/-!
# Decimal text of floating-point numbers

A finite number is written with the fewest digits that read back as it, the nearest of those if
there are several. The digits stand positionally from `10 ^ -4` up to below `10 ^ 16`, with a point
and at least one digit behind it, and with an exponent of at least two digits elsewhere.
-/

namespace LedgerNet.Text

/-! ## Binary numbers -/

/-- Whether a number is negative, by its sign bit. -/
def hasSign (x : Float) : Bool := Nat.pow 2 63 ≤ x.toBits.toNat

/-- The mantissa and the binary exponent of the magnitude of a finite number. -/
def magnitudeParts? (x : Float) : Option (Nat × Int) :=
  let bits := x.toBits.toNat % Nat.pow 2 63
  let e : Nat := bits / Nat.pow 2 52
  let m : Nat := bits % Nat.pow 2 52
  if e = 2047 then none
  else if e = 0 then some (m, -1074)
  else some (m + Nat.pow 2 52, (e : Int) - 1075)

/-- The fraction `n * 2 ^ e * 10 ^ d` as numerator and denominator. -/
def fraction (n : Nat) (e d : Int) : Nat × Nat :=
  (n * Nat.pow 2 e.toNat * Nat.pow 10 d.toNat, Nat.pow 2 (-e).toNat * Nat.pow 10 (-d).toNat)

/-- Whether a floating-point number equals an integer. -/
def equalsInt (x : Float) (n : Int) : Bool :=
  match magnitudeParts? x with
  | none => false
  | some (m, e) =>
    let (num, den) := fraction m e 0
    (if hasSign x then -(num : Int) else num) == n * den

/-! ## Digits -/

/-- The number of decimal digits before the point of a fraction, negative for small ones. -/
def pointPlace (num den : Nat) : Int :=
  if den ≤ num then (Nat.toDigits 10 (num / den)).length
  else 1 - (Nat.toDigits 10 ((den - 1) / num)).length

/-- The number of `count` digits that reads as `m * 2 ^ e`, whose point stands at `place`: of the
two neighbours on that decimal grid the nearer one inside the interval that rounds to it. -/
def digitsAt? (m : Nat) (e place : Int) (count : Nat) : Option Nat :=
  let shift := (count : Int) - place
  -- the value and the ends of its interval, in quarters of a unit of the last binary place
  let (vn, vd) := fraction (4 * m) (e - 2) shift
  let low := if m = Nat.pow 2 52 && e ≠ -1074 then 4 * m - 1 else 4 * m - 2
  let (ln, ld) := fraction low (e - 2) shift
  let (hn, hd) := fraction (4 * m + 2) (e - 2) shift
  let inside (c : Nat) : Bool :=
    if m % 2 = 0 then ln ≤ c * ld && c * hd ≤ hn else ln < c * ld && c * hd < hn
  let below := vn / vd
  let twice := 2 * (vn - below * vd)
  let first := if twice < vd || (twice = vd && below % 2 = 0) then below else below + 1
  [first, below, below + 1].find? inside

/-- The digits, as one number, and the place of the point of the shortest text for `m * 2 ^ e`. -/
def shortest (m : Nat) (e : Int) : Nat × Int :=
  let (num, den) := fraction m e 0
  let place := pointPlace num den
  let found := (List.range 17).findSome? fun k =>
    (digitsAt? m e place (k + 1)).map fun c =>
      -- rounding up may reach the next power of ten
      if c = Nat.pow 10 (k + 1) then (1, place + 1) else (c, place)
  found.getD (m, place)

/-! ## Layout -/

/-- Digits with the point at a place, or with an exponent. -/
def layout (digits : List Char) (place : Int) : List Char :=
  let digits := (digits.reverse.dropWhile (· == '0')).reverse
  if place ≤ -4 || 16 < place then
    let exponent := Nat.toDigits 10 (place - 1).natAbs
    digits.take 1 ++ (if digits.length ≤ 1 then [] else '.' :: digits.drop 1)
      ++ ['e', if place < 1 then '-' else '+']
      ++ (if exponent.length < 2 then '0' :: exponent else exponent)
  else if place ≤ 0 then
    '0' :: '.' :: List.replicate (-place).toNat '0' ++ digits
  else if digits.length ≤ place.toNat then
    digits ++ List.replicate (place.toNat - digits.length) '0' ++ ['.', '0']
  else digits.take place.toNat ++ '.' :: digits.drop place.toNat

/-- A floating-point number as text. -/
def decimal (x : Float) : String :=
  let sign := if hasSign x then "-" else ""
  match magnitudeParts? x with
  | none => if x.isNaN then "nan" else sign ++ "inf"
  | some (0, _) => sign ++ "0.0"
  | some (m, e) =>
    let (digits, place) := shortest m e
    sign ++ String.ofList (layout (Nat.toDigits 10 digits) place)

end LedgerNet.Text
