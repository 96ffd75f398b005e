import Trigger.Decimal.Exact

/-!
# The shortest decimal of a number

The decimals that round to a given floating-point number form an interval around it, whose ends
belong to it if the mantissa is even. The shortest decimal of a number is the one with the fewest
digits in that interval, and of those the nearest to the number. For each count of digits only the
two decimals next to the number need to be looked at, in exact integer arithmetic.

A number is written positionally when its leading digit stands between the fourth place after the
point and the sixteenth before it, and otherwise with a signed exponent of at least two digits.
-/

namespace Trigger.Decimal

/-- The decimal `digits * 10 ^ exponent`. -/
structure Scaled where
  digits : Nat
  exponent : Int

/-- The least `k` for which a positive magnitude is below `10 ^ k`. -/
def Magnitude.scale (m : Magnitude) : Int :=
  let low := ((m.mantissa.log2 : Int) + m.exponent) * 30103 / 100000 - 1
  let below (k : Int) : Bool :=
    m.mantissa * Nat.pow 2 m.exponent.toNat * Nat.pow 10 (-k).toNat <
      Nat.pow 10 k.toNat * Nat.pow 2 (-m.exponent).toNat
  ([low, low + 1, low + 2, low + 3].find? below).getD (low + 4)

/-- The decimal on the grid of `10 ^ k` that is next to a magnitude and rounds to it, if there is
one; of two the nearer, and at equal distance the one with the even last digit. -/
def Magnitude.onGrid? (m : Magnitude) (k : Int) : Option Nat :=
  let unit := Nat.pow 2 (m.exponent - 2).toNat * Nat.pow 10 (-k).toNat
  let grid := Nat.pow 2 (2 - m.exponent).toNat * Nat.pow 10 k.toNat
  let value := 4 * m.mantissa * unit
  let low := (4 * m.mantissa - if m.narrowBelow then 1 else 2) * unit
  let high := (4 * m.mantissa + 2) * unit
  let inside (d : Nat) : Bool :=
    let p := d * grid
    if m.mantissa % 2 = 0 then low ≤ p && p ≤ high else low < p && p < high
  let d := value / grid
  match inside d, inside (d + 1) with
  | false, false => none
  | true, false => some d
  | false, true => some (d + 1)
  | true, true =>
    match compare (2 * value) ((2 * d + 1) * grid) with
    | .lt => some d
    | .gt => some (d + 1)
    | .eq => some (if d % 2 = 0 then d else d + 1)

/-- The decimal without the zeros at its end. -/
def Scaled.strip (d : Scaled) : Nat → Scaled
  | 0 => d
  | fuel + 1 =>
    if d.digits ≠ 0 ∧ d.digits % 10 = 0 then Scaled.strip ⟨d.digits / 10, d.exponent + 1⟩ fuel else d

/-- The decimal with exactly the value of a magnitude. -/
def Magnitude.exact (m : Magnitude) : Scaled :=
  if 0 ≤ m.exponent then ⟨m.mantissa * Nat.pow 2 m.exponent.toNat, 0⟩
  else ⟨m.mantissa * Nat.pow 5 (-m.exponent).toNat, m.exponent⟩

/-- The shortest decimal that rounds to a positive magnitude. Seventeen digits always suffice. -/
def Magnitude.shortest (m : Magnitude) : Scaled :=
  let scale := m.scale
  let found := (List.range 17).findSome? fun n : Nat =>
    let k := scale - ((n : Int) + 1)
    (m.onGrid? k).map (Scaled.mk · k)
  (found.getD m.exact).strip 20

/-- A decimal positionally or with an exponent, by the place of its leading digit. -/
def Scaled.text (d : Scaled) : String :=
  let ds := (toString d.digits).toList
  let point := (ds.length : Int) + d.exponent
  if -4 < point ∧ point ≤ 16 then
    if point ≤ 0 then
      String.ofList ('0' :: '.' :: (List.replicate (-point).toNat '0' ++ ds))
    else if ds.length ≤ point.toNat then
      String.ofList (ds ++ List.replicate (point.toNat - ds.length) '0' ++ ['.', '0'])
    else
      String.ofList (ds.take point.toNat ++ '.' :: ds.drop point.toNat)
  else
    let power := point - 1
    let e := (toString power.natAbs).toList
    String.ofList
      (ds.take 1 ++ (if ds.length = 1 then [] else '.' :: ds.drop 1)
        ++ 'e' :: (if power < 0 then '-' else '+') :: List.replicate (2 - e.length) '0' ++ e)

/-- The text of a magnitude that stands behind an optional sign. -/
def Magnitude.text (m : Magnitude) : String :=
  if m.mantissa = 0 then "0.0" else m.shortest.text

/-- The text of a number: its shortest decimal, or `nan`, `inf` and `-inf`. -/
def text (x : Float) : String :=
  if x.isNaN then "nan"
  else if x.isInf then (if isNegative x then "-inf" else "inf")
  else (if isNegative x then "-" else "") ++ (magnitude x).text

/-- The text of a single-precision number: the shortest decimal that rounds to it in that precision. -/
def text32 (x : Float32) : String :=
  let wide := x.toFloat
  if !wide.isFinite then text wide
  else (if isNegative wide then "-" else "") ++ (magnitude32 x).text

end Trigger.Decimal
