/-!
# Shortest decimal text of a binary number

A finite double stands for the interval of reals that round to it. Its text shows
the decimal with the fewest digits inside that interval, and of two such decimals
the nearer one. The search compares natural numbers only, so no step of it rounds.
-/

namespace Folio.Decimal

/-- A finite non-negative double, `significand * 2 ^ exponent`. -/
structure Binary where
  significand : Nat
  exponent : Int
  /-- The neighbour below is half as far away as the neighbour above. -/
  narrowBelow : Bool

/-- The magnitude held by the bits of a finite double; the sign bit is ignored. -/
def Binary.ofBits (bits : UInt64) : Binary :=
  let biased := ((bits >>> 52) &&& 0x7FF).toNat
  let fraction := (bits &&& 0xFFFFFFFFFFFFF).toNat
  if biased == 0 then ⟨fraction, -1074, false⟩
  else ⟨Nat.pow 2 52 + fraction, (biased : Int) - 1075, fraction == 0 && biased > 1⟩

/-- `digits * 10 ^ exponent`. -/
structure Digits where
  digits : Nat
  exponent : Int
  deriving Repr, DecidableEq

/-- Compare `a * 10 ^ i` with `n * 2 ^ j` exactly. -/
def compareScaled (a : Nat) (i : Int) (n : Nat) (j : Int) : Ordering :=
  compare (a * Nat.pow 10 i.toNat * Nat.pow 2 (-j).toNat)
    (n * Nat.pow 2 j.toNat * Nat.pow 10 (-i).toNat)

/-- The decimal lies among the reals that round to the double; the two ends of that
interval belong to it exactly when the significand is even. -/
def Binary.admits (value : Binary) (decimal : Digits) : Bool :=
  let low := if value.narrowBelow then 4 * value.significand - 1 else 4 * value.significand - 2
  let high := 4 * value.significand + 2
  let closed := value.significand % 2 == 0
  let fromLow := compareScaled decimal.digits decimal.exponent low (value.exponent - 2)
  let fromHigh := compareScaled decimal.digits decimal.exponent high (value.exponent - 2)
  (fromLow == .gt || (closed && fromLow == .eq)) && (fromHigh == .lt || (closed && fromHigh == .eq))

/-- The largest multiple of `10 ^ exponent` that is at most the value, as a count of steps. -/
def Binary.stepsBelow (value : Binary) (exponent : Int) : Nat :=
  (value.significand * Nat.pow 2 value.exponent.toNat * Nat.pow 10 (-exponent).toNat) /
    (Nat.pow 2 (-value.exponent).toNat * Nat.pow 10 exponent.toNat)

/-- Raise a first guess until the value is below `10 ^ exponent`. -/
def Binary.scaleFrom (value : Binary) : Nat → Int → Int
  | 0, exponent => exponent
  | fuel + 1, exponent =>
    if compareScaled 1 exponent value.significand value.exponent == .gt then exponent
    else value.scaleFrom fuel (exponent + 1)

/-- The least exponent with the value below `10 ^ exponent`, for a value that is not zero. The
binary logarithm, times 1233 / 4096, is at most two below it. -/
def Binary.scale (value : Binary) : Int :=
  let binaryLength := (Nat.log2 value.significand : Int) + value.exponent
  value.scaleFrom 4 (Int.fdiv (binaryLength * 1233) 4096)

/-- The admitted neighbour of the value on the grid of multiples of `10 ^ exponent`; of two,
the nearer one, and in the middle the even one. -/
def Binary.onGrid? (value : Binary) (exponent : Int) : Option Digits :=
  let steps := value.stepsBelow exponent
  let below : Digits := ⟨steps, exponent⟩
  let above : Digits := ⟨steps + 1, exponent⟩
  match value.admits below, value.admits above with
  | false, false => none
  | true, false => some below
  | false, true => some above
  | true, true =>
    match compareScaled (2 * steps + 1) exponent (2 * value.significand) value.exponent with
    | .gt => some below
    | .lt => some above
    | .eq => some (if steps % 2 == 0 then below else above)

/-- Try ever finer grids; a double needs at most seventeen digits. -/
def Binary.search (value : Binary) (exponent : Int) : Nat → Digits
  | 0 => ⟨value.stepsBelow exponent, exponent⟩
  | fuel + 1 =>
    match value.onGrid? exponent with
    | some found => found
    | none => value.search (exponent - 1) fuel

/-- Move trailing zeros of the digits into the exponent. -/
def Digits.strip (decimal : Digits) : Nat → Digits
  | 0 => decimal
  | fuel + 1 =>
    if decimal.digits % 10 == 0 && decimal.digits != 0 then
      Digits.strip ⟨decimal.digits / 10, decimal.exponent + 1⟩ fuel
    else decimal

/-- The fewest digits that read back as the value, nearest to it among those. -/
def Binary.shortest (value : Binary) : Digits :=
  if value.significand == 0 then ⟨0, 0⟩
  else (value.search (value.scale - 1) 17).strip 18

/-- Copies of the digit zero. -/
def zeros (count : Nat) : String := String.ofList (List.replicate count '0')

/-- An exponent is written with its sign and two digits at least. -/
def exponentText (exponent : Int) : String :=
  let size := toString exponent.natAbs
  (if exponent < 0 then "e-" else "e+") ++ (if size.length < 2 then "0" ++ size else size)

/-- Positional from 10⁻⁴ up to below 10¹⁶, always with a fraction; scientific elsewhere, with
a point only between digits. -/
def Digits.text (decimal : Digits) : String :=
  let shown := toString decimal.digits
  let leading := decimal.exponent + shown.length - 1
  if decimal.digits == 0 then "0.0"
  else if leading < -4 || 16 ≤ leading then
    let rest := String.ofList (shown.toList.drop 1)
    String.ofList (shown.toList.take 1) ++ (if rest == "" then "" else "." ++ rest) ++
      exponentText leading
  else if 0 ≤ decimal.exponent then shown ++ zeros decimal.exponent.toNat ++ ".0"
  else if 0 ≤ leading then
    let whole := (leading + 1).toNat
    String.ofList (shown.toList.take whole) ++ "." ++ String.ofList (shown.toList.drop whole)
  else "0." ++ zeros (-leading - 1).toNat ++ shown

/-- The text of a double, given the words for what no decimal can show. -/
def text (value : Float) (infinity notANumber : String) : String :=
  let bits := value.toBits
  if value.isNaN then notANumber
  else
    let sign := if bits >>> 63 == 1 then "-" else ""
    sign ++ if value.isInf then infinity else (Binary.ofBits bits).shortest.text

/-- The integer that a double is equal to, when there is one. -/
def integer? (value : Float) : Option Int :=
  if value.isNaN || value.isInf then none
  else
    let bits := value.toBits
    let size := Binary.ofBits bits
    let divisor := Nat.pow 2 (-size.exponent).toNat
    let scaled := size.significand * Nat.pow 2 size.exponent.toNat
    if scaled % divisor == 0 then
      let whole : Int := scaled / divisor
      some (if bits >>> 63 == 1 then -whole else whole)
    else none

end Folio.Decimal
