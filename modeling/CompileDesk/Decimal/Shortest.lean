import CompileDesk.Decimal.Binary64
import CompileDesk.Text.Natural

/-! # The shortest decimal that reads back

A decimal reads back as a magnitude when it lies in the interval of reals that round to it; the ends
of that interval belong to it exactly when the mantissa is even. For one, two, … seventeen
significant digits the two neighbours of the value on that decimal grid are tried: the first grid
with a hit wins, and of two hits the nearer one, a tie going to the even digit.
-/

namespace CompileDesk.Decimal

/-- The decimal `digits * 10 ^ exponent`, without zeros at the end of its digits. -/
structure Scientific where
  digits : Nat
  exponent : Int
  deriving DecidableEq, Repr

/-- Compares `a * 10 ^ e` with `num / den`: the cross products. -/
def crossProducts (a : Nat) (e : Int) (num den : Nat) : Nat × Nat :=
  (a * tenTo e.toNat * den, num * tenTo (-e).toNat)

/-- Whether the decimal rounds to the magnitude. The lower end of its interval is half a unit
below, or a quarter of a unit where the mantissa is the least of its binade. -/
def roundsTo (x : Magnitude) (d : Scientific) : Bool :=
  let least := x.mantissa == twoTo 52 && x.exponent > -1074
  let scale : Magnitude → Nat × Nat := fun y => (y.num, y.den)
  let (lowNum, lowDen) :=
    if least then scale ⟨4 * x.mantissa - 1, x.exponent - 2⟩
    else scale ⟨2 * x.mantissa - 1, x.exponent - 1⟩
  let (highNum, highDen) := scale ⟨2 * x.mantissa + 1, x.exponent - 1⟩
  let (a, b) := crossProducts d.digits d.exponent lowNum lowDen
  let (c, e) := crossProducts d.digits d.exponent highNum highDen
  if x.mantissa % 2 == 0 then b ≤ a && c ≤ e else b < a && c < e

/-- The whole exponent `k` with `10 ^ k ≤ x < 10 ^ (k + 1)`, searched from an estimate. -/
def decimalOrder (x : Magnitude) : Int :=
  let guess : Int := (((Nat.log2 x.mantissa : Int) + x.exponent) * 30103) / 100000 - 1
  let reaches (k : Int) : Bool :=
    let (a, b) := crossProducts 1 k x.num x.den
    a ≤ b
  if reaches (guess + 2) then guess + 2 else if reaches (guess + 1) then guess + 1 else guess

def Scientific.normal : Nat → Scientific → Scientific
  | 0, d => d
  | fuel + 1, d =>
    if d.digits % 10 == 0 && d.digits != 0 then
      Scientific.normal fuel ⟨d.digits / 10, d.exponent + 1⟩
    else d

/-- The nearest decimal with the given last place that rounds to the magnitude. -/
def onGrid? (x : Magnitude) (place : Int) : Option Scientific :=
  let num := x.num * tenTo (-place).toNat
  let den := x.den * tenTo place.toNat
  let below := num / den
  let order := if roundHalfEven num den == below then [below, below + 1] else [below + 1, below]
  (order.map fun digits => Scientific.mk digits place).find? fun d =>
    d.digits != 0 && roundsTo x d

def shortestGo (x : Magnitude) (order : Int) : Nat → Nat → Scientific
  | 0, _ => ⟨x.num, 0⟩
  | fuel + 1, count =>
    match onGrid? x (order - count) with
    | some d => Scientific.normal 20 d
    | none => shortestGo x order fuel (count + 1)

/-- The shortest decimal that reads back as the magnitude, nearest of those. -/
def shortest (x : Magnitude) : Scientific :=
  if x.isZero then ⟨0, 0⟩ else shortestGo x (decimalOrder x) 18 0

/-- The digits with the point put after the first `whole` of them, zeros filling the gaps; at
least one digit stands on each side of the point. -/
def positional (digits : List Char) (whole : Int) : List Char :=
  if whole ≤ 0 then
    '0' :: '.' :: (List.replicate (-whole).toNat '0' ++ digits)
  else if whole < digits.length then
    digits.take whole.toNat ++ '.' :: digits.drop whole.toNat
  else
    digits ++ List.replicate (whole.toNat - digits.length) '0' ++ ['.', '0']

/-- Text without an exponent. A whole number ends in `.0`. -/
def Binary64.plain (x : Binary64) : List Char :=
  let d := shortest x.magnitude
  let digits := Text.decimal d.digits
  (if x.negative then ['-'] else []) ++
    if x.magnitude.isZero then "0.0".toList
    else positional digits ((digits.length : Int) + d.exponent)

/-- Text with an exponent for numbers of at least `1e16` or below `1e-5`, such as `1e+21`. -/
def Binary64.compact (x : Binary64) : List Char :=
  let d := shortest x.magnitude
  let digits := Text.decimal d.digits
  let order : Int := (digits.length : Int) + d.exponent - 1
  if x.magnitude.isZero || (-5 ≤ order && order ≤ 15) then x.plain
  else
    let mantissa := match digits with
      | [] => []
      | [c] => [c]
      | c :: rest => c :: '.' :: rest
    (if x.negative then ['-'] else []) ++ mantissa ++ 'e' ::
      (if order < 0 then '-' else '+') :: Text.decimal order.natAbs

end CompileDesk.Decimal
