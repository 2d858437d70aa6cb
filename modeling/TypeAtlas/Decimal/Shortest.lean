/-!
The fewest decimal digits that read back as a given floating point number.

A number is taken apart into a whole number times a power of two. The reals that round to it form an
interval. Grids of decimals with one, two, three and more digits are tried in turn; the first grid
with a point in the interval gives the digits.
-/

set_option autoImplicit false

namespace TypeAtlas.Decimal

/-- A fraction of natural numbers. -/
structure Ratio where
  numerator : Nat
  denominator : Nat

namespace Ratio

/-- A whole number times a power of a base. -/
def scaled (n base : Nat) (exponent : Int) : Ratio :=
  if exponent ≥ 0 then ⟨n * Nat.pow base exponent.toNat, 1⟩ else ⟨n, Nat.pow base (-exponent).toNat⟩

def le (a b : Ratio) : Bool := a.numerator * b.denominator ≤ b.numerator * a.denominator

def lt (a b : Ratio) : Bool := a.numerator * b.denominator < b.numerator * a.denominator

/-- How often a power of ten fits. -/
def quotient (a : Ratio) (exponent : Int) : Nat :=
  if exponent ≥ 0 then a.numerator / (a.denominator * Nat.pow 10 exponent.toNat)
  else a.numerator * Nat.pow 10 (-exponent).toNat / a.denominator

/-- The distance between two fractions, as a fraction. -/
def distance (a b : Ratio) : Ratio :=
  let x := a.numerator * b.denominator
  let y := b.numerator * a.denominator
  ⟨max x y - min x y, a.denominator * b.denominator⟩

end Ratio

/-- Digits and the power of ten of the last one. -/
structure Digits where
  value : Nat
  exponent : Int
deriving DecidableEq, Repr

/-- A positive finite floating point number as a whole number and a power of two. -/
def parts (bits : UInt64) : Nat × Int :=
  let n := bits.toNat
  let fraction : Nat := n % Nat.pow 2 52
  let exponent : Nat := n / Nat.pow 2 52 % 2048
  if exponent = 0 then (fraction, -1074) else (fraction + Nat.pow 2 52, (exponent : Int) - 1075)

/-- The position of the first digit of a positive fraction, as a power of ten. -/
def magnitude (a : Ratio) : Int :=
  let whole := a.numerator / a.denominator
  if whole > 0 then ((Nat.toDigits 10 whole).length : Int) - 1
  else
    let steps := (List.range 400).find? fun (j : Nat) => a.quotient (-(j : Int)) > 0
    (steps.map fun (j : Nat) => -(j : Int)).getD 0

/-- The fewest digits for a whole number `m` times two to the power of `q`. -/
def shortest (m : Nat) (q : Int) : Digits :=
  let exact := Ratio.scaled (4 * m) 2 (q - 2)
  let low := Ratio.scaled (if m = Nat.pow 2 52 then 4 * m - 1 else 4 * m - 2) 2 (q - 2)
  let high := Ratio.scaled (4 * m + 2) 2 (q - 2)
  let inside (a : Ratio) : Bool :=
    if m % 2 = 0 then low.le a && a.le high else low.lt a && a.lt high
  let top := magnitude exact
  let found := (List.range 17).findSome? fun (n : Nat) =>
    let exponent := top - (n : Int)
    let below := exact.quotient exponent
    let gridPoint (d : Nat) : Ratio := Ratio.scaled d 10 exponent
    let nearer := ((gridPoint below).distance exact).le ((gridPoint (below + 1)).distance exact)
    let order := if nearer then [below, below + 1] else [below + 1, below]
    (order.find? fun d => inside (gridPoint d)).map fun d => Digits.mk d exponent
  found.getD ⟨m, q⟩

/-- The digits of a number, and how many of them stand before the point. -/
def layout (digits : Digits) : List Char × Int :=
  let all := Nat.toDigits 10 digits.value
  let trimmed := (all.reverse.dropWhile (· = '0')).reverse
  let trimmed := if trimmed.isEmpty then ['0'] else trimmed
  (trimmed, digits.exponent + all.length)

/-- A positive number in text: with a point between the fifth place after it and the sixteenth
before it, and else with an exponent that has a sign. -/
def positive (digits : Digits) : String :=
  let (ds, point) := layout digits
  if -5 < point && point ≤ 0 then
    "0." ++ String.ofList (List.replicate (-point).toNat '0' ++ ds)
  else if 0 < point && point ≤ 16 then
    let before := point.toNat
    if ds.length ≤ before then
      String.ofList (ds ++ List.replicate (before - ds.length) '0') ++ ".0"
    else String.ofList (ds.take before) ++ "." ++ String.ofList (ds.drop before)
  else
    let mantissa := match ds with
      | [d] => String.ofList [d]
      | d :: rest => String.ofList (d :: '.' :: rest)
      | [] => "0"
    let exponent := point - 1
    mantissa ++ "e" ++ (if exponent < 0 then "-" else "+") ++ toString exponent.natAbs

/-- A finite floating point number in text. -/
def text (number : Float) : String :=
  let bits := number.toBits
  let sign := if bits.toNat / Nat.pow 2 63 = 1 then "-" else ""
  let (m, q) := parts bits
  if m = 0 then sign ++ "0.0" else sign ++ positive (shortest m q)

end TypeAtlas.Decimal
