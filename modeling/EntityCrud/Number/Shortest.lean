import EntityCrud.Number.Binary
/-! The fewest decimal digits that read back. A decimal stands for a binary number when
it lies in the interval of reals that round to it; of the decimals with the fewest
digits the one nearest to the number is chosen, a tie going to the even last digit. -/
namespace EntityCrud.Number

/-- A decimal `digits * 10 ^ exponent`. -/
structure Decimal where
  digits : Nat
  exponent : Int
  deriving DecidableEq, Repr

namespace Shortest

/-- A positive quotient of naturals. -/
structure Ratio where
  num : Nat
  den : Nat

/-- `m * 2 ^ q * 10 ^ (-e)`. -/
def inUnits (m : Nat) (q e : Int) : Ratio :=
  ⟨m * Nat.pow 2 q.toNat * Nat.pow 10 (-e).toNat, Nat.pow 2 (-q).toNat * Nat.pow 10 e.toNat⟩

/-- Whether the whole number `n` of units `10 ^ e` rounds to `m * 2 ^ q`. The interval reaches
half way to both neighbours, a quarter way below when the neighbour below is nearer, and its
ends belong to it when `m` is even. -/
def readsBack (m : Nat) (q : Int) (nearBelow : Bool) (e : Int) (n : Nat) : Bool :=
  let value := inUnits (4 * m) (q - 2) e
  let low := inUnits (4 * m - if nearBelow then 1 else 2) (q - 2) e
  let high := inUnits (4 * m + 2) (q - 2) e
  if n * value.den ≤ value.num then
    if m % 2 = 0 then decide (low.num ≤ n * low.den) else decide (low.num < n * low.den)
  else
    if m % 2 = 0 then decide (n * high.den ≤ high.num) else decide (n * high.den < high.num)

/-- The chosen decimal on the grid `10 ^ e`: of the number's two neighbours that read back the
nearer one. -/
def onGrid (m : Nat) (q : Int) (nearBelow : Bool) (e : Int) : Option Nat :=
  let value := inUnits m q e
  let floor := value.num / value.den
  let twice := 2 * (value.num % value.den)
  let below := readsBack m q nearBelow e floor
  let above := readsBack m q nearBelow e (floor + 1)
  let preferAbove := decide (value.den < twice) || (decide (value.den = twice) && floor % 2 == 1)
  match below, above with
  | false, false => none
  | true, false => some floor
  | false, true => some (floor + 1)
  | true, true => some (if preferAbove then floor + 1 else floor)

/-- The number of digits before the decimal point of `m * 2 ^ q`, counted negatively for the
zeros after it: the least `t` with `m * 2 ^ q < 10 ^ t`. -/
def magnitude (m : Nat) (q : Int) : Int :=
  let shifted := inUnits m q (-400)
  ((Nat.toDigits 10 (shifted.num / shifted.den)).length : Int) - 400

/-- The first grid with a decimal that reads back, going down by powers of ten. -/
def search (m : Nat) (q : Int) (nearBelow : Bool) : Nat → Int → Decimal
  | 0, e => ⟨(inUnits m q e).num / (inUnits m q e).den, e⟩
  | fuel + 1, e =>
    match onGrid m q nearBelow e with
    | some n => ⟨n, e⟩
    | none => search m q nearBelow fuel (e - 1)

/-- A decimal without zeros at the end of its digits. -/
def stripped : Nat → Decimal → Decimal
  | 0, d => d
  | fuel + 1, d =>
    if d.digits % 10 = 0 ∧ d.digits ≠ 0 then stripped fuel ⟨d.digits / 10, d.exponent + 1⟩ else d

/-- The shortest decimal that stands for the finite positive number with this magnitude code. -/
def ofCode (code : Nat) : Decimal :=
  let (m, q) := Format.binary64.decode code
  let nearBelow := decide (m = Format.binary64.stride ∧ Format.binary64.leastExponent < q)
  stripped 20 (search m q nearBelow 17 (magnitude m q - 1))

end Shortest

/-- The shortest decimal of a finite number's magnitude; zero is `0 * 10 ^ 0`. -/
def Binary64.shortest (x : Binary64) : Decimal :=
  if x.code = 0 then ⟨0, 0⟩ else Shortest.ofCode x.code

end EntityCrud.Number
