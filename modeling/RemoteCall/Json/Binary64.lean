/-!
# Binary floating-point numbers

A number of the binary64 format is kept as its 64 bits. `ofRatio` rounds a quotient to the
nearest number, ties to even, and `toText` writes the shortest decimal that rounds back to the
number, choosing the nearest of those of the same length. Both work in exact arithmetic.
-/

namespace RemoteCall.Json.Binary64

/-- The bits of zero with the sign of a number. -/
def zero (negative : Bool) : UInt64 :=
  if negative then 0x8000000000000000 else 0

/-- Whether the sign bit is set. -/
def isNegative (bits : UInt64) : Bool :=
  bits >>> 63 == 1

/-- The weight `2 ^ 52` of the bit that a fraction leaves out unless the exponent is zero. -/
def hiddenBit : Nat := 0x10000000000000

/-- The magnitude of a finite number as `m` and `q`, for `m * 2 ^ q`. -/
def parts (bits : UInt64) : Nat × Int :=
  let exponent := ((bits >>> 52) &&& 0x7FF).toNat
  let fraction := (bits &&& 0xFFFFFFFFFFFFF).toNat
  if exponent = 0 then (fraction, -1074) else (fraction + hiddenBit, exponent - 1075)

/-- The magnitude of a finite number as a quotient. -/
def ratio (bits : UInt64) : Nat × Nat :=
  let (m, q) := parts bits
  if 0 ≤ q then (m * Nat.pow 2 q.toNat, 1) else (m, Nat.pow 2 (-q).toNat)

/-- The quotient `n / (d * 2 ^ e)`, rounded down, with the remainder and the divisor. -/
def scaled (n d : Nat) (e : Int) : Nat × Nat × Nat :=
  let n := if e < 0 then n * Nat.pow 2 (-e).toNat else n
  let d := if e < 0 then d else d * Nat.pow 2 e.toNat
  (n / d, n % d, d)

/-- The bits of the number nearest to a positive quotient, ties to even; nothing if it is
beyond the largest number. -/
def ofRatio (n d : Nat) : Option UInt64 :=
  if n = 0 then some 0
  else
    -- The quotient has 53 bits at this exponent, or one bit less.
    let guess : Int := (Nat.log2 n : Int) - Nat.log2 d - 52
    let guess := if (scaled n d guess).1 < hiddenBit then guess - 1 else guess
    let e := max guess (-1074)
    let (m, remainder, divisor) := scaled n d e
    let up := divisor < 2 * remainder || (divisor == 2 * remainder && m % 2 == 1)
    -- Rounding up may carry into the next exponent.
    let m := if up then m + 1 else m
    let (m, e) := if m = 2 * hiddenBit then (hiddenBit, e + 1) else (m, e)
    if 971 < e then none
    else if m < hiddenBit then some (UInt64.ofNat m)
    else some (UInt64.ofNat ((e + 1075).toNat * hiddenBit + (m - hiddenBit)))

/-- The decimal `significand * 10 ^ exponent`, with one rounding for the significand and one
for each scaling; nothing if it is too large. -/
def ofDecimal (significand : Nat) (exponent : Int) : Option UInt64 := do
  let rec scale : (steps : Nat) → UInt64 → Int → Option UInt64
    | 0, x, _ => some x
    | steps + 1, x, exponent => do
      let (n, d) := ratio x
      if exponent.natAbs ≤ 308 then
        let power ← ofRatio (Nat.pow 10 exponent.natAbs) 1
        let (pn, pd) := ratio power
        if 0 ≤ exponent then ofRatio (n * pn) (d * pd) else ofRatio (n * pd) (d * pn)
      else if n = 0 then some x
      else if 0 ≤ exponent then none
      else
        let (pn, pd) := ratio (← ofRatio (Nat.pow 10 308) 1)
        scale steps (← ofRatio (n * pd) (d * pn)) (exponent + 308)
  scale 4 (← ofRatio significand 1) exponent

/-- The digits of the shortest decimal that rounds to a positive number, and the power of ten
that the decimal point after the digits stands for. -/
def shortest (bits : UInt64) : Nat × Int :=
  let (m, q) := parts bits
  let (n, d) := ratio bits
  let scale := 4
  -- Below a power of two the next number is only half as far away.
  let below := if m = hiddenBit ∧ -1074 < q then 1 else 2
  let inside (digits : Nat) (power : Int) : Bool :=
    let (an, ad) :=
      if 0 ≤ power then (digits * Nat.pow 10 power.toNat, 1)
      else (digits, Nat.pow 10 (-power).toNat)
    -- compares `an / ad` with the ends `(4 * m - below) / 4` and `(4 * m + 2) / 4`, scaled
    let unit := n / m
    let left := scale * an * d
    let low := (scale * m - below) * unit * ad
    let high := (scale * m + 2) * unit * ad
    if m % 2 = 0 then low ≤ left && left ≤ high else low < left && left < high
  let size : Int :=
    let guess : Int := ((Nat.log2 n : Int) - Nat.log2 d) * 30103 / 100000
    let atLeast (p : Int) : Bool :=
      if 0 ≤ p then Nat.pow 10 p.toNat * d ≤ n else d ≤ n * Nat.pow 10 (-p).toNat
    if atLeast (guess + 1) then guess + 2 else if atLeast guess then guess + 1 else guess
  let rec search : (more : Nat) → (length : Int) → Nat × Int
    | 0, length => (n, size - length)
    | more + 1, length =>
      let power := size - length
      let num := if 0 ≤ power then n else n * Nat.pow 10 (-power).toNat
      let den := if 0 ≤ power then d * Nat.pow 10 power.toNat else d
      let lower := num / den
      let upper := lower + 1
      match inside lower power, inside upper power with
      | true, true =>
        let rest := num % den
        if 2 * rest < den then (lower, power)
        else if den < 2 * rest then (upper, power)
        else if lower % 2 = 0 then (lower, power) else (upper, power)
      | true, false => (lower, power)
      | false, true => (upper, power)
      | false, false => search more (length + 1)
  search 17 1

/-- A digit sequence without the zeros at its end, and how many there were. -/
def dropZeros : (fuel : Nat) → Nat → Nat × Nat
  | 0, n => (n, 0)
  | fuel + 1, n =>
    if n ≠ 0 ∧ n % 10 = 0 then
      let (m, k) := dropZeros fuel (n / 10)
      (m, k + 1)
    else (n, 0)

/-- The decimal text of a finite number. Magnitudes from `1e-5` up to below `1e16` are written
with a point and no exponent, and others with an exponent that always has its sign. -/
def toText (bits : UInt64) : String :=
  let sign := if isNegative bits then "-" else ""
  let magnitude := bits &&& 0x7FFFFFFFFFFFFFFF
  if magnitude = 0 then sign ++ "0.0"
  else
    let (digits, power) := shortest magnitude
    let (digits, dropped) := dropZeros 20 digits
    let power := power + dropped
    let text := Nat.toDigits 10 digits
    let point : Int := text.length + power
    let zeros (n : Int) := List.replicate n.toNat '0'
    let body : List Char :=
      if 0 ≤ power ∧ point ≤ 16 then text ++ zeros power ++ ['.', '0']
      else if 0 < point ∧ point ≤ 16 then
        text.take point.toNat ++ '.' :: text.drop point.toNat
      else if -5 < point ∧ point ≤ 0 then '0' :: '.' :: zeros (-point) ++ text
      else
        let exponent := (if 0 < point then '+' else '-') :: Nat.toDigits 10 (point - 1).natAbs
        match text with
        | [d] => d :: 'e' :: exponent
        | d :: ds => d :: '.' :: ds ++ 'e' :: exponent
        | [] => []
    sign ++ String.ofList body

end RemoteCall.Json.Binary64
