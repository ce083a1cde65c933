/-!
# Shortest decimal text of a binary float

A finite double is `m · 2^q`. Every real strictly between the midpoints to its two
neighbours reads back as it, and so do the midpoints themselves when `m` is even (ties
go to the even significand). `Decimal.ofFloat` finds the fewest significant digits whose
value lies in that interval: for `n = 1, 2, …, 17` it tries the two multiples of
`10^(E - n + 1)` around the value, `E` being the value's decimal exponent, and stops at
the first `n` with a hit, taking the nearer of two hits. All comparisons are exact `Nat`
arithmetic.

Two layouts write the result: `Decimal.toFloatText` keeps the point (`1.0`, `0.2`) and
switches to an exponent outside `1e-5 ≤ |x| < 1e16` (`1e20`, `1.5e-7`).
-/

namespace DocBridge

/-- A decimal number `(-1)^negative · digits · 10^exponent`. -/
structure Decimal where
  negative : Bool
  digits : Nat
  exponent : Int
  deriving Repr, DecidableEq, Inhabited

namespace Decimal

/-- The number of decimal digits of `n`, one for zero. -/
def digitCount (n : Nat) : Nat := (Nat.toDigits 10 n).length

/-- `a · 10^s` compared with `b · 2^t`, both sides scaled to natural numbers. -/
def compareScaled (a : Nat) (s : Int) (b : Nat) (t : Int) : Ordering :=
  let lhs := a * Nat.pow 10 s.toNat * Nat.pow 2 (-t).toNat
  let rhs := b * Nat.pow 10 (-s).toNat * Nat.pow 2 t.toNat
  compare lhs rhs

/-- The sign, binary significand and binary exponent of a finite float. -/
def decode (f : Float) : Bool × Nat × Int :=
  let bits := f.toBits.toNat
  let negative := bits / Nat.pow 2 63 % 2 == 1
  let e : Nat := bits / Nat.pow 2 52 % 2048
  let frac : Nat := bits % Nat.pow 2 52
  if e == 0 then (negative, frac, -1074) else (negative, frac + Nat.pow 2 52, (e : Int) - 1075)

/-- `floor(log10 (m · 2^q))` for `m > 0`. -/
def decimalExponent (m : Nat) (q : Int) : Int :=
  let num := m * Nat.pow 2 q.toNat
  let den := Nat.pow 2 (-q).toNat
  let e0 : Int := (digitCount num : Int) - digitCount den
  -- the value lies in (10^(e0-1), 10^(e0+1)), so the exponent is e0 or e0 - 1
  if num * Nat.pow 10 (-e0).toNat ≥ den * Nat.pow 10 e0.toNat then e0 else e0 - 1

/-- Drops trailing zero digits into the exponent; `fuel` bounds the digits removed. -/
def normalize : Nat → Decimal → Decimal
  | 0, d => d
  | fuel + 1, d =>
    if d.digits != 0 && d.digits % 10 == 0 then
      normalize fuel { d with digits := d.digits / 10, exponent := d.exponent + 1 }
    else d

/-- The candidate of `n` significant digits for `m · 2^q` whose rounding interval, in units
of `2^(q-2)`, is `[lo, hi]` (ends included when `closed`). -/
def candidate (m : Nat) (q : Int) (lo hi : Nat) (closed : Bool) (e : Int) (n : Nat) :
    Option (Nat × Int) :=
  let s : Int := e - n + 1
  -- floor of the value on the grid 10^s
  let num := m * Nat.pow 2 q.toNat * Nat.pow 10 (-s).toNat
  let den := Nat.pow 2 (-q).toNat * Nat.pow 10 s.toNat
  let below := num / den
  let above := below + 1
  let inside (d : Nat) : Bool :=
    let l := compareScaled d s lo (q - 2)
    let h := compareScaled d s hi (q - 2)
    (if closed then l != .lt else l == .gt) && (if closed then h != .gt else h == .lt)
  let v := 4 * m
  match inside below, inside above with
  | true, true =>
    -- the nearer of the two; a tie goes to the even digit
    match compare (compareDist below s v q) (compareDist above s v q) with
    | .lt => some (below, s)
    | .gt => some (above, s)
    | .eq => some (if below % 2 == 0 then below else above, s)
  | true, false => some (below, s)
  | false, true => some (above, s)
  | false, false => none
where
  /-- The distance from `d · 10^s` to `v · 2^(q-2)`, scaled by a common positive factor. -/
  compareDist (d : Nat) (s : Int) (v : Nat) (q : Int) : Nat :=
    let a := d * Nat.pow 10 s.toNat * Nat.pow 2 (2 - q).toNat
    let b := v * Nat.pow 10 (-s).toNat * Nat.pow 2 (q - 2).toNat
    if a ≤ b then b - a else a - b

/-- The first hit among 1 to 17 significant digits. -/
def search (m : Nat) (q : Int) (lo hi : Nat) (closed : Bool) (e : Int) : List Nat → Nat × Int
  | [] => (m, q)
  | n :: ns =>
    match candidate m q lo hi closed e n with
    | some r => r
    | none => search m q lo hi closed e ns

/-- The shortest decimal that reads back as the finite float `f`. -/
def ofFloat (f : Float) : Decimal :=
  let (negative, m, q) := decode f
  if m == 0 then ⟨negative, 0, 0⟩ else
  let v := 4 * m
  -- the lower neighbour is closer when m is the smallest significand of its binade
  let lo := if m == Nat.pow 2 52 && q > -1074 then v - 1 else v - 2
  let hi := v + 2
  let (d, s) := search m q lo hi (m % 2 == 0) (decimalExponent m q) (List.range' 1 17)
  normalize 20 ⟨negative, d, s⟩

/-- Writes `k` zeros. -/
def zeros (k : Nat) : String := String.ofList (List.replicate k '0')

/-- The float layout: a point and at least one digit after it for magnitudes in
`[1e-5, 1e16)`, otherwise one leading digit and an exponent `e` with its sign only when
negative. -/
def toFloatText (d : Decimal) : String :=
  let sign := if d.negative then "-" else ""
  if d.digits == 0 then sign ++ "0.0" else
  let ds := String.ofList (Nat.toDigits 10 d.digits)
  let len : Int := ds.length
  let k := d.exponent
  let kk := len + k
  let body :=
    if 0 ≤ k && kk ≤ 16 then ds ++ zeros k.toNat ++ ".0"
    else if 0 < kk && kk ≤ 16 then
      String.ofList (ds.toList.take kk.toNat) ++ "." ++ String.ofList (ds.toList.drop kk.toNat)
    else if -5 < kk && kk ≤ 0 then "0." ++ zeros (-kk).toNat ++ ds
    else if len == 1 then ds ++ "e" ++ toString (kk - 1)
    else
      String.ofList (ds.toList.take 1) ++ "." ++ String.ofList (ds.toList.drop 1) ++ "e" ++
        toString (kk - 1)
  sign ++ body

end Decimal

end DocBridge
