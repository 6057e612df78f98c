import ComposePods.Binary64.Digits

/-!
# Writing numbers

Each output format fixes how the shortest digits of a number are laid out: from which magnitudes on
an exponent is written, whether an integral value keeps a `.0`, and the words for the values that
are not finite. A format is a `Binary64.Layout`, and `Binary64.Layout.text` writes a number in it.
-/

namespace ComposePods

namespace Binary64

/-- The decisions of one number format. -/
structure Layout where
  /-- Positional when the decimal point falls above this place, counted from the first digit. -/
  lowest : Option Int
  /-- Positional when the decimal point falls at this place or below. -/
  highest : Option Int
  /-- An integral value written positionally ends in `.0`. -/
  pointZero : Bool
  nan : String
  infinity : String
  negativeInfinity : String

namespace Layout

/-- Digits with the decimal point after the first `place` of them. -/
def positional (layout : Layout) (digits : List Char) (place : Int) : List Char :=
  let n : Int := digits.length
  if place ≤ 0 then ['0', '.'] ++ List.replicate (-place).toNat '0' ++ digits
  else if place < n then digits.take place.toNat ++ '.' :: digits.drop place.toNat
  else
    digits ++ List.replicate (place - n).toNat '0' ++ (if layout.pointZero then ['.', '0'] else [])

/-- One digit, the others after a point, and the exponent. -/
def scientific (digits : List Char) (place : Int) : List Char :=
  let exponent := (toString (place - 1)).toList
  match digits with
  | [] => 'e' :: exponent
  | [d] => d :: 'e' :: exponent
  | d :: rest => d :: '.' :: rest ++ 'e' :: exponent

/-- The text of a magnitude. -/
def magnitudeText (layout : Layout) (x : Binary64) : List Char :=
  if x.isZero then layout.positional ['0'] 1
  else
    let d := x.shortest
    let digits := (toString d.digits).toList
    let place := digits.length + d.exponent
    let above := match layout.lowest with
      | some low => decide (low < place)
      | none => true
    let below := match layout.highest with
      | some high => decide (place ≤ high)
      | none => true
    if above && below then layout.positional digits place else scientific digits place

/-- The text of a number. -/
def text (layout : Layout) (x : Binary64) : String :=
  if x.isNaN then layout.nan
  else if x.isInfinite then if x.negative then layout.negativeInfinity else layout.infinity
  else
    let digits := layout.magnitudeText x
    String.ofList (if x.negative then '-' :: digits else digits)

end Layout

/-- Document numbers: an exponent below `1e-5` and from `1e16` on, and always a point or an
exponent. -/
def document : Layout :=
  { lowest := some (-5), highest := some 16, pointZero := true
    nan := ".nan", infinity := ".inf", negativeInfinity := "-.inf" }

/-- Numbers in rendered text: never an exponent, and integral values without a point. -/
def plain : Layout :=
  { lowest := none, highest := none, pointZero := false
    nan := "NaN", infinity := "inf", negativeInfinity := "-inf" }

/-- Numbers in error messages: never an exponent, and always a point. -/
def pointed : Layout :=
  { lowest := none, highest := none, pointZero := true
    nan := "NaN", infinity := "inf", negativeInfinity := "-inf" }

end Binary64

end ComposePods
