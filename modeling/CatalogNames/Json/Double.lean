/-! Whole magnitudes in the double format, which keeps 53 significant bits: rounding to the nearest one,
and the scaling of one by a power of ten, where both factors are rounded before they are multiplied. So
serde_json does it when it is not asked for exact rounding, which is assumed here. -/

namespace CatalogNames.Double

/-- The least magnitude that rounds to infinity. -/
def limit : Nat := Nat.pow 2 1024 - Nat.pow 2 970

/-- The distance between the neighbours of a magnitude, one as long as every whole number has its
place. -/
def spacing (value : Nat) : Nat := Nat.pow 2 (value.log2 - 52)

/-- The nearest magnitude of 53 significant bits; a tie goes to the even multiple of the spacing. -/
def nearest (value : Nat) : Nat :=
  let unit := spacing value
  let count := value / unit
  let left := value % unit
  if unit < 2 * left ∨ unit = 2 * left ∧ count % 2 = 1 then (count + 1) * unit
  else count * unit

/-- The greatest power of ten in the format. -/
def greatestPower : Nat := 308

/-- Whether the digits times the power of ten run out of the format. Zero never does, nor does a number
whose digits are divided. Both factors are rounded first, so 17976931348623158 times ten to the 292 runs out
and the greater 179769313486231592 times ten to the 291 does not. -/
def overflows (digits : Nat) : Int → Bool
  | .ofNat power =>
      digits ≠ 0 && (greatestPower < power || limit ≤ nearest digits * nearest (Nat.pow 10 power))
  | .negSucc _ => false

end CatalogNames.Double
