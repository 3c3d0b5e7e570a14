import LiveText.Number.Double

/-!
# Random numbers

A seed determines a row of numbers from zero up to, not including, one: the seed is advanced by a
fixed odd step, and the bits of each place are mixed.
-/

namespace LiveText.Draws

/-- The step from one place of the row to the next. -/
def increment : UInt64 := 0x9E3779B97F4A7C15

/-- The mixed bits of a word. -/
def mix (x : UInt64) : UInt64 :=
  let x := (x ^^^ (x >>> 30)) * 0xBF58476D1CE4E5B9
  let x := (x ^^^ (x >>> 27)) * 0x94D049BB133111EB
  x ^^^ (x >>> 31)

/-- The number whose leading 53 bits after the point are those of a word. -/
def fraction (x : UInt64) : Double :=
  Double.ofUnits false ((x >>> 11).toNat * Number.unity) (Nat.pow 2 53)

/-- The random numbers of a seed. -/
def ofSeed (seed : UInt64) (n : Nat) : Double :=
  fraction (mix (seed + UInt64.ofNat (n + 1) * increment))

end LiveText.Draws
