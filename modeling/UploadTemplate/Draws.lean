/-!
# Random draws

Randomness is a value: an endless sequence of natural numbers of which some have been used. What
a program does is thereby a function of the sequence, and a statement about every sequence is one
about every outcome.
-/

namespace UploadTemplate

structure Draws where
  source : Nat → Nat
  used : Nat

namespace Draws

/-- A number below `bound`. -/
def pick (bound : Nat) (d : Draws) : Nat × Draws :=
  (d.source d.used % bound, { d with used := d.used + 1 })

theorem pick_lt {bound : Nat} (h : 0 < bound) (d : Draws) : (d.pick bound).1 < bound :=
  Nat.mod_lt _ h

/-- Numbers that look random, from a seed. -/
def ofSeed (seed : UInt64) : Draws :=
  { source := fun i =>
      let z := seed + (UInt64.ofNat i + 1) * 0x9E3779B97F4A7C15
      let z := (z ^^^ (z >>> 30)) * 0xBF58476D1CE4E5B9
      let z := (z ^^^ (z >>> 27)) * 0x94D049BB133111EB
      (z ^^^ (z >>> 31)).toNat
    used := 0 }

end Draws

/-- A computation that may draw random numbers and may end with an error. -/
abbrev Drawing (ε α : Type) := ExceptT ε (StateM Draws) α

end UploadTemplate
