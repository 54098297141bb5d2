import TreeScript.Numeric.Binary64

/-! # Uniformly distributed doubles

A sequence of doubles in the unit interval, determined by a seed. The numbers are multiples of
`2 ^ -53`; each is found from its place in the sequence by mixing the bits of a counter.
-/

namespace TreeScript.Uniform

-- Powers are those of the core library, whatever else is in scope.
attribute [local instance (high)] instPowNat

/-- Spread every bit of a word over all others. -/
def mix (word : UInt64) : UInt64 :=
  let a := (word ^^^ (word >>> 30)) * 0xbf58476d1ce4e5b9
  let b := (a ^^^ (a >>> 27)) * 0x94d049bb133111eb
  b ^^^ (b >>> 31)

/-- The word at a place of the sequence with a seed. -/
def word (seed : UInt64) (place : Nat) : UInt64 :=
  mix (seed + (UInt64.ofNat (place + 1)) * 0x9e3779b97f4a7c15)

/-- The double at a place of the sequence with a seed. -/
def double (seed : UInt64) (place : Nat) : Binary64 :=
  Binary64.ofRatio ((word seed place >>> 11).toNat : Int) (2 ^ (53 : Nat))

/-- A seed made of the characters of a text. -/
def seedOfText (text : String) : UInt64 :=
  text.toList.foldl (fun seed c => mix (seed + c.val.toUInt64)) 0

end TreeScript.Uniform
