/-! # Case mappings of single characters

The one-to-one case mappings come in runs: every `step`-th code point from `first` to `last` moves
by the same `shift`. The upper-case mappings to several characters are listed one by one.
-/

namespace TreeScript

/-- Code points that change case by the same distance. -/
structure CaseRun where
  first : Nat
  last : Nat
  step : Nat
  shift : Int

/-- One code point and its distance. -/
def CaseRun.single (code : Nat) (shift : Int) : CaseRun := ⟨code, code, 1, shift⟩

/-- The code point that a run maps `code` to, if `code` lies on the run. -/
def CaseRun.image? (run : CaseRun) (code : Nat) : Option Nat :=
  if run.first ≤ code ∧ code ≤ run.last ∧ (code - run.first) % run.step = 0 then
    some ((code : Int) + run.shift).toNat
  else none

/-- The run that leads back. -/
def CaseRun.back (run : CaseRun) : CaseRun :=
  ⟨(run.first + run.shift).toNat, (run.last + run.shift).toNat, run.step, -run.shift⟩

/-- Small letters whose capital leads back to them. -/
def caseRuns : List CaseRun := [
  ⟨0x61, 0x7a, 1, -32⟩, ⟨0xe0, 0xf6, 1, -32⟩, ⟨0xf8, 0xfe, 1, -32⟩, .single 0xff 121,
  ⟨0x101, 0x12f, 2, -1⟩, ⟨0x133, 0x137, 2, -1⟩, ⟨0x13a, 0x148, 2, -1⟩, ⟨0x14b, 0x177, 2, -1⟩,
  ⟨0x17a, 0x17e, 2, -1⟩, .single 0x180 195, ⟨0x183, 0x185, 2, -1⟩, .single 0x188 (-1),
  .single 0x18c (-1), .single 0x192 (-1), .single 0x195 97, .single 0x199 (-1), .single 0x19a 163,
  .single 0x19e 130, ⟨0x1a1, 0x1a5, 2, -1⟩, .single 0x1a8 (-1), .single 0x1ad (-1),
  .single 0x1b0 (-1), ⟨0x1b4, 0x1b6, 2, -1⟩, .single 0x1b9 (-1), .single 0x1bd (-1),
  .single 0x1bf 56, .single 0x1c6 (-2), .single 0x1c9 (-2), .single 0x1cc (-2),
  ⟨0x1ce, 0x1dc, 2, -1⟩, .single 0x1dd (-79), ⟨0x1df, 0x1ef, 2, -1⟩, .single 0x1f3 (-2),
  .single 0x1f5 (-1), ⟨0x1f9, 0x21f, 2, -1⟩, ⟨0x223, 0x233, 2, -1⟩, .single 0x23c (-1),
  ⟨0x23f, 0x240, 1, 10815⟩, .single 0x242 (-1), ⟨0x247, 0x24f, 2, -1⟩, .single 0x250 10783,
  .single 0x251 10780, .single 0x252 10782, .single 0x253 (-210), .single 0x254 (-206),
  ⟨0x256, 0x257, 1, -205⟩, .single 0x259 (-202), .single 0x25b (-203), .single 0x25c 42319,
  .single 0x260 (-205), .single 0x261 42315, .single 0x263 (-207), .single 0x265 42280,
  .single 0x266 42308, .single 0x268 (-209), .single 0x269 (-211), .single 0x26a 42308,
  .single 0x26b 10743, .single 0x26c 42305, .single 0x26f (-211), .single 0x271 10749,
  .single 0x272 (-213), .single 0x275 (-214), .single 0x27d 10727, .single 0x280 (-218),
  .single 0x282 42307, .single 0x283 (-218), .single 0x287 42282, .single 0x288 (-218),
  .single 0x289 (-69), ⟨0x28a, 0x28b, 1, -217⟩, .single 0x28c (-71), .single 0x292 (-219),
  .single 0x29d 42261, .single 0x29e 42258, ⟨0x371, 0x373, 2, -1⟩, .single 0x377 (-1),
  ⟨0x37b, 0x37d, 1, 130⟩, .single 0x3ac (-38), ⟨0x3ad, 0x3af, 1, -37⟩, ⟨0x3b1, 0x3c1, 1, -32⟩,
  ⟨0x3c3, 0x3cb, 1, -32⟩, .single 0x3cc (-64), ⟨0x3cd, 0x3ce, 1, -63⟩, .single 0x3d7 (-8),
  ⟨0x3d9, 0x3ef, 2, -1⟩, .single 0x3f2 7, .single 0x3f3 (-116), .single 0x3f8 (-1),
  .single 0x3fb (-1), ⟨0x430, 0x44f, 1, -32⟩, ⟨0x450, 0x45f, 1, -80⟩, ⟨0x461, 0x481, 2, -1⟩,
  ⟨0x48b, 0x4bf, 2, -1⟩, ⟨0x4c2, 0x4ce, 2, -1⟩, .single 0x4cf (-15), ⟨0x4d1, 0x52f, 2, -1⟩,
  ⟨0x561, 0x586, 1, -48⟩, ⟨0x10d0, 0x10fa, 1, 3008⟩, ⟨0x10fd, 0x10ff, 1, 3008⟩,
  ⟨0x13f8, 0x13fd, 1, -8⟩, .single 0x1d79 35332, .single 0x1d7d 3814, .single 0x1d8e 35384,
  ⟨0x1e01, 0x1e95, 2, -1⟩, ⟨0x1ea1, 0x1eff, 2, -1⟩, ⟨0x1f00, 0x1f07, 1, 8⟩, ⟨0x1f10, 0x1f15, 1, 8⟩,
  ⟨0x1f20, 0x1f27, 1, 8⟩, ⟨0x1f30, 0x1f37, 1, 8⟩, ⟨0x1f40, 0x1f45, 1, 8⟩, ⟨0x1f51, 0x1f57, 2, 8⟩,
  ⟨0x1f60, 0x1f67, 1, 8⟩, ⟨0x1f70, 0x1f71, 1, 74⟩, ⟨0x1f72, 0x1f75, 1, 86⟩,
  ⟨0x1f76, 0x1f77, 1, 100⟩, ⟨0x1f78, 0x1f79, 1, 128⟩, ⟨0x1f7a, 0x1f7b, 1, 112⟩,
  ⟨0x1f7c, 0x1f7d, 1, 126⟩, ⟨0x1fb0, 0x1fb1, 1, 8⟩, ⟨0x1fd0, 0x1fd1, 1, 8⟩, ⟨0x1fe0, 0x1fe1, 1, 8⟩,
  .single 0x1fe5 7, .single 0x214e (-28), ⟨0x2170, 0x217f, 1, -16⟩, .single 0x2184 (-1),
  ⟨0x24d0, 0x24e9, 1, -26⟩, ⟨0x2c30, 0x2c5f, 1, -48⟩, .single 0x2c61 (-1), .single 0x2c65 (-10795),
  .single 0x2c66 (-10792), ⟨0x2c68, 0x2c6c, 2, -1⟩, .single 0x2c73 (-1), .single 0x2c76 (-1),
  ⟨0x2c81, 0x2ce3, 2, -1⟩, ⟨0x2cec, 0x2cee, 2, -1⟩, .single 0x2cf3 (-1), ⟨0x2d00, 0x2d25, 1, -7264⟩,
  .single 0x2d27 (-7264), .single 0x2d2d (-7264), ⟨0xa641, 0xa66d, 2, -1⟩, ⟨0xa681, 0xa69b, 2, -1⟩,
  ⟨0xa723, 0xa72f, 2, -1⟩, ⟨0xa733, 0xa76f, 2, -1⟩, ⟨0xa77a, 0xa77c, 2, -1⟩,
  ⟨0xa77f, 0xa787, 2, -1⟩, .single 0xa78c (-1), ⟨0xa791, 0xa793, 2, -1⟩, .single 0xa794 48,
  ⟨0xa797, 0xa7a9, 2, -1⟩, ⟨0xa7b5, 0xa7c3, 2, -1⟩, ⟨0xa7c8, 0xa7ca, 2, -1⟩, .single 0xa7d1 (-1),
  ⟨0xa7d7, 0xa7d9, 2, -1⟩, .single 0xa7f6 (-1), .single 0xab53 (-928), ⟨0xab70, 0xabbf, 1, -38864⟩,
  ⟨0xff41, 0xff5a, 1, -32⟩, ⟨0x10428, 0x1044f, 1, -40⟩, ⟨0x104d8, 0x104fb, 1, -40⟩,
  ⟨0x10597, 0x105bb, 2, -39⟩, ⟨0x10598, 0x105a0, 2, -39⟩, ⟨0x105a4, 0x105b0, 2, -39⟩,
  ⟨0x105b4, 0x105b8, 2, -39⟩, .single 0x105bc (-39), ⟨0x10cc0, 0x10cf2, 1, -64⟩,
  ⟨0x118c0, 0x118df, 1, -32⟩, ⟨0x16e60, 0x16e7f, 1, -32⟩, ⟨0x1e922, 0x1e943, 1, -34⟩]

/-- To upper case: also letters whose capital belongs to another one. -/
def upperRuns : List CaseRun := caseRuns ++ [
  .single 0xb5 743, .single 0x131 (-232), .single 0x17f (-300), .single 0x1c5 (-1),
  .single 0x1c8 (-1), .single 0x1cb (-1), .single 0x1f2 (-1), .single 0x345 84, .single 0x3c2 (-31),
  .single 0x3d0 (-62), .single 0x3d1 (-57), .single 0x3d5 (-47), .single 0x3d6 (-54),
  .single 0x3f0 (-86), .single 0x3f1 (-80), .single 0x3f5 (-96), .single 0x1c80 (-6254),
  .single 0x1c81 (-6253), .single 0x1c82 (-6244), ⟨0x1c83, 0x1c84, 1, -6242⟩,
  .single 0x1c85 (-6243), .single 0x1c86 (-6236), .single 0x1c87 (-6181), .single 0x1c88 35266,
  .single 0x1e9b (-59), .single 0x1fbe (-7205)]

/-- To lower case: also letters that are the capital of none. -/
def lowerRuns : List CaseRun := caseRuns.map CaseRun.back ++ [
  .single 0x1c5 1, .single 0x1c8 1, .single 0x1cb 1, .single 0x1f2 1, .single 0x3f4 (-60),
  .single 0x1e9e (-7615), ⟨0x1f88, 0x1f8f, 1, -8⟩, ⟨0x1f98, 0x1f9f, 1, -8⟩, ⟨0x1fa8, 0x1faf, 1, -8⟩,
  .single 0x1fbc (-9), .single 0x1fcc (-9), .single 0x1ffc (-9), .single 0x2126 (-7517),
  .single 0x212a (-8383), .single 0x212b (-8262)]

/-- The Greek vowels with an iota below, small and capital: three rows of sixteen, given by the first of the
row and of its capitals without the iota, which in upper case follows. -/
def iotaExpansions : List (Nat × List Nat) :=
  [(0x1f80, 0x1f08), (0x1f90, 0x1f28), (0x1fa0, 0x1f68)].flatMap fun (first, capital) =>
    (List.range 16).map fun n => (first + n, [capital + n % 8, 0x399])

/-- Characters whose upper-case form has several characters. -/
def upperExpansions : List (Nat × List Nat) := [
  (0xdf, [0x53, 0x53]), (0x149, [0x2bc, 0x4e]), (0x1f0, [0x4a, 0x30c]),
  (0x390, [0x399, 0x308, 0x301]), (0x3b0, [0x3a5, 0x308, 0x301]), (0x587, [0x535, 0x552]),
  (0x1e96, [0x48, 0x331]), (0x1e97, [0x54, 0x308]), (0x1e98, [0x57, 0x30a]),
  (0x1e99, [0x59, 0x30a]), (0x1e9a, [0x41, 0x2be]), (0x1f50, [0x3a5, 0x313]),
  (0x1f52, [0x3a5, 0x313, 0x300]), (0x1f54, [0x3a5, 0x313, 0x301]), (0x1f56, [0x3a5, 0x313, 0x342]),
  (0x1fb2, [0x1fba, 0x399]), (0x1fb3, [0x391, 0x399]), (0x1fb4, [0x386, 0x399]),
  (0x1fb6, [0x391, 0x342]), (0x1fb7, [0x391, 0x342, 0x399]), (0x1fbc, [0x391, 0x399]),
  (0x1fc2, [0x1fca, 0x399]), (0x1fc3, [0x397, 0x399]), (0x1fc4, [0x389, 0x399]),
  (0x1fc6, [0x397, 0x342]), (0x1fc7, [0x397, 0x342, 0x399]), (0x1fcc, [0x397, 0x399]),
  (0x1fd2, [0x399, 0x308, 0x300]), (0x1fd3, [0x399, 0x308, 0x301]), (0x1fd6, [0x399, 0x342]),
  (0x1fd7, [0x399, 0x308, 0x342]), (0x1fe2, [0x3a5, 0x308, 0x300]), (0x1fe3, [0x3a5, 0x308, 0x301]),
  (0x1fe4, [0x3a1, 0x313]), (0x1fe6, [0x3a5, 0x342]), (0x1fe7, [0x3a5, 0x308, 0x342]),
  (0x1ff2, [0x1ffa, 0x399]), (0x1ff3, [0x3a9, 0x399]), (0x1ff4, [0x38f, 0x399]),
  (0x1ff6, [0x3a9, 0x342]), (0x1ff7, [0x3a9, 0x342, 0x399]), (0x1ffc, [0x3a9, 0x399]),
  (0xfb00, [0x46, 0x46]), (0xfb01, [0x46, 0x49]), (0xfb02, [0x46, 0x4c]),
  (0xfb03, [0x46, 0x46, 0x49]), (0xfb04, [0x46, 0x46, 0x4c]), (0xfb05, [0x53, 0x54]),
  (0xfb06, [0x53, 0x54]), (0xfb13, [0x544, 0x546]), (0xfb14, [0x544, 0x535]),
  (0xfb15, [0x544, 0x53b]), (0xfb16, [0x54e, 0x546]), (0xfb17, [0x544, 0x53d])] ++ iotaExpansions

end TreeScript
