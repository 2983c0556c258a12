/-!
# Characters

What `str` makes of a character goes by Unicode's tables, here those of version 15: which
characters are digits, which are spaces, and what their capitals are. `str.upper` takes a
character on its own, but what it makes of one may be several: one with no capital in a single
character is written out (`expansions`), and the others come in runs of the same shift.
-/

namespace HeatpumpGateway

/-! ## Digits and spaces -/

/-- The zeros of Unicode's decimal digits; each is followed by its one to nine. -/
def digitZeros : List Nat :=
  [0x30, 0x660, 0x6f0, 0x7c0, 0x966, 0x9e6, 0xa66, 0xae6, 0xb66, 0xbe6, 0xc66,
   0xce6, 0xd66, 0xde6, 0xe50, 0xed0, 0xf20, 0x1040, 0x1090, 0x17e0, 0x1810,
   0x1946, 0x19d0, 0x1a80, 0x1a90, 0x1b50, 0x1bb0, 0x1c40, 0x1c50, 0xa620,
   0xa8d0, 0xa900, 0xa9d0, 0xa9f0, 0xaa50, 0xabf0, 0xff10, 0x104a0, 0x10d30,
   0x11066, 0x110f0, 0x11136, 0x111d0, 0x112f0, 0x11450, 0x114d0, 0x11650,
   0x116c0, 0x11730, 0x118e0, 0x11950, 0x11c50, 0x11d50, 0x11da0, 0x11f50,
   0x16a60, 0x16ac0, 0x16b50, 0x1d7ce, 0x1d7d8, 0x1d7e2, 0x1d7ec, 0x1d7f6,
   0x1e140, 0x1e2f0, 0x1e4f0, 0x1e950, 0x1fbf0]

/-- `unicodedata.decimal`. -/
def decimal? (c : Char) : Option Nat :=
  (digitZeros.find? fun z => z ≤ c.toNat ∧ c.toNat < z + 10).map (c.toNat - ·)

/-- The digits that no number is written with, such as the raised and the circled ones. -/
def otherDigits : List (Nat × Nat) :=
  [(0xb2, 0xb3), (0xb9, 0xb9), (0x1369, 0x1371), (0x19da, 0x19da), (0x2070, 0x2070),
   (0x2074, 0x2079), (0x2080, 0x2089), (0x2460, 0x2468), (0x2474, 0x247c), (0x2488, 0x2490),
   (0x24ea, 0x24ea), (0x24f5, 0x24fd), (0x24ff, 0x24ff), (0x2776, 0x277e), (0x2780, 0x2788),
   (0x278a, 0x2792), (0x10a40, 0x10a43), (0x10e60, 0x10e68), (0x11052, 0x1105a),
   (0x1f100, 0x1f10a)]

/-- `str.isdigit` of one character. -/
def isDigit (c : Char) : Bool :=
  (decimal? c).isSome || otherDigits.any fun (first, last) => first ≤ c.toNat && c.toNat ≤ last

/-- `str.isspace` of one character. -/
def isSpace (c : Char) : Bool :=
  [0x9, 0xa, 0xb, 0xc, 0xd, 0x1c, 0x1d, 0x1e, 0x1f, 0x20, 0x85, 0xa0, 0x1680,
   0x2028, 0x2029, 0x202f, 0x205f, 0x3000].contains c.toNat ||
    (0x2000 ≤ c.toNat && c.toNat ≤ 0x200a)

/-! ## Capitals -/

/-- The characters with a capital of several characters. -/
def expansions : List (Nat × List Nat) :=
  [(0xdf, [0x53, 0x53]), (0x149, [0x2bc, 0x4e]), (0x1f0, [0x4a, 0x30c]),
   (0x390, [0x399, 0x308, 0x301]), (0x3b0, [0x3a5, 0x308, 0x301]), (0x587, [0x535, 0x552]),
   (0x1e96, [0x48, 0x331]), (0x1e97, [0x54, 0x308]), (0x1e98, [0x57, 0x30a]),
   (0x1e99, [0x59, 0x30a]), (0x1e9a, [0x41, 0x2be]), (0x1f50, [0x3a5, 0x313]),
   (0x1f52, [0x3a5, 0x313, 0x300]), (0x1f54, [0x3a5, 0x313, 0x301]),
   (0x1f56, [0x3a5, 0x313, 0x342]), (0x1f80, [0x1f08, 0x399]), (0x1f81, [0x1f09, 0x399]),
   (0x1f82, [0x1f0a, 0x399]), (0x1f83, [0x1f0b, 0x399]), (0x1f84, [0x1f0c, 0x399]),
   (0x1f85, [0x1f0d, 0x399]), (0x1f86, [0x1f0e, 0x399]), (0x1f87, [0x1f0f, 0x399]),
   (0x1f88, [0x1f08, 0x399]), (0x1f89, [0x1f09, 0x399]), (0x1f8a, [0x1f0a, 0x399]),
   (0x1f8b, [0x1f0b, 0x399]), (0x1f8c, [0x1f0c, 0x399]), (0x1f8d, [0x1f0d, 0x399]),
   (0x1f8e, [0x1f0e, 0x399]), (0x1f8f, [0x1f0f, 0x399]), (0x1f90, [0x1f28, 0x399]),
   (0x1f91, [0x1f29, 0x399]), (0x1f92, [0x1f2a, 0x399]), (0x1f93, [0x1f2b, 0x399]),
   (0x1f94, [0x1f2c, 0x399]), (0x1f95, [0x1f2d, 0x399]), (0x1f96, [0x1f2e, 0x399]),
   (0x1f97, [0x1f2f, 0x399]), (0x1f98, [0x1f28, 0x399]), (0x1f99, [0x1f29, 0x399]),
   (0x1f9a, [0x1f2a, 0x399]), (0x1f9b, [0x1f2b, 0x399]), (0x1f9c, [0x1f2c, 0x399]),
   (0x1f9d, [0x1f2d, 0x399]), (0x1f9e, [0x1f2e, 0x399]), (0x1f9f, [0x1f2f, 0x399]),
   (0x1fa0, [0x1f68, 0x399]), (0x1fa1, [0x1f69, 0x399]), (0x1fa2, [0x1f6a, 0x399]),
   (0x1fa3, [0x1f6b, 0x399]), (0x1fa4, [0x1f6c, 0x399]), (0x1fa5, [0x1f6d, 0x399]),
   (0x1fa6, [0x1f6e, 0x399]), (0x1fa7, [0x1f6f, 0x399]), (0x1fa8, [0x1f68, 0x399]),
   (0x1fa9, [0x1f69, 0x399]), (0x1faa, [0x1f6a, 0x399]), (0x1fab, [0x1f6b, 0x399]),
   (0x1fac, [0x1f6c, 0x399]), (0x1fad, [0x1f6d, 0x399]), (0x1fae, [0x1f6e, 0x399]),
   (0x1faf, [0x1f6f, 0x399]), (0x1fb2, [0x1fba, 0x399]), (0x1fb3, [0x391, 0x399]),
   (0x1fb4, [0x386, 0x399]), (0x1fb6, [0x391, 0x342]), (0x1fb7, [0x391, 0x342, 0x399]),
   (0x1fbc, [0x391, 0x399]), (0x1fc2, [0x1fca, 0x399]), (0x1fc3, [0x397, 0x399]),
   (0x1fc4, [0x389, 0x399]), (0x1fc6, [0x397, 0x342]), (0x1fc7, [0x397, 0x342, 0x399]),
   (0x1fcc, [0x397, 0x399]), (0x1fd2, [0x399, 0x308, 0x300]), (0x1fd3, [0x399, 0x308, 0x301]),
   (0x1fd6, [0x399, 0x342]), (0x1fd7, [0x399, 0x308, 0x342]), (0x1fe2, [0x3a5, 0x308, 0x300]),
   (0x1fe3, [0x3a5, 0x308, 0x301]), (0x1fe4, [0x3a1, 0x313]), (0x1fe6, [0x3a5, 0x342]),
   (0x1fe7, [0x3a5, 0x308, 0x342]), (0x1ff2, [0x1ffa, 0x399]), (0x1ff3, [0x3a9, 0x399]),
   (0x1ff4, [0x38f, 0x399]), (0x1ff6, [0x3a9, 0x342]), (0x1ff7, [0x3a9, 0x342, 0x399]),
   (0x1ffc, [0x3a9, 0x399]), (0xfb00, [0x46, 0x46]), (0xfb01, [0x46, 0x49]),
   (0xfb02, [0x46, 0x4c]), (0xfb03, [0x46, 0x46, 0x49]), (0xfb04, [0x46, 0x46, 0x4c]),
   (0xfb05, [0x53, 0x54]), (0xfb06, [0x53, 0x54]), (0xfb13, [0x544, 0x546]),
   (0xfb14, [0x544, 0x535]), (0xfb15, [0x544, 0x53b]), (0xfb16, [0x54e, 0x546]),
   (0xfb17, [0x544, 0x53d])]

/-- A run of characters, from the first to the last in steps, whose capitals are all as far
away. -/
structure CaseRun where
  first : Nat
  last : Nat
  step : Nat
  shift : Int

namespace CaseRun

def covers (run : CaseRun) (n : Nat) : Bool :=
  run.first ≤ n && n ≤ run.last && (n - run.first) % run.step = 0

def capital (run : CaseRun) (n : Nat) : Nat := (n + run.shift).toNat

end CaseRun

/-- The other characters with a capital, beyond ASCII. -/
def caseRuns : List CaseRun :=
  [⟨0xb5, 0xb5, 1, 743⟩, ⟨0xe0, 0xf6, 1, -32⟩, ⟨0xf8, 0xfe, 1, -32⟩, ⟨0xff, 0xff, 1, 121⟩,
   ⟨0x101, 0x12f, 2, -1⟩, ⟨0x131, 0x131, 1, -232⟩, ⟨0x133, 0x137, 2, -1⟩, ⟨0x13a, 0x148, 2, -1⟩,
   ⟨0x14b, 0x177, 2, -1⟩, ⟨0x17a, 0x17e, 2, -1⟩, ⟨0x17f, 0x17f, 1, -300⟩, ⟨0x180, 0x180, 1, 195⟩,
   ⟨0x183, 0x185, 2, -1⟩, ⟨0x188, 0x188, 1, -1⟩, ⟨0x18c, 0x18c, 1, -1⟩, ⟨0x192, 0x192, 1, -1⟩,
   ⟨0x195, 0x195, 1, 97⟩, ⟨0x199, 0x199, 1, -1⟩, ⟨0x19a, 0x19a, 1, 163⟩, ⟨0x19e, 0x19e, 1, 130⟩,
   ⟨0x1a1, 0x1a5, 2, -1⟩, ⟨0x1a8, 0x1a8, 1, -1⟩, ⟨0x1ad, 0x1ad, 1, -1⟩, ⟨0x1b0, 0x1b0, 1, -1⟩,
   ⟨0x1b4, 0x1b6, 2, -1⟩, ⟨0x1b9, 0x1b9, 1, -1⟩, ⟨0x1bd, 0x1bd, 1, -1⟩, ⟨0x1bf, 0x1bf, 1, 56⟩,
   ⟨0x1c5, 0x1c5, 1, -1⟩, ⟨0x1c6, 0x1c6, 1, -2⟩, ⟨0x1c8, 0x1c8, 1, -1⟩, ⟨0x1c9, 0x1c9, 1, -2⟩,
   ⟨0x1cb, 0x1cb, 1, -1⟩, ⟨0x1cc, 0x1cc, 1, -2⟩, ⟨0x1ce, 0x1dc, 2, -1⟩, ⟨0x1dd, 0x1dd, 1, -79⟩,
   ⟨0x1df, 0x1ef, 2, -1⟩, ⟨0x1f2, 0x1f2, 1, -1⟩, ⟨0x1f3, 0x1f3, 1, -2⟩, ⟨0x1f5, 0x1f5, 1, -1⟩,
   ⟨0x1f9, 0x21f, 2, -1⟩, ⟨0x223, 0x233, 2, -1⟩, ⟨0x23c, 0x23c, 1, -1⟩, ⟨0x23f, 0x240, 1, 10815⟩,
   ⟨0x242, 0x242, 1, -1⟩, ⟨0x247, 0x24f, 2, -1⟩, ⟨0x250, 0x250, 1, 10783⟩,
   ⟨0x251, 0x251, 1, 10780⟩, ⟨0x252, 0x252, 1, 10782⟩, ⟨0x253, 0x253, 1, -210⟩,
   ⟨0x254, 0x254, 1, -206⟩, ⟨0x256, 0x257, 1, -205⟩, ⟨0x259, 0x259, 1, -202⟩,
   ⟨0x25b, 0x25b, 1, -203⟩, ⟨0x25c, 0x25c, 1, 42319⟩, ⟨0x260, 0x260, 1, -205⟩,
   ⟨0x261, 0x261, 1, 42315⟩, ⟨0x263, 0x263, 1, -207⟩, ⟨0x265, 0x265, 1, 42280⟩,
   ⟨0x266, 0x266, 1, 42308⟩, ⟨0x268, 0x268, 1, -209⟩, ⟨0x269, 0x269, 1, -211⟩,
   ⟨0x26a, 0x26a, 1, 42308⟩, ⟨0x26b, 0x26b, 1, 10743⟩, ⟨0x26c, 0x26c, 1, 42305⟩,
   ⟨0x26f, 0x26f, 1, -211⟩, ⟨0x271, 0x271, 1, 10749⟩, ⟨0x272, 0x272, 1, -213⟩,
   ⟨0x275, 0x275, 1, -214⟩, ⟨0x27d, 0x27d, 1, 10727⟩, ⟨0x280, 0x280, 1, -218⟩,
   ⟨0x282, 0x282, 1, 42307⟩, ⟨0x283, 0x283, 1, -218⟩, ⟨0x287, 0x287, 1, 42282⟩,
   ⟨0x288, 0x288, 1, -218⟩, ⟨0x289, 0x289, 1, -69⟩, ⟨0x28a, 0x28b, 1, -217⟩,
   ⟨0x28c, 0x28c, 1, -71⟩, ⟨0x292, 0x292, 1, -219⟩, ⟨0x29d, 0x29d, 1, 42261⟩,
   ⟨0x29e, 0x29e, 1, 42258⟩, ⟨0x345, 0x345, 1, 84⟩, ⟨0x371, 0x373, 2, -1⟩, ⟨0x377, 0x377, 1, -1⟩,
   ⟨0x37b, 0x37d, 1, 130⟩, ⟨0x3ac, 0x3ac, 1, -38⟩, ⟨0x3ad, 0x3af, 1, -37⟩, ⟨0x3b1, 0x3c1, 1, -32⟩,
   ⟨0x3c2, 0x3c2, 1, -31⟩, ⟨0x3c3, 0x3cb, 1, -32⟩, ⟨0x3cc, 0x3cc, 1, -64⟩, ⟨0x3cd, 0x3ce, 1, -63⟩,
   ⟨0x3d0, 0x3d0, 1, -62⟩, ⟨0x3d1, 0x3d1, 1, -57⟩, ⟨0x3d5, 0x3d5, 1, -47⟩, ⟨0x3d6, 0x3d6, 1, -54⟩,
   ⟨0x3d7, 0x3d7, 1, -8⟩, ⟨0x3d9, 0x3ef, 2, -1⟩, ⟨0x3f0, 0x3f0, 1, -86⟩, ⟨0x3f1, 0x3f1, 1, -80⟩,
   ⟨0x3f2, 0x3f2, 1, 7⟩, ⟨0x3f3, 0x3f3, 1, -116⟩, ⟨0x3f5, 0x3f5, 1, -96⟩, ⟨0x3f8, 0x3f8, 1, -1⟩,
   ⟨0x3fb, 0x3fb, 1, -1⟩, ⟨0x430, 0x44f, 1, -32⟩, ⟨0x450, 0x45f, 1, -80⟩, ⟨0x461, 0x481, 2, -1⟩,
   ⟨0x48b, 0x4bf, 2, -1⟩, ⟨0x4c2, 0x4ce, 2, -1⟩, ⟨0x4cf, 0x4cf, 1, -15⟩, ⟨0x4d1, 0x52f, 2, -1⟩,
   ⟨0x561, 0x586, 1, -48⟩, ⟨0x10d0, 0x10fa, 1, 3008⟩, ⟨0x10fd, 0x10ff, 1, 3008⟩,
   ⟨0x13f8, 0x13fd, 1, -8⟩, ⟨0x1c80, 0x1c80, 1, -6254⟩, ⟨0x1c81, 0x1c81, 1, -6253⟩,
   ⟨0x1c82, 0x1c82, 1, -6244⟩, ⟨0x1c83, 0x1c84, 1, -6242⟩, ⟨0x1c85, 0x1c85, 1, -6243⟩,
   ⟨0x1c86, 0x1c86, 1, -6236⟩, ⟨0x1c87, 0x1c87, 1, -6181⟩, ⟨0x1c88, 0x1c88, 1, 35266⟩,
   ⟨0x1d79, 0x1d79, 1, 35332⟩, ⟨0x1d7d, 0x1d7d, 1, 3814⟩, ⟨0x1d8e, 0x1d8e, 1, 35384⟩,
   ⟨0x1e01, 0x1e95, 2, -1⟩, ⟨0x1e9b, 0x1e9b, 1, -59⟩, ⟨0x1ea1, 0x1eff, 2, -1⟩,
   ⟨0x1f00, 0x1f07, 1, 8⟩, ⟨0x1f10, 0x1f15, 1, 8⟩, ⟨0x1f20, 0x1f27, 1, 8⟩, ⟨0x1f30, 0x1f37, 1, 8⟩,
   ⟨0x1f40, 0x1f45, 1, 8⟩, ⟨0x1f51, 0x1f57, 2, 8⟩, ⟨0x1f60, 0x1f67, 1, 8⟩,
   ⟨0x1f70, 0x1f71, 1, 74⟩, ⟨0x1f72, 0x1f75, 1, 86⟩, ⟨0x1f76, 0x1f77, 1, 100⟩,
   ⟨0x1f78, 0x1f79, 1, 128⟩, ⟨0x1f7a, 0x1f7b, 1, 112⟩, ⟨0x1f7c, 0x1f7d, 1, 126⟩,
   ⟨0x1fb0, 0x1fb1, 1, 8⟩, ⟨0x1fbe, 0x1fbe, 1, -7205⟩, ⟨0x1fd0, 0x1fd1, 1, 8⟩,
   ⟨0x1fe0, 0x1fe1, 1, 8⟩, ⟨0x1fe5, 0x1fe5, 1, 7⟩, ⟨0x214e, 0x214e, 1, -28⟩,
   ⟨0x2170, 0x217f, 1, -16⟩, ⟨0x2184, 0x2184, 1, -1⟩, ⟨0x24d0, 0x24e9, 1, -26⟩,
   ⟨0x2c30, 0x2c5f, 1, -48⟩, ⟨0x2c61, 0x2c61, 1, -1⟩, ⟨0x2c65, 0x2c65, 1, -10795⟩,
   ⟨0x2c66, 0x2c66, 1, -10792⟩, ⟨0x2c68, 0x2c6c, 2, -1⟩, ⟨0x2c73, 0x2c73, 1, -1⟩,
   ⟨0x2c76, 0x2c76, 1, -1⟩, ⟨0x2c81, 0x2ce3, 2, -1⟩, ⟨0x2cec, 0x2cee, 2, -1⟩,
   ⟨0x2cf3, 0x2cf3, 1, -1⟩, ⟨0x2d00, 0x2d25, 1, -7264⟩, ⟨0x2d27, 0x2d27, 1, -7264⟩,
   ⟨0x2d2d, 0x2d2d, 1, -7264⟩, ⟨0xa641, 0xa66d, 2, -1⟩, ⟨0xa681, 0xa69b, 2, -1⟩,
   ⟨0xa723, 0xa72f, 2, -1⟩, ⟨0xa733, 0xa76f, 2, -1⟩, ⟨0xa77a, 0xa77c, 2, -1⟩,
   ⟨0xa77f, 0xa787, 2, -1⟩, ⟨0xa78c, 0xa78c, 1, -1⟩, ⟨0xa791, 0xa793, 2, -1⟩,
   ⟨0xa794, 0xa794, 1, 48⟩, ⟨0xa797, 0xa7a9, 2, -1⟩, ⟨0xa7b5, 0xa7c3, 2, -1⟩,
   ⟨0xa7c8, 0xa7ca, 2, -1⟩, ⟨0xa7d1, 0xa7d1, 1, -1⟩, ⟨0xa7d7, 0xa7d9, 2, -1⟩,
   ⟨0xa7f6, 0xa7f6, 1, -1⟩, ⟨0xab53, 0xab53, 1, -928⟩, ⟨0xab70, 0xabbf, 1, -38864⟩,
   ⟨0xff41, 0xff5a, 1, -32⟩, ⟨0x10428, 0x1044f, 1, -40⟩, ⟨0x104d8, 0x104fb, 1, -40⟩,
   ⟨0x10597, 0x105a1, 1, -39⟩, ⟨0x105a3, 0x105b1, 1, -39⟩, ⟨0x105b3, 0x105b9, 1, -39⟩,
   ⟨0x105bb, 0x105bc, 1, -39⟩, ⟨0x10cc0, 0x10cf2, 1, -64⟩, ⟨0x118c0, 0x118df, 1, -32⟩,
   ⟨0x16e60, 0x16e7f, 1, -32⟩, ⟨0x1e922, 0x1e943, 1, -34⟩]

/-- `str.upper` of one character. -/
def upperChar (c : Char) : List Char :=
  if c.toNat < 0x80 then [c.toUpper]
  else
    match expansions.find? fun entry => entry.1 = c.toNat with
    | some (_, capitals) => capitals.map Char.ofNat
    | none =>
        match caseRuns.find? fun run => run.covers c.toNat with
        | some run => [Char.ofNat (run.capital c.toNat)]
        | none => [c]

/-- `s.upper()`. -/
def upper (s : String) : String := String.ofList (s.toList.flatMap upperChar)

end HeatpumpGateway
