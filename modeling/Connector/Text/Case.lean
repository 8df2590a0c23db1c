import Connector.Text.Letters

/-!
# Case

Upper and lower case of characters and texts.  Most mappings move a whole run of characters, or
every second one, by the same distance, so the tables list runs: the first code point, how many
there are, the step between them and the distance.

* `upperChar`, `lowerChar` — the mapping of one character, which may be several characters.
* `upper`, `lower` — the mapping of a text; a capital sigma that ends a word becomes a final one.
* `foldChar` — the representative of all characters that differ only in case.
-/

namespace Connector.Text

/-- **A run of mappings**: `count` code points from `first` on, `step` apart, each moved by
`distance`. -/
structure CaseRun where
  first : Nat
  count : Nat
  step : Nat
  distance : Int

/-- Where a run sends a code point, if the code point is in it. -/
def CaseRun.map? (run : CaseRun) (code : Nat) : Option Nat :=
  if run.first ≤ code ∧ code < run.first + run.count * run.step
      ∧ (code - run.first) % run.step = 0 then
    some ((code : Int) + run.distance).toNat
  else none

/-- A run from its four numbers: the first in hexadecimal, the others in decimal. -/
def CaseRun.read? (word : String) : Option CaseRun :=
  match word.splitOn "," with
  | [first, count, step, distance] => do
    some ⟨hexNumber first.toList, ← count.toNat?, ← step.toNat?, ← distance.toInt?⟩
  | _ => none

/-- The runs of a table. -/
def caseRuns (text : String) : List CaseRun := (tableWords text).filterMap CaseRun.read?

/-- The first run that has a code point decides. -/
def mapByRuns (runs : List CaseRun) (c : Char) : Char :=
  match runs.findSome? (·.map? c.toNat) with
  | some code => Char.ofNat code
  | none => c

/-- The runs of upper-case mappings. -/
def upperRuns : List CaseRun := caseRuns
  "61,26,1,-32 b5,1,1,743 e0,23,1,-32 f8,7,1,-32 ff,1,1,121 101,24,2,-1 131,1,1,-232 133,3,2,-1
  13a,8,2,-1 14b,23,2,-1 17a,3,2,-1 17f,1,1,-300 180,1,1,195 183,2,2,-1 188,1,1,-1 18c,1,1,-1
  192,1,1,-1 195,1,1,97 199,1,1,-1 19a,1,1,163 19b,1,1,42561 19e,1,1,130 1a1,3,2,-1 1a8,1,1,-1
  1ad,1,1,-1 1b0,1,1,-1 1b4,2,2,-1 1b9,1,1,-1 1bd,1,1,-1 1bf,1,1,56 1c5,1,1,-1 1c6,1,1,-2
  1c8,1,1,-1 1c9,1,1,-2 1cb,1,1,-1 1cc,1,1,-2 1ce,8,2,-1 1dd,1,1,-79 1df,9,2,-1 1f2,1,1,-1
  1f3,1,1,-2 1f5,1,1,-1 1f9,20,2,-1 223,9,2,-1 23c,1,1,-1 23f,2,1,10815 242,1,1,-1 247,5,2,-1
  250,1,1,10783 251,1,1,10780 252,1,1,10782 253,1,1,-210 254,1,1,-206 256,2,1,-205 259,1,1,-202
  25b,1,1,-203 25c,1,1,42319 260,1,1,-205 261,1,1,42315 263,1,1,-207 264,1,1,42343 265,1,1,42280
  266,1,1,42308 268,1,1,-209 269,1,1,-211 26a,1,1,42308 26b,1,1,10743 26c,1,1,42305 26f,1,1,-211
  271,1,1,10749 272,1,1,-213 275,1,1,-214 27d,1,1,10727 280,1,1,-218 282,1,1,42307 283,1,1,-218
  287,1,1,42282 288,1,1,-218 289,1,1,-69 28a,2,1,-217 28c,1,1,-71 292,1,1,-219 29d,1,1,42261
  29e,1,1,42258 345,1,1,84 371,2,2,-1 377,1,1,-1 37b,3,1,130 3ac,1,1,-38 3ad,3,1,-37 3b1,17,1,-32
  3c2,1,1,-31 3c3,9,1,-32 3cc,1,1,-64 3cd,2,1,-63 3d0,1,1,-62 3d1,1,1,-57 3d5,1,1,-47 3d6,1,1,-54
  3d7,1,1,-8 3d9,12,2,-1 3f0,1,1,-86 3f1,1,1,-80 3f2,1,1,7 3f3,1,1,-116 3f5,1,1,-96 3f8,1,1,-1
  3fb,1,1,-1 430,32,1,-32 450,16,1,-80 461,17,2,-1 48b,27,2,-1 4c2,7,2,-1 4cf,1,1,-15 4d1,48,2,-1
  561,38,1,-48 10d0,43,1,3008 10fd,3,1,3008 13f8,6,1,-8 1c80,1,1,-6254 1c81,1,1,-6253
  1c82,1,1,-6244 1c83,2,1,-6242 1c85,1,1,-6243 1c86,1,1,-6236 1c87,1,1,-6181 1c88,1,1,35266
  1c8a,1,1,-1 1d79,1,1,35332 1d7d,1,1,3814 1d8e,1,1,35384 1e01,75,2,-1 1e9b,1,1,-59 1ea1,48,2,-1
  1f00,8,1,8 1f10,6,1,8 1f20,8,1,8 1f30,8,1,8 1f40,6,1,8 1f51,4,2,8 1f60,8,1,8 1f70,2,1,74
  1f72,4,1,86 1f76,2,1,100 1f78,2,1,128 1f7a,2,1,112 1f7c,2,1,126 1fb0,2,1,8 1fbe,1,1,-7205
  1fd0,2,1,8 1fe0,2,1,8 1fe5,1,1,7 214e,1,1,-28 2170,16,1,-16 2184,1,1,-1 24d0,26,1,-26
  2c30,48,1,-48 2c61,1,1,-1 2c65,1,1,-10795 2c66,1,1,-10792 2c68,3,2,-1 2c73,1,1,-1 2c76,1,1,-1
  2c81,50,2,-1 2cec,2,2,-1 2cf3,1,1,-1 2d00,38,1,-7264 2d27,1,1,-7264 2d2d,1,1,-7264 a641,23,2,-1
  a681,14,2,-1 a723,7,2,-1 a733,31,2,-1 a77a,2,2,-1 a77f,5,2,-1 a78c,1,1,-1 a791,2,2,-1
  a794,1,1,48 a797,10,2,-1 a7b5,8,2,-1 a7c8,2,2,-1 a7cd,8,2,-1 a7f6,1,1,-1 ab53,1,1,-928
  ab70,80,1,-38864 ff41,26,1,-32 10428,40,1,-40 104d8,36,1,-40 10597,11,1,-39 105a3,15,1,-39
  105b3,7,1,-39 105bb,2,1,-39 10cc0,51,1,-64 10d70,22,1,-32 118c0,32,1,-32 16e60,32,1,-32
  16ebb,25,1,-27 1e922,34,1,-34"

/-- The runs of lower-case mappings. -/
def lowerRuns : List CaseRun := caseRuns
  "41,26,1,32 c0,23,1,32 d8,7,1,32 100,24,2,1 132,3,2,1 139,8,2,1 14a,23,2,1 178,1,1,-121 179,3,2,1
  181,1,1,210 182,2,2,1 186,1,1,206 187,1,1,1 189,2,1,205 18b,1,1,1 18e,1,1,79 18f,1,1,202
  190,1,1,203 191,1,1,1 193,1,1,205 194,1,1,207 196,1,1,211 197,1,1,209 198,1,1,1 19c,1,1,211
  19d,1,1,213 19f,1,1,214 1a0,3,2,1 1a6,1,1,218 1a7,1,1,1 1a9,1,1,218 1ac,1,1,1 1ae,1,1,218
  1af,1,1,1 1b1,2,1,217 1b3,2,2,1 1b7,1,1,219 1b8,1,1,1 1bc,1,1,1 1c4,1,1,2 1c5,1,1,1 1c7,1,1,2
  1c8,1,1,1 1ca,1,1,2 1cb,9,2,1 1de,9,2,1 1f1,1,1,2 1f2,2,2,1 1f6,1,1,-97 1f7,1,1,-56 1f8,20,2,1
  220,1,1,-130 222,9,2,1 23a,1,1,10795 23b,1,1,1 23d,1,1,-163 23e,1,1,10792 241,1,1,1 243,1,1,-195
  244,1,1,69 245,1,1,71 246,5,2,1 370,2,2,1 376,1,1,1 37f,1,1,116 386,1,1,38 388,3,1,37 38c,1,1,64
  38e,2,1,63 391,17,1,32 3a3,9,1,32 3cf,1,1,8 3d8,12,2,1 3f4,1,1,-60 3f7,1,1,1 3f9,1,1,-7
  3fa,1,1,1 3fd,3,1,-130 400,16,1,80 410,32,1,32 460,17,2,1 48a,27,2,1 4c0,1,1,15 4c1,7,2,1
  4d0,48,2,1 531,38,1,48 10a0,38,1,7264 10c7,1,1,7264 10cd,1,1,7264 13a0,80,1,38864 13f0,6,1,8
  1c89,1,1,1 1c90,43,1,-3008 1cbd,3,1,-3008 1e00,75,2,1 1e9e,1,1,-7615 1ea0,48,2,1 1f08,8,1,-8
  1f18,6,1,-8 1f28,8,1,-8 1f38,8,1,-8 1f48,6,1,-8 1f59,4,2,-8 1f68,8,1,-8 1f88,8,1,-8 1f98,8,1,-8
  1fa8,8,1,-8 1fb8,2,1,-8 1fba,2,1,-74 1fbc,1,1,-9 1fc8,4,1,-86 1fcc,1,1,-9 1fd8,2,1,-8
  1fda,2,1,-100 1fe8,2,1,-8 1fea,2,1,-112 1fec,1,1,-7 1ff8,2,1,-128 1ffa,2,1,-126 1ffc,1,1,-9
  2126,1,1,-7517 212a,1,1,-8383 212b,1,1,-8262 2132,1,1,28 2160,16,1,16 2183,1,1,1 24b6,26,1,26
  2c00,48,1,48 2c60,1,1,1 2c62,1,1,-10743 2c63,1,1,-3814 2c64,1,1,-10727 2c67,3,2,1
  2c6d,1,1,-10780 2c6e,1,1,-10749 2c6f,1,1,-10783 2c70,1,1,-10782 2c72,1,1,1 2c75,1,1,1
  2c7e,2,1,-10815 2c80,50,2,1 2ceb,2,2,1 2cf2,1,1,1 a640,23,2,1 a680,14,2,1 a722,7,2,1 a732,31,2,1
  a779,2,2,1 a77d,1,1,-35332 a77e,5,2,1 a78b,1,1,1 a78d,1,1,-42280 a790,2,2,1 a796,10,2,1
  a7aa,1,1,-42308 a7ab,1,1,-42319 a7ac,1,1,-42315 a7ad,1,1,-42305 a7ae,1,1,-42308 a7b0,1,1,-42258
  a7b1,1,1,-42282 a7b2,1,1,-42261 a7b3,1,1,928 a7b4,8,2,1 a7c4,1,1,-48 a7c5,1,1,-42307
  a7c6,1,1,-35384 a7c7,2,2,1 a7cb,1,1,-42343 a7cc,8,2,1 a7dc,1,1,-42561 a7f5,1,1,1 ff21,26,1,32
  10400,40,1,40 104b0,36,1,40 10570,11,1,39 1057c,15,1,39 1058c,7,1,39 10594,2,1,39 10c80,51,1,64
  10d50,22,1,32 118a0,32,1,32 16e40,32,1,32 16ea0,25,1,27 1e900,34,1,34"

/-- The runs that lead from a character to the least one that differs from it only in case. -/
def foldRuns : List CaseRun := caseRuns
  "61,26,1,-32 e0,23,1,-32 f8,7,1,-32 101,24,2,-1 133,3,2,-1 13a,8,2,-1 14b,23,2,-1 178,1,1,-121
  17a,3,2,-1 17f,1,1,-300 183,2,2,-1 188,1,1,-1 18c,1,1,-1 192,1,1,-1 199,1,1,-1 1a1,3,2,-1
  1a8,1,1,-1 1ad,1,1,-1 1b0,1,1,-1 1b4,2,2,-1 1b9,1,1,-1 1bd,1,1,-1 1c5,1,1,-1 1c6,1,1,-2
  1c8,1,1,-1 1c9,1,1,-2 1cb,1,1,-1 1cc,1,1,-2 1ce,8,2,-1 1dd,1,1,-79 1df,9,2,-1 1f2,1,1,-1
  1f3,1,1,-2 1f5,1,1,-1 1f6,1,1,-97 1f7,1,1,-56 1f9,20,2,-1 220,1,1,-130 223,9,2,-1 23c,1,1,-1
  23d,1,1,-163 242,1,1,-1 243,1,1,-195 247,5,2,-1 253,1,1,-210 254,1,1,-206 256,2,1,-205
  259,1,1,-202 25b,1,1,-203 260,1,1,-205 263,1,1,-207 268,1,1,-209 269,1,1,-211 26f,1,1,-211
  272,1,1,-213 275,1,1,-214 280,1,1,-218 283,1,1,-218 288,1,1,-218 289,1,1,-69 28a,2,1,-217
  28c,1,1,-71 292,1,1,-219 371,2,2,-1 377,1,1,-1 399,1,1,-84 39c,1,1,-743 3ac,1,1,-38 3ad,3,1,-37
  3b1,8,1,-32 3b9,1,1,-116 3ba,2,1,-32 3bc,1,1,-775 3bd,5,1,-32 3c2,1,1,-31 3c3,9,1,-32
  3cc,1,1,-64 3cd,2,1,-63 3d0,1,1,-62 3d1,1,1,-57 3d5,1,1,-47 3d6,1,1,-54 3d7,1,1,-8 3d9,12,2,-1
  3f0,1,1,-86 3f1,1,1,-80 3f3,1,1,-116 3f4,1,1,-92 3f5,1,1,-96 3f8,1,1,-1 3f9,1,1,-7 3fb,1,1,-1
  3fd,3,1,-130 430,32,1,-32 450,16,1,-80 461,17,2,-1 48b,27,2,-1 4c2,7,2,-1 4cf,1,1,-15
  4d1,48,2,-1 561,38,1,-48 13f8,6,1,-8 1c80,1,1,-6254 1c81,1,1,-6253 1c82,1,1,-6244 1c83,2,1,-6242
  1c85,1,1,-6243 1c86,1,1,-6236 1c87,1,1,-6181 1c8a,1,1,-1 1c90,43,1,-3008 1cbd,3,1,-3008
  1e01,75,2,-1 1e9b,1,1,-59 1e9e,1,1,-7615 1ea1,48,2,-1 1f08,8,1,-8 1f18,6,1,-8 1f28,8,1,-8
  1f38,8,1,-8 1f48,6,1,-8 1f59,4,2,-8 1f68,8,1,-8 1f88,8,1,-8 1f98,8,1,-8 1fa8,8,1,-8 1fb8,2,1,-8
  1fba,2,1,-74 1fbc,1,1,-9 1fbe,1,1,-7289 1fc8,4,1,-86 1fcc,1,1,-9 1fd3,1,1,-7235 1fd8,2,1,-8
  1fda,2,1,-100 1fe3,1,1,-7219 1fe8,2,1,-8 1fea,2,1,-112 1fec,1,1,-7 1ff8,2,1,-128 1ffa,2,1,-126
  1ffc,1,1,-9 2126,1,1,-7549 212a,1,1,-8415 212b,1,1,-8294 214e,1,1,-28 2170,16,1,-16 2184,1,1,-1
  24d0,26,1,-26 2c30,48,1,-48 2c61,1,1,-1 2c62,1,1,-10743 2c63,1,1,-3814 2c64,1,1,-10727
  2c65,1,1,-10795 2c66,1,1,-10792 2c68,3,2,-1 2c6d,1,1,-10780 2c6e,1,1,-10749 2c6f,1,1,-10783
  2c70,1,1,-10782 2c73,1,1,-1 2c76,1,1,-1 2c7e,2,1,-10815 2c81,50,2,-1 2cec,2,2,-1 2cf3,1,1,-1
  2d00,38,1,-7264 2d27,1,1,-7264 2d2d,1,1,-7264 a641,5,2,-1 a64a,1,1,-35266 a64b,1,1,-35267
  a64d,17,2,-1 a681,14,2,-1 a723,7,2,-1 a733,31,2,-1 a77a,2,2,-1 a77d,1,1,-35332 a77f,5,2,-1
  a78c,1,1,-1 a78d,1,1,-42280 a791,2,2,-1 a797,10,2,-1 a7aa,1,1,-42308 a7ab,1,1,-42319
  a7ac,1,1,-42315 a7ad,1,1,-42305 a7ae,1,1,-42308 a7b0,1,1,-42258 a7b1,1,1,-42282 a7b2,1,1,-42261
  a7b5,8,2,-1 a7c4,1,1,-48 a7c5,1,1,-42307 a7c6,1,1,-35384 a7c8,2,2,-1 a7cb,1,1,-42343 a7cd,8,2,-1
  a7dc,1,1,-42561 a7f6,1,1,-1 ab53,1,1,-928 ab70,80,1,-38864 fb06,1,1,-1 ff41,26,1,-32
  10428,40,1,-40 104d8,36,1,-40 10597,11,1,-39 105a3,15,1,-39 105b3,7,1,-39 105bb,2,1,-39
  10cc0,51,1,-64 10d70,22,1,-32 118c0,32,1,-32 16e60,32,1,-32 16ebb,25,1,-27 1e922,34,1,-34
  1fd3,1,1,-7235 1fe3,1,1,-7219 fb06,1,1,-1"

/-- Characters whose upper case is several characters. -/
def expandingUpper : String :=
  "df=53+53 149=2bc+4e 1f0=4a+30c 390=399+308+301 3b0=3a5+308+301 587=535+552 1e96=48+331
  1e97=54+308 1e98=57+30a 1e99=59+30a 1e9a=41+2be 1f50=3a5+313 1f52=3a5+313+300 1f54=3a5+313+301
  1f56=3a5+313+342 1f80=1f08+399 1f81=1f09+399 1f82=1f0a+399 1f83=1f0b+399 1f84=1f0c+399
  1f85=1f0d+399 1f86=1f0e+399 1f87=1f0f+399 1f88=1f08+399 1f89=1f09+399 1f8a=1f0a+399
  1f8b=1f0b+399 1f8c=1f0c+399 1f8d=1f0d+399 1f8e=1f0e+399 1f8f=1f0f+399 1f90=1f28+399
  1f91=1f29+399 1f92=1f2a+399 1f93=1f2b+399 1f94=1f2c+399 1f95=1f2d+399 1f96=1f2e+399
  1f97=1f2f+399 1f98=1f28+399 1f99=1f29+399 1f9a=1f2a+399 1f9b=1f2b+399 1f9c=1f2c+399
  1f9d=1f2d+399 1f9e=1f2e+399 1f9f=1f2f+399 1fa0=1f68+399 1fa1=1f69+399 1fa2=1f6a+399
  1fa3=1f6b+399 1fa4=1f6c+399 1fa5=1f6d+399 1fa6=1f6e+399 1fa7=1f6f+399 1fa8=1f68+399
  1fa9=1f69+399 1faa=1f6a+399 1fab=1f6b+399 1fac=1f6c+399 1fad=1f6d+399 1fae=1f6e+399
  1faf=1f6f+399 1fb2=1fba+399 1fb3=391+399 1fb4=386+399 1fb6=391+342 1fb7=391+342+399 1fbc=391+399
  1fc2=1fca+399 1fc3=397+399 1fc4=389+399 1fc6=397+342 1fc7=397+342+399 1fcc=397+399
  1fd2=399+308+300 1fd3=399+308+301 1fd6=399+342 1fd7=399+308+342 1fe2=3a5+308+300
  1fe3=3a5+308+301 1fe4=3a1+313 1fe6=3a5+342 1fe7=3a5+308+342 1ff2=1ffa+399 1ff3=3a9+399
  1ff4=38f+399 1ff6=3a9+342 1ff7=3a9+342+399 1ffc=3a9+399 fb00=46+46 fb01=46+49 fb02=46+4c
  fb03=46+46+49 fb04=46+46+4c fb05=53+54 fb06=53+54 fb13=544+546 fb14=544+535 fb15=544+53b
  fb16=54e+546 fb17=544+53d"

/-- One entry of the table of expansions. -/
def readExpansion? (word : String) : Option (Nat × List Char) :=
  match word.splitOn "=" with
  | [code, codes] =>
    some (hexNumber code.toList,
      (codes.splitOn "+").map fun digits => Char.ofNat (hexNumber digits.toList))
  | _ => none

/-- The expansions by code point. -/
def expansions : List (Nat × List Char) := (tableWords expandingUpper).filterMap readExpansion?

/-- The upper case of a character. -/
def upperChar (c : Char) : List Char :=
  if c.toNat < 0x80 then [c.toUpper]
  else
    match expansions.lookup c.toNat with
    | some cs => cs
    | none => [mapByRuns upperRuns c]

/-- The lower case of a character; the dotted capital I keeps its dot as a mark. -/
def lowerChar (c : Char) : List Char :=
  if c.toNat < 0x80 then [c.toLower]
  else if c.toNat = 0x130 then ['i', '\u0307']
  else [mapByRuns lowerRuns c]

/-- The representative of the characters that differ from `c` only in case. -/
def foldChar (c : Char) : Char := mapByRuns foldRuns c

/-- A text in upper case. -/
def upper (s : String) : String := String.ofList (s.toList.flatMap upperChar)

/-- Whether a cased character comes first, past all that is ignored. -/
def casedAhead (cs : List Char) : Bool :=
  match cs.dropWhile isCaseIgnorable with
  | [] => false
  | c :: _ => isCased c

/-- The lower case of a text whose characters before it are given in reverse. -/
def lowerAfter (before : List Char) : List Char → List Char
  | [] => []
  | c :: rest =>
    let mapped :=
      if c = 'Σ' then
        if casedAhead before && !casedAhead rest then ['ς'] else ['σ']
      else lowerChar c
    mapped ++ lowerAfter (c :: before) rest

/-- A text in lower case. -/
def lower (s : String) : String := String.ofList (lowerAfter [] s.toList)

end Connector.Text
