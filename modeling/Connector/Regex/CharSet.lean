import Connector.Text.Blank
import Connector.Text.Case
import Connector.Text.Script

/-!
# Sets of characters

A class in a pattern denotes a set of characters, built from ranges and character properties by
the operations of sets.  A set says of each character whether it is a member; nothing is ever
listed.

* `CharSet` — the expressions for sets.
* `CharSet.has` — membership.
* `CharSet.property?` — the set of a named property: a general category, a script or one of the
  derived properties.
* `Text.isWordChar` — the characters that words are made of.
-/

namespace Connector

namespace Text

/-- **The characters of words**: letters, marks, decimal digits, connectors and the two joiners. -/
def isWordChar (c : Char) : Bool :=
  isAlphabetic c || (category c).isMark || category c = .nd || category c = .pc
    || c = '\u200c' || c = '\u200d'

/-- The characters of words within ASCII. -/
def isAsciiWordChar (c : Char) : Bool := c.isAlphanum || c = '_'

/-- The code point that a run of case mappings sends to another one. -/
def CaseRun.source? (run : CaseRun) (code : Nat) : Option Nat :=
  let source := ((code : Int) - run.distance).toNat
  if run.map? source = some code then some source else none

/-- **The characters that differ from `c` only in case**, `c` among them. -/
def caseVariants (c : Char) : List Char :=
  let least := foldChar c
  least :: (foldRuns.filterMap (·.source? least.toNat)).map Char.ofNat

/-- The characters that differ from `c` only in case, within ASCII. -/
def asciiCaseVariants (c : Char) : List Char := [c.toLower, c.toUpper]

end Text

/-- **An expression for a set of characters.** -/
inductive CharSet where
  | single (c : Char)
  | between (first last : Char)
  | ranges (rs : List Text.Range)
  | satisfying (test : Char → Bool)
  | empty
  | compl (s : CharSet)
  | union (s t : CharSet)
  | inter (s t : CharSet)
  /-- All characters that differ only in case from a member. -/
  | caseless (s : CharSet)
  /-- The same within ASCII. -/
  | asciiCaseless (s : CharSet)

namespace CharSet

/-- **Membership.** -/
def has : CharSet → Char → Bool
  | .single d, c => c = d
  | .between first last, c => first ≤ c && c ≤ last
  | .ranges rs, c => Text.contains rs c
  | .satisfying test, c => test c
  | .empty, _ => false
  | .compl s, c => !s.has c
  | .union s t, c => s.has c || t.has c
  | .inter s t, c => s.has c && t.has c
  | .caseless s, c => (Text.caseVariants c).any s.has
  | .asciiCaseless s, c => (Text.asciiCaseVariants c).any s.has

/-- The members of the first set that are not in the second. -/
def minus (s t : CharSet) : CharSet := .inter s (.compl t)

/-- The members of exactly one of two sets. -/
def symmetric (s t : CharSet) : CharSet := .union (minus s t) (minus t s)

/-! ## Named properties -/

open Text

/-- The set of the characters of some categories. -/
def ofCategories (cs : List Category) : CharSet := .ranges (rangesOf cs.contains)

/-- The general categories and their groups under each of their names, in compared form. -/
def categoryNames : List (String × List Category) :=
  [("c other", [.cc, .cf, .cn, .co, .cs]), ("cc control cntrl", [.cc]), ("cf format", [.cf]),
    ("cn unassigned", [.cn]), ("co privateuse", [.co]), ("cs surrogate", [.cs]),
    ("l letter", [.lu, .ll, .lt, .lm, .lo]), ("lc casedletter", [.lu, .ll, .lt]),
    ("ll lowercaseletter", [.ll]), ("lm modifierletter", [.lm]), ("lo otherletter", [.lo]),
    ("lt titlecaseletter", [.lt]), ("lu uppercaseletter", [.lu]),
    ("m mark combiningmark", [.mn, .mc, .me]), ("mc spacingmark", [.mc]),
    ("me enclosingmark", [.me]), ("mn nonspacingmark", [.mn]), ("n number", [.nd, .nl, .no]),
    ("nd decimalnumber digit", [.nd]), ("nl letternumber", [.nl]), ("no othernumber", [.no]),
    ("p punctuation punct", [.pc, .pd, .ps, .pe, .pi, .pf, .po]),
    ("pc connectorpunctuation", [.pc]), ("pd dashpunctuation", [.pd]),
    ("pe closepunctuation", [.pe]), ("pf finalpunctuation", [.pf]),
    ("pi initialpunctuation", [.pi]), ("po otherpunctuation", [.po]),
    ("ps openpunctuation", [.ps]), ("s symbol", [.sm, .sc, .sk, .so]), ("sc currencysymbol", [.sc]),
    ("sk modifiersymbol", [.sk]), ("sm mathsymbol", [.sm]), ("so othersymbol", [.so]),
    ("z separator", [.zs, .zl, .zp]), ("zl lineseparator", [.zl]),
    ("zp paragraphseparator", [.zp]), ("zs spaceseparator", [.zs])]

/-- The set of a general category. -/
def category? (name : String) : Option CharSet :=
  if name = "any" then some (.compl .empty)
  else if name = "assigned" then some (.compl (ofCategories [.cn]))
  else if name = "ascii" then some (.between '\x00' '\x7f')
  else
    (categoryNames.find? fun entry => (entry.1.splitOn " ").contains name).map fun entry =>
      ofCategories entry.2

/-- Letters that ideographic writing consists of. -/
def ideographic : List Range := Text.ranges
  "3006-3007 3021-3029 3038-303a 3400-4dbf 4e00-9fff f900-fa6d fa70-fad9 16fe4 17000-187f7
  18800-18cd5 18cff-18d08 1b170-1b2fb 20000-2a6df 2a700-2b739 2b740-2b81d 2b820-2cea1 2ceb0-2ebe0
  2ebf0-2ee5d 2f800-2fa1d 30000-3134a 31350-323af"

/-- Characters that may be shown as small pictures. -/
def emoji : List Range := Text.ranges
  "23 2a 30-39 a9 ae 203c 2049 2122 2139 2194-2199 21a9-21aa 231a-231b 2328 23cf 23e9-23f3 23f8-23fa
  24c2 25aa-25ab 25b6 25c0 25fb-25fe 2600-2604 260e 2611 2614-2615 2618 261d 2620 2622-2623 2626 262a
  262e-262f 2638-263a 2640 2642 2648-2653 265f-2660 2663 2665-2666 2668 267b 267e-267f 2692-2697 2699
  269b-269c 26a0-26a1 26a7 26aa-26ab 26b0-26b1 26bd-26be 26c4-26c5 26c8 26ce-26cf 26d1 26d3-26d4
  26e9-26ea 26f0-26f5 26f7-26fa 26fd 2702 2705 2708-270d 270f 2712 2714 2716 271d 2721 2728 2733-2734
  2744 2747 274c 274e 2753-2755 2757 2763-2764 2795-2797 27a1 27b0 27bf 2934-2935 2b05-2b07 2b1b-2b1c
  2b50 2b55 3030 303d 3297 3299 1f004 1f0cf 1f170-1f171 1f17e-1f17f 1f18e 1f191-1f19a 1f1e6-1f1ff
  1f201-1f202 1f21a 1f22f 1f232-1f23a 1f250-1f251 1f300-1f321 1f324-1f393 1f396-1f397 1f399-1f39b
  1f39e-1f3f0 1f3f3-1f3f5 1f3f7-1f4fd 1f4ff-1f53d 1f549-1f54e 1f550-1f567 1f56f-1f570 1f573-1f57a
  1f587 1f58a-1f58d 1f590 1f595-1f596 1f5a4-1f5a5 1f5a8 1f5b1-1f5b2 1f5bc 1f5c2-1f5c4 1f5d1-1f5d3
  1f5dc-1f5de 1f5e1 1f5e3 1f5e8 1f5ef 1f5f3 1f5fa-1f64f 1f680-1f6c5 1f6cb-1f6d2 1f6d5-1f6d7
  1f6dc-1f6e5 1f6e9 1f6eb-1f6ec 1f6f0 1f6f3-1f6fc 1f7e0-1f7eb 1f7f0 1f90c-1f93a 1f93c-1f945
  1f947-1f9ff 1fa70-1fa7c 1fa80-1fa89 1fa8f-1fac6 1face-1fadc 1fadf-1fae9 1faf0-1faf8"

/-- The derived properties under each of their names, in compared form. -/
def propertyNames : List (String × CharSet) :=
  [("alphabetic alpha", .satisfying isAlphabetic), ("lowercase lower", .satisfying isLower),
    ("uppercase upper", .satisfying isUpper), ("whitespace wspace space", .satisfying isBlank),
    ("cased", .satisfying isCased), ("caseignorable ci", .satisfying isCaseIgnorable),
    ("asciihexdigit ahex", .ranges (Text.ranges "30-39 41-46 61-66")),
    ("hexdigit hex", .ranges (Text.ranges "30-39 41-46 61-66 ff10-ff19 ff21-ff26 ff41-ff46")),
    ("joincontrol joinc", .ranges (Text.ranges "200c-200d")),
    ("dash", .ranges (Text.ranges
      "2d 58a 5be 1400 1806 2010-2015 2053 207b 208b 2212 2e17 2e1a 2e3a-2e3b 2e40 2e5d 301c 3030
      30a0 fe31-fe32 fe58 fe63 ff0d 10d6e 10ead")),
    ("quotationmark qmark", .ranges (Text.ranges
      "22 27 ab bb 2018-201f 2039-203a 2e42 300c-300f 301d-301f fe41-fe44 ff02 ff07 ff62-ff63")),
    ("ideographic ideo", .ranges ideographic), ("emoji", .ranges emoji)]

/-- The set of a derived property. -/
def derived? (name : String) : Option CharSet :=
  (propertyNames.find? fun entry => (entry.1.splitOn " ").contains name).map (·.2)

/-- A name as it is compared: without a leading `is`, except that `isc` is the category of other
characters. -/
def propertyName (name : String) : String :=
  let loose := looseName (String.ofList (name.toList.filter fun c => c.toNat < 0x80))
  match loose.toList with
  | ['i', 's', 'c'] => "c"
  | 'i' :: 's' :: rest => String.ofList rest
  | _ => loose

/-- **The set of a property** known by one name. -/
def property? (name : String) : Option CharSet :=
  let name := propertyName name
  match derived? name with
  | some s => some s
  | none =>
    match category? name with
    | some s => some s
    | none => (script? name).map .ranges

/-- The set of the characters for which a property has a value. -/
def propertyValue? (name value : String) : Option CharSet :=
  let name := propertyName name
  let value := propertyName value
  if name = "gc" ∨ name = "generalcategory" then category? value
  else if name = "sc" ∨ name = "script" ∨ name = "scx" ∨ name = "scriptextensions" then
    (script? value).map .ranges
  else none

end CharSet

end Connector
