import Connector.Decimal.Extended
import Connector.Template.Fault
import Connector.Text.Blank
import Connector.Text.Ranges

/-!
# Tokens

A template is text with three kinds of insets: output between double braces, statements between
a brace and a percent sign, comments between a brace and a hash sign.  Inside the first two,
tokens are separated by blanks; everything outside is one token of plain text.

* `Token` — the tokens.
* `Token.ofTemplate` — the tokens of a template.
* `Token.ofExpression` — the tokens of an expression that stands by itself.

A minus sign at the inner side of a bracket removes the blanks on its outer side.  One line break
at the very end of a template does not count.  Where the text stops being a sequence of tokens the
list ends with a `fault`, so that whoever reads the tokens in order meets the first fault first.
-/

namespace Connector.Template

/-- The signs of expressions. -/
inductive Sign where
  | plus | minus | times | over | overFloor | power | modulo
  | dot | comma | colon | tilde | bar | assign
  | equal | notEqual | less | lessEqual | greater | greaterEqual
  | openParen | closeParen | openBracket | closeBracket | openBrace | closeBrace
  deriving DecidableEq

/-- **The tokens of a template.** -/
inductive Token where
  | plain (text : String)
  | openOutput
  | closeOutput
  | openStatement
  | closeStatement
  | name (text : String)
  | str (text : String)
  | int (n : Nat)
  | float (x : Extended)
  | sign (s : Sign)
  | fault (why : Fault)
  deriving DecidableEq

namespace Token

/-! ## Words, numbers and strings -/

/-- The first character of a name. -/
def startsName (c : Char) : Bool := c.isAlpha || c = '_'

/-- A further character of a name. -/
def continuesName (c : Char) : Bool := c.isAlphanum || c = '_'

/-- Where the scan of a number is. -/
inductive NumberPart where
  | whole | fraction | mark | exponent
  deriving DecidableEq

/-- The part that a further character leads to, if the number goes on with it. -/
def NumberPart.next? (part : NumberPart) (c : Char) : Option NumberPart :=
  match part, c with
  | .whole, '.' => some .fraction
  | .mark, '+' => some .exponent
  | .mark, '-' => some .exponent
  | part, c =>
    if (c = 'e' ∨ c = 'E') ∧ (part = .whole ∨ part = .fraction) then some .mark
    else if c.isDigit then some (if part = .mark then .exponent else part)
    else if c = '_' then some part
    else none

/-- The characters of a decimal number, the part it ends in, and the rest. -/
def takeDecimal (part : NumberPart) : List Char → List Char × NumberPart × List Char
  | [] => ([], part, [])
  | c :: rest =>
    match part.next? c with
    | none => ([], part, c :: rest)
    | some next =>
      let (taken, last, rest) := takeDecimal next rest
      (c :: taken, last, rest)

/-- The value of a digit in any base up to sixteen. -/
def digitValue? (c : Char) : Option Nat :=
  if c.isDigit || ('a' ≤ c ∧ c ≤ 'f') || ('A' ≤ c ∧ c ≤ 'F') then some (Text.hexDigitValue c)
  else none

/-- The value of digits in a base; no digits have none. -/
def digitsValue? (base : Nat) (digits : List Char) : Option Nat :=
  if digits.isEmpty then none
  else
    digits.foldlM (fun n c => do
      let d ← digitValue? c
      if d < base then some (base * n + d) else none) 0

/-- The integer of digits, if it fits 128 bits; underscores between them do not count. -/
def integerToken (base : Nat) (digits : List Char) : Token :=
  if digits.getLast? = some '_' then .fault .syntaxError
  else
    match digitsValue? base (digits.filter (· ≠ '_')) with
    | some n => if n < Nat.pow 2 128 then .int n else .fault .syntaxError
    | none => .fault .syntaxError

/-- The number of a decimal spelling with a fraction or an exponent. -/
def floatToken (spelling : List Char) : Token :=
  if spelling.getLast? = some '_' then .fault .syntaxError
  else
    match Decimal.readFloat? (String.ofList (spelling.filter (· ≠ '_'))) with
    | some x => .float (Extended.ofFloat x)
    | none => .fault .syntaxError

/-- The base that a prefix of two characters announces. -/
def base? : List Char → Option Nat
  | '0' :: c :: _ =>
    if c = 'b' ∨ c = 'B' then some 2
    else if c = 'o' ∨ c = 'O' then some 8
    else if c = 'x' ∨ c = 'X' then some 16
    else none
  | _ => none

/-- **A number** at the start of a text. -/
def readNumber (cs : List Char) : Token × List Char :=
  match base? cs with
  | some base =>
    let inNumber := fun c : Char => c.isDigit || c = '_' || (base == 16 && (digitValue? c).isSome)
    let cs := cs.drop 2
    (integerToken base (cs.takeWhile inNumber), cs.dropWhile inNumber)
  | none =>
    let (spelling, part, rest) := takeDecimal .whole cs
    (if part = .whole then integerToken 10 spelling else floatToken spelling, rest)

/-- The characters of a string up to its delimiter, with escapes left as they are. -/
def takeString (delimiter : Char) : List Char → Option (List Char × List Char)
  | [] => none
  | '\\' :: c :: rest => (takeString delimiter rest).map fun (s, r) => ('\\' :: c :: s, r)
  | c :: rest =>
    if c = delimiter then some ([], rest)
    else (takeString delimiter rest).map fun (s, r) => (c :: s, r)

/-- Four hexadecimal digits; a plus sign may stand for the first. -/
def readUnit? : List Char → Option (Nat × List Char)
  | a :: b :: c :: d :: rest =>
    (digitsValue? 16 (if a = '+' then [b, c, d] else [a, b, c, d])).map fun n => (n, rest)
  | _ => none

/-- **The characters that a string denotes.**  `pending` is the first half of a surrogate pair
that waits for its second. -/
def unescape? (pending : Option Nat) : List Char → Option (List Char)
  | [] => if pending.isSome then none else some []
  | '\\' :: 'u' :: a :: b :: c :: d :: rest =>
    match readUnit? [a, b, c, d] with
    | none => none
    | some (n, _) =>
      match pending with
      | some high =>
        if 0xDC00 ≤ n ∧ n ≤ 0xDFFF ∧ high < 0xDC00 then
          (unescape? none rest).map fun s =>
            Char.ofNat (0x10000 + (high - 0xD800) * 0x400 + (n - 0xDC00)) :: s
        else none
      | none =>
        if 0xD800 ≤ n ∧ n ≤ 0xDFFF then unescape? (some n) rest
        else (unescape? none rest).map fun s => Char.ofNat n :: s
  | '\\' :: e :: rest =>
    let simple : Option Char := match e with
      | '"' => some '"'
      | '\\' => some '\\'
      | '/' => some '/'
      | '\'' => some '\''
      | 'b' => some '\x08'
      | 'f' => some '\x0c'
      | 'n' => some '\n'
      | 'r' => some '\r'
      | 't' => some '\t'
      | _ => none
    match simple, pending with
    | some c, none => (unescape? none rest).map fun s => c :: s
    | _, _ => none
  | c :: rest =>
    if c = '\\' ∨ pending.isSome then none else (unescape? none rest).map fun s => c :: s

/-- **A string** after its opening delimiter. -/
def readStringToken (delimiter : Char) (cs : List Char) : Token × List Char :=
  match takeString delimiter cs with
  | none => (.fault .syntaxError, [])
  | some (s, rest) =>
    match unescape? none s with
    | some s => (.str (String.ofList s), rest)
    | none => (.fault .badStringEscape, [])

/-- The signs of two characters. -/
def wideSign? : Char → Char → Option Sign
  | '/', '/' => some .overFloor
  | '*', '*' => some .power
  | '=', '=' => some .equal
  | '!', '=' => some .notEqual
  | '>', '=' => some .greaterEqual
  | '<', '=' => some .lessEqual
  | _, _ => none

/-- The signs of one character. -/
def narrowSign? : Char → Option Sign
  | '+' => some .plus
  | '-' => some .minus
  | '*' => some .times
  | '/' => some .over
  | '%' => some .modulo
  | '.' => some .dot
  | ',' => some .comma
  | ':' => some .colon
  | '~' => some .tilde
  | '|' => some .bar
  | '=' => some .assign
  | '<' => some .less
  | '>' => some .greater
  | '(' => some .openParen
  | ')' => some .closeParen
  | '[' => some .openBracket
  | ']' => some .closeBracket
  | '\x7b' => some .openBrace
  | '\x7d' => some .closeBrace
  | _ => none

/-- The sign at the start of a text. -/
def readSign? : List Char → Option (Sign × List Char)
  | c :: d :: rest =>
    match wideSign? c d with
    | some s => some (s, rest)
    | none => (narrowSign? c).map fun s => (s, d :: rest)
  | [c] => (narrowSign? c).map fun s => (s, [])
  | [] => none

/-- **The token at the start of an inset**, which is not a blank. -/
def readToken (cs : List Char) : Token × List Char :=
  match readSign? cs with
  | some (s, rest) => (.sign s, rest)
  | none =>
    match cs with
    | [] => (.fault .syntaxError, [])
    | c :: rest =>
      if c = '\'' ∨ c = '"' then readStringToken c rest
      else if c.isDigit then readNumber cs
      else if startsName c then
        (.name (String.ofList (cs.takeWhile continuesName)), cs.dropWhile continuesName)
      else (.fault .syntaxError, [])

/-- How a token changes the number of open brackets. -/
def depthChange : Token → Int
  | .sign .openParen | .sign .openBracket | .sign .openBrace => 1
  | .sign .closeParen | .sign .closeBracket | .sign .closeBrace => -1
  | _ => 0

/-! ## Plain text and insets -/

/-- The blanks between the tokens of an inset. -/
def isInsetBlank (c : Char) : Bool :=
  c = ' ' || c = '\t' || c = '\n' || c = '\r' || c = '\x0c'

/-- The three kinds of insets. -/
inductive Inset where
  | output | statement | comment
  deriving DecidableEq

/-- The inset that begins here, if one does. -/
def opensInset? : List Char → Option Inset
  | '\x7b' :: '\x7b' :: _ => some .output
  | '\x7b' :: '%' :: _ => some .statement
  | '\x7b' :: '#' :: _ => some .comment
  | _ => none

/-- The text before the first inset, the inset, and what follows its opening bracket. -/
def findInset : List Char → List Char × Option (Inset × List Char)
  | [] => ([], none)
  | c :: rest =>
    match opensInset? (c :: rest) with
    | some inset => ([], some (inset, rest.drop 1))
    | none =>
      let (before, found) := findInset rest
      (c :: before, found)

/-- What an opening or closing bracket does to the blanks outside of it. -/
inductive Trim where
  | keep | remove
  deriving DecidableEq

/-- The sign at the inner side of an opening bracket. -/
def openingTrim : List Char → Trim × List Char
  | '-' :: rest => (.remove, rest)
  | '+' :: rest => (.keep, rest)
  | cs => (.keep, cs)

/-- The end of a statement, if it comes here. -/
def statementEnd? : List Char → Option (Trim × List Char)
  | '-' :: '%' :: '\x7d' :: rest => some (.remove, rest)
  | '+' :: '%' :: '\x7d' :: rest => some (.keep, rest)
  | '%' :: '\x7d' :: rest => some (.keep, rest)
  | _ => none

/-- The end of an output, if it comes here. -/
def outputEnd? : List Char → Option (Trim × List Char)
  | '-' :: '\x7d' :: '\x7d' :: rest => some (.remove, rest)
  | '\x7d' :: '\x7d' :: rest => some (.keep, rest)
  | _ => none

/-- What follows the end of a comment; `minus` says whether the character before is a minus. -/
def commentEnd? (minus : Bool) : List Char → Option (Trim × List Char)
  | '#' :: '\x7d' :: rest => some (if minus then .remove else .keep, rest)
  | c :: rest => commentEnd? (c = '-') rest
  | [] => none

/-- A statement that is a single word, read after the opening bracket and its sign. -/
def wordStatement? (word : List Char) (cs : List Char) : Option (Trim × List Char) :=
  let cs := cs.dropWhile isInsetBlank
  if word.isPrefixOf cs then statementEnd? ((cs.drop word.length).dropWhile isInsetBlank) else none

/-- **Raw text**: everything up to the statement that ends it, with that statement's signs. -/
def rawText? : List Char → Option (List Char × Trim × Trim × List Char)
  | [] => none
  | c :: rest =>
    let goOn := fun _ : Unit => (rawText? rest).map fun (s, t) => (c :: s, t)
    match c, rest with
    | '\x7b', '%' :: inner =>
      let (before, inner) := openingTrim inner
      match wordStatement? ['e', 'n', 'd', 'r', 'a', 'w'] inner with
      | some (behind, rest) => some ([], before, behind, rest)
      | none => goOn ()
    | _, _ => goOn ()

/-- Plain text with the blanks removed at the ends where brackets ask for it. -/
def trimmed (start finish : Trim) (cs : List Char) : List Char :=
  let cs := if start = .remove then cs.dropWhile Text.isBlank else cs
  if finish = .remove then Text.dropEndBlanks cs else cs

/-- A token of plain text, unless there is none. -/
def plainToken (cs : List Char) : List Token :=
  if cs.isEmpty then [] else [.plain (String.ofList cs)]

/-- Where the scan of a template is: in plain text whose leading blanks may have to go, or in an
inset with a number of open brackets.  An expression by itself is an inset without end. -/
inductive Place where
  | text (start : Trim)
  | inset (ends : Option Inset) (depth : Int)

/-- The end of an inset, which is not looked for inside brackets. -/
def insetEnd? (ends : Option Inset) (depth : Int) (cs : List Char) :
    Option (Token × Trim × List Char) :=
  if depth ≠ 0 then none
  else
    match ends with
    | some .output => (outputEnd? cs).map fun (t, rest) => (.closeOutput, t, rest)
    | some .statement => (statementEnd? cs).map fun (t, rest) => (.closeStatement, t, rest)
    | _ => none

/-- **The tokens from a place on.**  Every step takes one unit of `fuel` and at least one
character, unless it ends the text. -/
def scan : Nat → Place → List Char → List Token
  | 0, _, _ => []
  | fuel + 1, .text start, cs =>
    match findInset (if start = .remove then cs.dropWhile Text.isBlank else cs) with
    | (before, none) => plainToken before
    | (before, some (inset, inner)) =>
      let (trim, inner) := openingTrim inner
      plainToken (trimmed .keep trim before) ++
        match inset with
        | .comment =>
          match commentEnd? false inner with
          | some (trim, rest) => scan fuel (.text trim) rest
          | none => [.fault .syntaxError]
        | .output => .openOutput :: scan fuel (.inset (some .output) 0) inner
        | .statement =>
          match wordStatement? ['r', 'a', 'w'] inner with
          | some (start, rest) =>
            match rawText? rest with
            | some (raw, finish, trim, rest) =>
              plainToken (trimmed start finish raw) ++ scan fuel (.text trim) rest
            | none => [.fault .syntaxError]
          | none => .openStatement :: scan fuel (.inset (some .statement) 0) inner
  | fuel + 1, .inset ends depth, cs =>
    match cs.dropWhile isInsetBlank with
    | [] => []
    | c :: rest =>
      match insetEnd? ends depth (c :: rest) with
      | some (token, trim, rest) => token :: scan fuel (.text trim) rest
      | none =>
        match readToken (c :: rest) with
        | (.fault why, _) => [.fault why]
        | (token, rest) => token :: scan fuel (.inset ends (depth + token.depthChange)) rest

/-- A template without one line break at its end. -/
def dropLineEnd (cs : List Char) : List Char :=
  match cs.reverse with
  | '\n' :: '\r' :: rest => rest.reverse
  | '\n' :: rest => rest.reverse
  | '\r' :: rest => rest.reverse
  | _ => cs

/-- **The tokens of a template.** -/
def ofTemplate (source : String) : List Token :=
  let cs := dropLineEnd source.toList
  scan (cs.length + 2) (.text .keep) cs

/-- **The tokens of an expression that stands by itself.** -/
def ofExpression (source : String) : List Token :=
  let cs := source.toList
  scan (cs.length + 1) (.inset none 0) cs

end Token

end Connector.Template
