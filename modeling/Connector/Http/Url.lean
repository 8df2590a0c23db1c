import Connector.Text.Blank
import Connector.Text.Category
import Connector.Text.Split

/-!
# Addresses

An address is a scheme, for most schemes a host with an optional port, and the rest.  Reading an
address is lenient about the rest, which is escaped where it has to be, and strict about the host
and the port.

* `Url` — what of an address matters here: the scheme, and whether there is a host.
* `UrlError` — why a text is no address.
* `Url.parse` — reading.
* `Url.Host.check` — which hosts there are: numeric ones of both kinds, and names.
-/

namespace Connector

/-- **Why a text is no address.** -/
inductive UrlError where
  | noScheme
  | emptyHost
  | badName
  | badCharacter
  | badPort
  | badIPv4
  | badIPv6
  deriving DecidableEq

/-- The message of an error. -/
def UrlError.message : UrlError → String
  | .noScheme => "relative URL without a base"
  | .emptyHost => "empty host"
  | .badName => "invalid international domain name"
  | .badCharacter => "invalid domain character"
  | .badPort => "invalid port number"
  | .badIPv4 => "invalid IPv4 address"
  | .badIPv6 => "invalid IPv6 address"

/-- **An address**, as far as it matters before anything is sent. -/
structure Url where
  scheme : String
  hasHost : Bool
  deriving DecidableEq

namespace Url

/-! ## Numeric hosts -/

namespace Host

/-- The value of a hexadecimal digit. -/
def hex? (c : Char) : Option Nat :=
  if c.isDigit then some (c.toNat - '0'.toNat)
  else if 'a' ≤ c ∧ c ≤ 'f' then some (c.toNat - 'a'.toNat + 10)
  else if 'A' ≤ c ∧ c ≤ 'F' then some (c.toNat - 'A'.toNat + 10)
  else none

/-- The number of digits in a base. -/
def numberIn? (base : Nat) (cs : List Char) : Option Nat :=
  cs.foldlM (fun n c => (hex? c).bind fun d => if d < base then some (base * n + d) else none) 0

/-- One part of an IPv4 address: decimal, octal behind `0`, hexadecimal behind `0x`. -/
def partValue? (cs : List Char) : Option Nat :=
  match cs with
  | [] => none
  | '0' :: 'x' :: rest | '0' :: 'X' :: rest => numberIn? 16 rest
  | ['0'] => some 0
  | '0' :: rest => numberIn? 8 rest
  | cs => numberIn? 10 cs

/-- The parts between dots, without an empty one at the end. -/
def dottedParts (cs : List Char) : List (List Char) :=
  let parts := Text.split ['.'] none cs
  match parts.reverse with
  | [] :: before => if before.isEmpty then parts else before.reverse
  | _ => parts

/-- Whether the last part of a name makes it a numeric address. -/
def endsInNumber (cs : List Char) : Bool :=
  match (dottedParts cs).reverse with
  | last :: _ => !last.isEmpty && (last.all Char.isDigit || (partValue? last).isSome)
  | [] => false

/-- **An IPv4 address**: up to four numbers, of which the last one fills what is left of four
bytes. -/
def isIPv4 (cs : List Char) : Bool :=
  let parts := dottedParts cs
  match parts.mapM partValue? with
  | some numbers =>
    match numbers.reverse with
    | last :: before =>
      parts.length ≤ 4 && before.all (· < 256) && last < Nat.pow 256 (4 - before.length)
    | [] => false
  | none => false

/-- Exactly four decimal numbers of a byte, without leading zeros. -/
def isPlainIPv4 (cs : List Char) : Bool :=
  let parts := Text.split ['.'] none cs
  parts.length = 4 && parts.all fun part =>
    !part.isEmpty && part.all Char.isDigit && (part.length = 1 || part.head? ≠ some '0')
      && (numberIn? 10 part).any (· < 256)

/-- The groups of an IPv6 address from some place on.  `groups` counts those so far, `gap` says
whether two colons have stood for the groups left out. -/
def isGroups : Nat → Nat → Bool → List Char → Bool
  | 0, _, _, _ => false
  | _ + 1, groups, gap, [] => if gap then groups ≤ 8 else groups = 8
  | fuel + 1, groups, gap, ':' :: rest =>
    groups < 8 && !gap && isGroups fuel (groups + 1) true rest
  | fuel + 1, groups, gap, cs =>
    let digits := (cs.take 4).takeWhile fun c => (hex? c).isSome
    groups < 8 &&
      match cs.drop digits.length with
      | [] => isGroups fuel (groups + 1) gap []
      | '.' :: _ =>
        !digits.isEmpty && groups ≤ 6 && isPlainIPv4 cs && (gap || groups = 6)
      | ':' :: rest => !rest.isEmpty && isGroups fuel (groups + 1) gap rest
      | _ => false

/-- **An IPv6 address**: eight groups of up to four digits, where two colons stand for some of
them and the last two may be an IPv4 address. -/
def isIPv6 (cs : List Char) : Bool :=
  match cs with
  | ':' :: ':' :: rest => isGroups (rest.length + 1) 1 true rest
  | ':' :: _ => false
  | [] | [_] => false
  | cs => isGroups (cs.length + 1) 0 false cs

/-! ## Names -/

/-- ASCII characters that no name holds. -/
def isForbidden (c : Char) : Bool :=
  c.toNat ≤ 0x20 || c.toNat = 0x7F || "#/:<>?@[\\]^|%".toList.contains c

/-- A character of a name in its usual form: full-width characters are ASCII, three more full
stops separate labels, and invisible characters are left out. -/
def usualForm? (c : Char) : Option Char :=
  let n := c.toNat
  if 0xFF01 ≤ n ∧ n ≤ 0xFF5E then some (Char.ofNat (n - 0xFF01 + 0x21))
  else if n = 0x3002 ∨ n = 0xFF61 then some '.'
  else if n = 0xAD ∨ n = 0x200B ∨ n = 0x2060 ∨ n = 0xFEFF ∨ (0xFE00 ≤ n ∧ n ≤ 0xFE0F) then none
  else some c

/-- Whether a character beyond ASCII belongs to no name. -/
def isUnusable (c : Char) : Bool :=
  match Text.category c with
  | .cc | .cn | .co | .cs | .zs | .zl | .zp => true
  | _ => false

/-- The byte of two hexadecimal digits behind a percent sign. -/
def escapedByte? (percent high low : UInt8) : Option UInt8 :=
  if percent = 0x25 then
    match hex? (Char.ofNat high.toNat), hex? (Char.ofNat low.toNat) with
    | some x, some y => some (UInt8.ofNat (16 * x + y))
    | _, _ => none
  else none

/-- The bytes of a text, where a percent sign and two digits are one byte. -/
def percentDecoded : List UInt8 → List UInt8
  | a :: b :: c :: rest =>
    match escapedByte? a b c with
    | some byte => byte :: percentDecoded rest
    | none => a :: percentDecoded (b :: c :: rest)
  | bs => bs

/-- The characters of a name once escapes are resolved. -/
def nameOf? (host : List Char) : Option (List Char) :=
  let bytes := percentDecoded (String.ofList host).toUTF8.data.toList
  match String.fromUTF8? ⟨bytes.toArray⟩ with
  | some s => some (s.toList.filterMap usualForm?)
  | none => none

/-- **Whether a host is one** for a scheme whose hosts are names. -/
def check (host : List Char) : Except UrlError Unit :=
  match host with
  | '[' :: rest =>
    match rest.reverse with
    | ']' :: inner => if isIPv6 inner.reverse then .ok () else .error .badIPv6
    | _ => .error .badIPv6
  | host =>
    match nameOf? host with
    | none => .error .badName
    | some name =>
      if name.any fun c => isForbidden c || (c.toNat ≥ 0x80 && isUnusable c) then
        .error .badName
      else if name.isEmpty then .error .emptyHost
      else if endsInNumber name then (if isIPv4 name then .ok () else .error .badIPv4)
      else .ok ()

/-- Whether a host is one for any other scheme. -/
def checkOpaque (host : List Char) : Except UrlError Unit :=
  match host with
  | '[' :: rest =>
    match rest.reverse with
    | ']' :: inner => if isIPv6 inner.reverse then .ok () else .error .badIPv6
    | _ => .error .badIPv6
  | host =>
    if host.any fun c => "\x00\t\n\r #/:<>?@[\\]^|".toList.contains c then .error .badCharacter
    else .ok ()

end Host

/-! ## Reading -/

/-- Schemes whose addresses always have a host. -/
def isSpecial (scheme : String) : Bool := ["http", "https", "ws", "wss", "ftp"].contains scheme

/-- The scheme of an address in lower case, and what follows its colon. -/
def readScheme? (cs : List Char) : Option (String × List Char) :=
  let name := cs.takeWhile fun c => c.isAlphanum || c = '+' || c = '-' || c = '.'
  match name.head?, cs.drop name.length with
  | some first, ':' :: rest =>
    if first.isAlpha then some (String.ofList (name.map Char.toLower), rest) else none
  | _, _ => none

/-- Whether a character ends the part with user, host and port. -/
def endsAuthority (special : Bool) (c : Char) : Bool :=
  c = '/' || c = '?' || c = '#' || (special && c = '\\')

/-- What follows the last at sign. -/
def afterUser (authority : List Char) : List Char × Bool :=
  match (Text.split ['@'] none authority).reverse with
  | last :: before => (last, !before.isEmpty)
  | [] => ([], false)

/-- The host at the start of a part: up to a colon outside brackets. -/
def splitHost (inBrackets : Bool) : List Char → List Char × List Char
  | [] => ([], [])
  | c :: rest =>
    if c = ':' ∧ !inBrackets then ([], c :: rest)
    else
      let inside := if c = '[' then true else if c = ']' then false else inBrackets
      let (host, rest) := splitHost inside rest
      (c :: host, rest)

/-- Whether a port is digits of a number that fits two bytes. -/
def isPort (cs : List Char) : Bool :=
  cs.all Char.isDigit && cs.foldl (fun n c => 10 * n + (c.toNat - '0'.toNat)) 0 < Nat.pow 2 16

/-- **Read what follows the two slashes**: an optional user, the host and an optional port. -/
def readAuthority (scheme : String) (cs : List Char) : Except UrlError Url :=
  let special := isSpecial scheme
  let authority := cs.takeWhile fun c => !endsAuthority special c
  let (hostAndPort, hasUser) := afterUser authority
  let (host, port) := splitHost false hostAndPort
  if host.isEmpty then
    if special || hasUser || !port.isEmpty then .error .emptyHost else .ok ⟨scheme, false⟩
  else do
    if special then Host.check host else Host.checkOpaque host
    match port with
    | _ :: digits => if isPort digits then .ok ⟨scheme, true⟩ else .error .badPort
    | [] => .ok ⟨scheme, true⟩

/-- The host of a file address, which may be absent. -/
def readFile (cs : List Char) : Except UrlError Url :=
  match cs with
  | '/' :: '/' :: rest =>
    let host := rest.takeWhile fun c => !endsAuthority true c
    if host.isEmpty then .ok ⟨"file", false⟩
    else do
      Host.check host
      .ok ⟨"file", true⟩
  | _ => .ok ⟨"file", false⟩

/-- Whether a character is a blank or a control character. -/
def isControl (c : Char) : Bool := c.toNat ≤ 0x20

/-- **Read an address.**  Blanks around it and line breaks inside it do not count. -/
def parse (text : String) : Except UrlError Url :=
  let cs := (Text.stripBoth isControl text.toList).filter fun c =>
    c ≠ '\t' ∧ c ≠ '\n' ∧ c ≠ '\r'
  match readScheme? cs with
  | none => .error .noScheme
  | some (scheme, rest) =>
    if scheme = "file" then readFile rest
    else if isSpecial scheme then
      readAuthority scheme (rest.dropWhile fun c => c = '/' || c = '\\')
    else
      match rest with
      | '/' :: '/' :: rest => readAuthority scheme rest
      | _ => .ok ⟨scheme, false⟩

end Url

end Connector
