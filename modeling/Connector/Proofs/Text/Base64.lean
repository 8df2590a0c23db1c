import Connector.Text.Base64
import Mathlib.Algebra.Group.Nat.Defs
import Mathlib.Data.List.Basic
import Mathlib.Data.List.Induction
import Mathlib.Tactic.Common

/-!
# Reading base 64

The characters of a group write a number, six bits each, and so do its bytes, eight bits each; in a
group that is filled up some bits are left over, and these are zero.  So every list of bytes has one
text, and that text alone is read as these bytes.

* `Text.Base64.number?`, `Text.Base64.digits` — numbers in characters.
* `Text.Base64.ofBytes`, `Text.Base64.toBytes` — numbers in bytes.
* `Text.Base64.group?` — the bytes of one group; `group?_digits` and `digits_of_group?` are the two
  ways between its bytes and its digits.
* `Text.Base64.decode?` — **the bytes of a text**.
* **`Text.Base64.decode?_eq_some_iff`** — a text is read as the bytes that it is the text of.
-/

namespace Connector.Text.Base64

/-! ## One character and several -/

/-- The six bits of a character. -/
def value? (c : Char) : Option Nat :=
  if 'A'.toNat ≤ c.toNat ∧ c.toNat ≤ 'Z'.toNat then some (c.toNat - 'A'.toNat)
  else if 'a'.toNat ≤ c.toNat ∧ c.toNat ≤ 'z'.toNat then some (c.toNat - 'a'.toNat + 26)
  else if '0'.toNat ≤ c.toNat ∧ c.toNat ≤ '9'.toNat then some (c.toNat - '0'.toNat + 52)
  else if c = '+' then some 62
  else if c = '/' then some 63
  else none

/-- Every digit has its value back. -/
lemma value?_digit : ∀ n < 2 ^ 6, value? (digit n) = some n := by decide

lemma digit_ne_pad : ∀ n < 2 ^ 6, digit n ≠ '=' := by decide

/-- The characters are among the first ones, which can be gone through. -/
lemma digit_of_small : ∀ m < 123, ∀ n ∈ value? (Char.ofNat m),
    n < 2 ^ 6 ∧ digit n = Char.ofNat m := by decide

/-- Digits are among the first characters of all, which may be decided one by one. -/
lemma toNat_lt_of_value? {c : Char} {n : Nat} (h : value? c = some n) : c.toNat < 123 := by
  have upper : 'Z'.toNat = 90 := by decide
  have lower : 'z'.toNat = 122 := by decide
  have decimal : '9'.toNat = 57 := by decide
  unfold value? at h
  split_ifs at h with hu hl hd hp hs
  · omega
  · omega
  · omega
  · rw [hp]
    decide
  · rw [hs]
    decide

/-- Every value has its digit back. -/
lemma digit_of_value? {c : Char} {n : Nat} (h : value? c = some n) : n < 2 ^ 6 ∧ digit n = c := by
  have small := digit_of_small c.toNat (toNat_lt_of_value? h)
  rw [Char.ofNat_toNat] at small
  exact small n h

/-- The number that characters write. -/
def number? (cs : List Char) : Option Nat :=
  cs.foldlM (fun n c => (value? c).map (n * 2 ^ 6 + ·)) 0

/-- The last digits of a number, as many as are wanted. -/
def digits : Nat → Nat → List Char
  | 0, _ => []
  | k + 1, n => digits k (n / 2 ^ 6) ++ [digit (n % 2 ^ 6)]

/-- A digit more at the end is a factor more for those before it. -/
lemma number?_append (cs : List Char) (c : Char) :
    number? (cs ++ [c]) = (number? cs).bind fun n => (value? c).map (n * 2 ^ 6 + ·) := by
  simp only [number?, List.foldlM_append, List.foldlM_cons, List.foldlM_nil, bind_pure]
  rfl

/-- What is left of a number without its last bits. -/
lemma div_two_pow_lt {n k w : Nat} (h : n < 2 ^ (k + w)) : n / 2 ^ w < 2 ^ k := by
  rw [Nat.div_lt_iff_lt_mul (Nat.two_pow_pos w), ← Nat.pow_add]
  exact h

/-- The digits of a number have it back. -/
lemma number?_digits {k n : Nat} (h : n < 2 ^ (6 * k)) : number? (digits k n) = some n := by
  induction k generalizing n with
  | zero =>
      have zero : n = 0 := by simpa using h
      subst zero
      rfl
  | succ k ih =>
      have front : n / 2 ^ 6 < 2 ^ (6 * k) := div_two_pow_lt h
      rw [digits, number?_append, ih front, Option.bind_some,
        value?_digit _ (Nat.mod_lt _ (by decide)), Option.map_some, Nat.div_add_mod']

/-- A number has the digits back that it was read from. -/
lemma digits_of_number? {cs : List Char} {n : Nat} (h : number? cs = some n) :
    n < 2 ^ (6 * cs.length) ∧ digits cs.length n = cs := by
  induction cs using List.reverseRecOn generalizing n with
  | nil =>
      obtain rfl : 0 = n := Option.some.inj h
      exact ⟨by decide, rfl⟩
  | append_singleton cs c ih =>
      rw [number?_append] at h
      obtain ⟨front, hfront, h⟩ := Option.bind_eq_some_iff.1 h
      obtain ⟨last, hlast, rfl⟩ := Option.map_eq_some_iff.1 h
      obtain ⟨small, written⟩ := ih hfront
      obtain ⟨six, rfl⟩ := digit_of_value? hlast
      have quotient : (front * 2 ^ 6 + last) / 2 ^ 6 = front := by omega
      have remainder : (front * 2 ^ 6 + last) % 2 ^ 6 = last := by omega
      have wide : 2 ^ (6 * (cs.length + 1)) = 2 ^ (6 * cs.length) * 2 ^ 6 :=
        Nat.pow_add 2 (6 * cs.length) 6
      rw [List.length_append, List.length_singleton, digits, quotient, remainder, written, wide]
      exact ⟨by omega, rfl⟩

/-! ## The bytes of a number -/

/-- The number that bytes write, eight bits each. -/
def ofBytes (bytes : List UInt8) : Nat := bytes.foldl (fun n b => n * 2 ^ 8 + b.toNat) 0

/-- The last bytes of a number, as many as are wanted. -/
def toBytes : Nat → Nat → List UInt8
  | 0, _ => []
  | k + 1, n => toBytes k (n / 2 ^ 8) ++ [.ofNat n]

/-- A byte more at the end is a factor more for those before it. -/
lemma ofBytes_append (bytes : List UInt8) (b : UInt8) :
    ofBytes (bytes ++ [b]) = ofBytes bytes * 2 ^ 8 + b.toNat := by
  rw [ofBytes, List.foldl_append]
  rfl

@[simp] lemma length_toBytes (k n : Nat) : (toBytes k n).length = k := by
  induction k generalizing n with
  | zero => rfl
  | succ k ih => rw [toBytes, List.length_append, ih, List.length_singleton]

/-- The bytes of a number have it back. -/
lemma ofBytes_toBytes {k n : Nat} (h : n < 2 ^ (8 * k)) : ofBytes (toBytes k n) = n := by
  induction k generalizing n with
  | zero =>
      have zero : n = 0 := by simpa using h
      subst zero
      rfl
  | succ k ih =>
      have front : n / 2 ^ 8 < 2 ^ (8 * k) := div_two_pow_lt h
      rw [toBytes, ofBytes_append, ih front, UInt8.toNat_ofNat', Nat.div_add_mod']

/-- A number has the bytes back that it was made from. -/
lemma toBytes_ofBytes (bytes : List UInt8) :
    ofBytes bytes < 2 ^ (8 * bytes.length) ∧ toBytes bytes.length (ofBytes bytes) = bytes := by
  induction bytes using List.reverseRecOn with
  | nil => exact ⟨by decide, rfl⟩
  | append_singleton bytes b ih =>
      obtain ⟨small, back⟩ := ih
      have hb := b.toNat_lt
      have quotient : (ofBytes bytes * 2 ^ 8 + b.toNat) / 2 ^ 8 = ofBytes bytes := by omega
      have last : UInt8.ofNat (ofBytes bytes * 2 ^ 8 + b.toNat) = b := by
        rw [← UInt8.toNat_inj, UInt8.toNat_ofNat']
        omega
      have wide : 2 ^ (8 * (bytes.length + 1)) = 2 ^ (8 * bytes.length) * 2 ^ 8 :=
        Nat.pow_add 2 (8 * bytes.length) 8
      rw [List.length_append, List.length_singleton, ofBytes_append, toBytes, quotient, last, back,
        wide]
      exact ⟨by omega, rfl⟩

/-! ## One group -/

/-- **The bytes of a group**: as many as there are, behind which some bits are left over. -/
def group? (count spare : Nat) (cs : List Char) : Option (List UInt8) :=
  (number? cs).bind fun n =>
    if n % 2 ^ spare = 0 then some (toBytes count (n / 2 ^ spare)) else none

section

variable {k count spare : Nat} {bytes : List UInt8}

/-- The digits of a group are read as its bytes. -/
lemma group?_digits (hb : bytes.length = count) (h : 6 * k = 8 * count + spare) :
    group? count spare (digits k (ofBytes bytes * 2 ^ spare)) = some bytes := by
  subst hb
  obtain ⟨small, back⟩ := toBytes_ofBytes bytes
  have fits : ofBytes bytes * 2 ^ spare < 2 ^ (6 * k) := by
    rw [h, Nat.pow_add]
    exact Nat.mul_lt_mul_of_pos_right small (Nat.two_pow_pos spare)
  rw [group?, number?_digits fits, Option.bind_some, if_pos (Nat.mul_mod_left _ _),
    Nat.mul_div_cancel _ (Nat.two_pow_pos spare), back]

/-- A group is written in the digits of its bytes. -/
lemma digits_of_group? {cs : List Char} (hc : cs.length = k) (h : 6 * k = 8 * count + spare)
    (read : group? count spare cs = some bytes) :
    bytes.length = count ∧ digits k (ofBytes bytes * 2 ^ spare) = cs := by
  subst hc
  obtain ⟨n, number, read⟩ := Option.bind_eq_some_iff.1 read
  obtain ⟨small, written⟩ := digits_of_number? number
  obtain ⟨whole, same⟩ := Option.ite_none_right_eq_some.1 read
  obtain rfl := Option.some.inj same
  have fits : n / 2 ^ spare < 2 ^ (8 * count) := div_two_pow_lt (h ▸ small)
  rw [ofBytes_toBytes fits, Nat.div_mul_cancel (Nat.dvd_of_mod_eq_zero whole)]
  exact ⟨length_toBytes count _, written⟩

end

/-! ### The digits of a group -/

variable {n : Nat}

lemma digits_one (h : n < 2 ^ 6) : digits 1 n = [digit n] := by
  rw [digits, digits, Nat.mod_eq_of_lt h, List.nil_append]

lemma digits_two (h : n < 2 ^ 12) : digits 2 n = [digit (n / 2 ^ 6), digit (n % 2 ^ 6)] := by
  rw [digits, digits_one (by omega)]
  rfl

lemma digits_three (h : n < 2 ^ 18) :
    digits 3 n = [digit (n / 2 ^ 12), digit (n / 2 ^ 6 % 2 ^ 6), digit (n % 2 ^ 6)] := by
  rw [digits, digits_two (by omega), Nat.div_div_eq_div_mul]
  rfl

lemma digits_four (h : n < 2 ^ 24) :
    digits 4 n = [digit (n / 2 ^ 18), digit (n / 2 ^ 12 % 2 ^ 6), digit (n / 2 ^ 6 % 2 ^ 6),
      digit (n % 2 ^ 6)] := by
  rw [digits, digits_three (by omega), Nat.div_div_eq_div_mul, Nat.div_div_eq_div_mul]
  rfl

/-- One byte at the end becomes two digits, the last four bits of which are zero. -/
lemma encode_one (a : UInt8) : encode [a] = digits 2 (ofBytes [a] * 2 ^ 4) ++ ['=', '='] := by
  have number : ofBytes [a] * 2 ^ 4 = a.toNat * 2 ^ 4 := by simp [ofBytes]
  have ha := a.toNat_lt
  rw [number, digits_two (by omega)]
  rfl

/-- Two bytes at the end become three digits, the last two bits of which are zero. -/
lemma encode_two (a b : UInt8) :
    encode [a, b] = digits 3 (ofBytes [a, b] * 2 ^ 2) ++ ['='] := by
  have number : ofBytes [a, b] * 2 ^ 2 = (a.toNat * 2 ^ 8 + b.toNat) * 2 ^ 2 := by simp [ofBytes]
  have ha := a.toNat_lt
  have hb := b.toNat_lt
  rw [number, digits_three (by omega)]
  rfl

/-- Three bytes become four digits, with no bits between. -/
lemma encode_three (a b c : UInt8) (rest : List UInt8) :
    encode (a :: b :: c :: rest) = digits 4 (ofBytes [a, b, c] * 2 ^ 0) ++ encode rest := by
  have number : ofBytes [a, b, c] * 2 ^ 0 = (a.toNat * 2 ^ 8 + b.toNat) * 2 ^ 8 + c.toNat := by
    simp [ofBytes]
  have ha := a.toNat_lt
  have hb := b.toNat_lt
  have hc := c.toNat_lt
  rw [number, digits_four (by omega)]
  rfl

/-! ## All of a text -/

/-- **The bytes of a text.**  Only the last group may be filled up. -/
def decode? : List Char → Option (List UInt8)
  | [] => some []
  | a :: b :: c :: d :: rest =>
    if d = '=' ∧ rest = [] then
      if c = '=' then group? 1 4 [a, b] else group? 2 2 [a, b, c]
    else (group? 3 0 [a, b, c, d]).bind fun bytes => (decode? rest).map (bytes ++ ·)
  | _ => none

lemma decode?_one (n : Nat) : decode? (digits 2 n ++ ['=', '=']) = group? 1 4 (digits 2 n) := rfl

lemma decode?_two (n : Nat) : decode? (digits 3 n ++ ['=']) = group? 2 2 (digits 3 n) := by
  have unfilled : digit (n % 2 ^ 6) ≠ '=' := digit_ne_pad _ (Nat.mod_lt _ (by decide))
  exact (if_pos ⟨rfl, rfl⟩).trans (if_neg unfilled)

lemma decode?_three (n : Nat) (rest : List Char) :
    decode? (digits 4 n ++ rest) =
      (group? 3 0 (digits 4 n)).bind fun bytes => (decode? rest).map (bytes ++ ·) := by
  have unfilled : digit (n % 2 ^ 6) ≠ '=' := digit_ne_pad _ (Nat.mod_lt _ (by decide))
  exact if_neg fun pad => unfilled pad.1

/-- **The text of bytes is read as these bytes**, by induction on the groups. -/
lemma decode?_encode (bytes : List UInt8) : decode? (encode bytes) = some bytes := by
  induction bytes using encode.induct with
  | case1 => rfl
  | case2 a =>
      have read : group? 1 4 (digits 2 (ofBytes [a] * 2 ^ 4)) = some [a] := group?_digits rfl rfl
      rw [encode_one, decode?_one, read]
  | case3 a b =>
      have read : group? 2 2 (digits 3 (ofBytes [a, b] * 2 ^ 2)) = some [a, b] :=
        group?_digits rfl rfl
      rw [encode_two, decode?_two, read]
  | case4 a b c rest ih =>
      have read : group? 3 0 (digits 4 (ofBytes [a, b, c] * 2 ^ 0)) = some [a, b, c] :=
        group?_digits rfl rfl
      rw [encode_three, decode?_three, read, Option.bind_some, ih]
      rfl

/-- **No other text is read as these bytes**, by induction on the groups of the text. -/
lemma encode_of_decode? {cs : List Char} {bytes : List UInt8} (h : decode? cs = some bytes) :
    encode bytes = cs := by
  fun_induction decode? cs generalizing bytes with
  | case1 =>
      obtain rfl := Option.some.inj h
      rfl
  | case2 a b d rest last =>
      obtain ⟨rfl, rfl⟩ := last
      obtain ⟨count, written⟩ := digits_of_group? (k := 2) rfl rfl h
      obtain ⟨byte, rfl⟩ := List.length_eq_one_iff.1 count
      rw [encode_one, written]
      rfl
  | case3 a b c d rest last =>
      obtain ⟨rfl, rfl⟩ := last
      obtain ⟨count, written⟩ := digits_of_group? (k := 3) rfl rfl h
      obtain ⟨byte, next, rfl⟩ := List.length_eq_two.1 count
      rw [encode_two, written]
      rfl
  | case4 a b c d rest more ih =>
      obtain ⟨group, hg, h⟩ := Option.bind_eq_some_iff.1 h
      obtain ⟨later, hl, rfl⟩ := Option.map_eq_some_iff.1 h
      obtain ⟨count, written⟩ := digits_of_group? (k := 4) rfl rfl hg
      obtain ⟨byte, next, last, rfl⟩ := List.length_eq_three.1 count
      rw [List.cons_append, List.cons_append, List.singleton_append, encode_three, written, ih hl]
      rfl
  | case5 => cases h

/-- **A text is read as the bytes that it is the text of.** -/
theorem decode?_eq_some_iff {cs : List Char} {bytes : List UInt8} :
    decode? cs = some bytes ↔ encode bytes = cs :=
  ⟨encode_of_decode?, fun written => written ▸ decode?_encode bytes⟩

/-- The bytes of a whole text. -/
def bytes? (s : String) : Option ByteArray := (decode? s.toList).map fun bytes => ⟨bytes.toArray⟩

/-- A text that was encoded is decoded to its bytes. -/
lemma bytes?_ofText (s : String) : bytes? (ofText s) = some s.toUTF8 := by
  rw [bytes?, ofText, String.toList_ofList, decode?_eq_some_iff.2 rfl, Option.map_some,
    Array.toArray_toList]

/-- The three ways in which a text ends. -/
example : bytes? "Zg==" = some "f".toUTF8 ∧ bytes? "Zm8=" = some "fo".toUTF8 ∧
    bytes? "Zm9v" = some "foo".toUTF8 ∧ bytes? "Zh==" = none := by decide +kernel

end Connector.Text.Base64
