import Pist.Common.Hex
import Mathlib.Data.Nat.Digits
import Mathlib.Data.Nat.Log

/-! # `encoding/json` values and `strconv` numbers

The vote records of `core/types` travel as JSON through the codecs that `gencodec` generated.
This file models the part of `encoding/json` and `strconv` those codecs rely on, at the level
of JSON values:

* **`JsonValue`** — a JSON value as the decoder hands it on: a string keeps the text between its
  quotes and a number keeps its literal, which is what an `UnmarshalJSON` method receives;
* **`JsonError`** — `*json.UnmarshalTypeError`, with the struct field it was raised for, and the
  other errors an `UnmarshalJSON` method returns;
* **`digitsText`**, **`formatUint`**, **`parseUint`** — the digits `strconv` and `math/big`
  write, and `strconv.ParseUint(s, 10, 64)`;
* **`foldName`** — the case folding `encoding/json` uses to match an object key to a field.

Writing values as text and scanning text back into values is the standard library's generic
layer and is not modelled. The main facts are `foldl_digitsText` (reading digits back gives the
number) and `parseUint_formatUint`. -/

namespace Pist

namespace Json

/-! ## (1) Values and errors -/

/-- **A JSON value**, as `encoding/json` passes it to the decoder of a Go value. -/
inductive JsonValue where
  /-- `null`. -/
  | null
  /-- `true` or `false`. -/
  | bool (b : Bool)
  /-- A number, by its literal text. -/
  | number (literal : List UInt8)
  /-- A string, by its text between the quotes as written. The texts the codecs here write are
  digits, letters, `x` and `-`, which `encoding/json` writes without escapes. -/
  | string (raw : List UInt8)
  /-- An array. -/
  | array (items : List JsonValue)
  /-- An object, its members in the order they are written. -/
  | object (members : List (String × JsonValue))
deriving Repr

/-- The errors of decoding. -/
inductive JsonError where
  /-- `*json.UnmarshalTypeError`: a JSON `value` that does not fit the Go type `goType`; `field`
  is the struct field being decoded, empty until `encoding/json` adds it. -/
  | unmarshalType (value goType field : String)
  /-- Any other error an `UnmarshalJSON` method returns, by its text. -/
  | other (text : String)
deriving DecidableEq, Repr

/-- `addErrorContext`: a type error raised while decoding the field `field` names that field;
other errors pass unchanged. -/
def JsonError.withField (field : String) : JsonError → JsonError
  | .unmarshalType value goType _ => .unmarshalType value goType field
  | .other text => .other text

/-- The word `encoding/json` uses for a value that does not fit: `"bool"`, `"string"`,
`"array"`, `"object"`, and `"number"` (with the literal where a number is out of range). -/
def JsonValue.kind : JsonValue → String
  | .null => "null"
  | .bool _ => "bool"
  | .number _ => "number"
  | .string _ => "string"
  | .array _ => "array"
  | .object _ => "object"

/-! ## (2) Digits -/

/-- The digits of `n` in `base`, most significant first, as `strconv` and `math/big` write them
(`0`–`9`, then `a`–`f`); `0` has no digits here. -/
def digitsText (base n : Nat) : List UInt8 :=
  (Nat.digits base n).reverse.map (Hex.hextable.getD · 0)

/-- Reading digits most significant first rebuilds the number whose digits they are. -/
theorem foldl_reverse (b : Nat) (l : List Nat) :
    l.reverse.foldl (fun acc d => acc * b + d) 0 = Nat.ofDigits b l := by
  induction l with
  | nil => rfl
  | cons d l ih =>
    rw [List.reverse_cons, List.foldl_append, ih, Nat.ofDigits_cons]
    simp only [List.foldl_cons, List.foldl_nil]
    ring

/-- **Reading a digit text back gives its number**, for any reading `val` of the digits that
gives each digit below `base` its value. -/
theorem foldl_digitsText {base : Nat} (hb : 1 < base) (n : Nat) (val : UInt8 → Nat)
    (hval : ∀ d < base, val (Hex.hextable.getD d 0) = d) :
    (digitsText base n).foldl (fun acc c => acc * base + val c) 0 = n := by
  rw [digitsText, List.foldl_map,
    List.foldl_ext _ (fun acc d => acc * base + d) 0 fun acc d hd => by
      rw [hval d (Nat.digits_lt_base hb (List.mem_reverse.1 hd))],
    foldl_reverse, Nat.ofDigits_digits]

/-- Each byte of a digit text is the digit of a value below `base`. -/
theorem mem_digitsText {base n : Nat} (hb : 1 < base) {c : UInt8} (hc : c ∈ digitsText base n) :
    ∃ d < base, c = Hex.hextable.getD d 0 := by
  obtain ⟨d, hd, rfl⟩ := List.mem_map.1 hc
  exact ⟨d, Nat.digits_lt_base hb (List.mem_reverse.1 hd), rfl⟩

/-- A digit text has no digits to spare: it starts with a digit other than `0`. -/
theorem head?_digitsText {base n : Nat} (hb : 1 < base) (hb16 : base ≤ 16) (hn : n ≠ 0) :
    (digitsText base n).head? ≠ some 48 := by
  have hne : Nat.digits base n ≠ [] := Nat.digits_ne_nil_iff_ne_zero.2 hn
  have hlast := Nat.getLast_digit_ne_zero base hn
  have hlt : (Nat.digits base n).getLast hne < 16 :=
    lt_of_lt_of_le (Nat.digits_lt_base hb (List.getLast_mem hne)) hb16
  have hzero : ∀ d < 16, Hex.hextable.getD d 0 = 48 → d = 0 := by decide
  rw [digitsText, List.head?_map, List.head?_reverse, List.getLast?_eq_getLast _ hne]
  intro h
  exact hlast (hzero _ hlt (Option.some_inj.1 h))

/-- A digit text of a number below `base ^ k` has at most `k` digits. -/
theorem length_digitsText_le {base n k : Nat} (hb : 1 < base) (hn : n < base ^ k) :
    (digitsText base n).length ≤ k := by
  rw [digitsText, List.length_map, List.length_reverse]
  rcases Nat.eq_zero_or_pos n with rfl | hpos
  · simp
  · rw [Nat.digits_len base n hb hpos.ne']
    exact Nat.log_lt_of_lt_pow hpos.ne' hn

/-! ## (3) `strconv` decimal numbers -/

/-- **`strconv.AppendUint(_, n, 10)`**: the decimal digits of `n`, and `0` for zero. -/
def formatUint (n : Nat) : List UInt8 :=
  if n = 0 then [48] else digitsText 10 n

/-- A decimal digit `0`–`9`. -/
def isDecimalDigit (c : UInt8) : Bool := decide (48 ≤ c ∧ c ≤ 57)

/-- **`strconv.ParseUint(s, 10, 64)`**: a nonempty string of decimal digits, whose value must be
below `2^64`. -/
def parseUint (s : List UInt8) : Option Nat :=
  if s ≠ [] ∧ s.all isDecimalDigit then
    if s.foldl (fun acc c => acc * 10 + (c - 48).toNat) 0 < 2 ^ 64 then
      some (s.foldl (fun acc c => acc * 10 + (c - 48).toNat) 0)
    else none
  else none

/-- The decimal digits written for values below ten. -/
theorem decimal_hextable : ∀ d < 10,
    isDecimalDigit (Hex.hextable.getD d 0) ∧ (Hex.hextable.getD d 0 - 48).toNat = d := by
  decide

/-- **Parsing reads back what formatting wrote.** -/
theorem parseUint_formatUint {n : Nat} (hn : n < 2 ^ 64) : parseUint (formatUint n) = some n := by
  rw [formatUint]
  split
  · subst n; rfl
  · rename_i h0
    have hfold := foldl_digitsText (by norm_num) n (fun c => (c - 48).toNat)
      fun d hd => (decimal_hextable d hd).2
    have hne : digitsText 10 n ≠ [] := by
      simpa [digitsText, Nat.digits_eq_nil_iff_eq_zero] using h0
    have hall : (digitsText 10 n).all isDecimalDigit := List.all_eq_true.2 fun c hc => by
      obtain ⟨d, hd, rfl⟩ := mem_digitsText (by norm_num) hc
      exact (decimal_hextable d hd).1
    rw [parseUint, if_pos ⟨hne, hall⟩, hfold, if_pos hn]

/-! ## (4) Field names -/

/-- The folding of one character under which `encoding/json` matches keys: ASCII letters
without case, and the two letters that fold onto ASCII ones, `ſ` (U+017F) onto `s` and the
Kelvin sign (U+212A) onto `k`. -/
def foldChar (c : Char) : Char :=
  if c = Char.ofNat 0x17F then 's' else if c = Char.ofNat 0x212A then 'k' else c.toLower

/-- **`foldName`**: the key a name is matched under when no field has the key as its exact
name. -/
def foldName (s : String) : List Char := s.toList.map foldChar

end Json

end Pist
