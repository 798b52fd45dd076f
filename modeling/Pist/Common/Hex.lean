import Mathlib.Data.List.Basic
import Mathlib.Tactic.Ring

/-! # Hex text: `encoding/hex` and `bytes.TrimPrefix`

The genesis storage words and the vote records are written as hex text. This file models the
standard-library pieces the repository's codecs call, on Go byte slices (`List UInt8`):

* **`FixedBytes n`** — a Go byte array `[n]byte` (`common.Hash` is `FixedBytes 32`), which
  carries its length;
* **`Hex.fromHexChar`**, **`Hex.decode`**, **`Hex.encode`** — `encoding/hex`: digit values,
  `hex.Decode` two digits a byte, `hex.Encode` in lowercase;
* **`trimPrefix`** — `bytes.TrimPrefix`.

The main facts are `Hex.decode_encode` (decoding reads back what encoding wrote) and
`Hex.decode_ok_iff` (decoding succeeds exactly on even-length strings of hex digits). -/

namespace Pist

/-- **A Go byte array `[n]byte`**: exactly `n` bytes. -/
structure FixedBytes (n : Nat) where
  /-- The bytes, in index order. -/
  bytes : List UInt8
  /-- An array has its declared length. -/
  length_eq : bytes.length = n
deriving DecidableEq, Repr

theorem FixedBytes.ext {n : Nat} {a b : FixedBytes n} (h : a.bytes = b.bytes) : a = b := by
  cases a; cases b; cases h; rfl

/-- `common.Hash`, a 32-byte word. -/
abbrev Hash := FixedBytes 32

/-- The zero value of `[n]byte`. -/
def FixedBytes.zero (n : Nat) : FixedBytes n := ⟨List.replicate n 0, List.length_replicate _ _⟩

/-- `bytes.TrimPrefix(s, prefix)`: `s` without `prefix` if it starts with it. -/
def trimPrefix (s pre : List UInt8) : List UInt8 :=
  if pre.isPrefixOf s then s.drop pre.length else s

theorem trimPrefix_append (s pre : List UInt8) : trimPrefix (pre ++ s) pre = s := by
  simp [trimPrefix]

theorem trimPrefix_of_not_isPrefixOf {s pre : List UInt8} (h : ¬pre.isPrefixOf s) :
    trimPrefix s pre = s := if_neg h

/-- The text is its trimmed part, with or without the prefix in front. -/
theorem eq_or_eq_append_trimPrefix (s pre : List UInt8) :
    s = trimPrefix s pre ∨ s = pre ++ trimPrefix s pre := by
  unfold trimPrefix
  split
  · exact .inr (List.prefix_iff_eq_append.1 (List.isPrefixOf_iff_prefix.1 ‹_›)).symm
  · exact .inl rfl

namespace Hex

/-- `hextable`, the digits `"0123456789abcdef"` that `hex.Encode` writes. -/
def hextable : List UInt8 := [48, 49, 50, 51, 52, 53, 54, 55, 56, 57, 97, 98, 99, 100, 101, 102]

/-- `fromHexChar`: the value of a digit `0`–`9`, `a`–`f` or `A`–`F`. -/
def fromHexChar (c : UInt8) : Option UInt8 :=
  if 48 ≤ c ∧ c ≤ 57 then some (c - 48)
  else if 97 ≤ c ∧ c ≤ 102 then some (c - 97 + 10)
  else if 65 ≤ c ∧ c ≤ 70 then some (c - 65 + 10)
  else none

/-- The errors of `hex.Decode`. -/
inductive HexError
  /-- `InvalidByteError(c)`: `c` is not a hex digit. -/
  | invalidByte (c : UInt8)
  /-- `ErrLength`: an odd number of digits. -/
  | length
deriving DecidableEq, Repr

/-- **`hex.Decode`**: each pair of digits, high digit first, is the byte `(a << 4) | b`; a last
unpaired digit is `ErrLength` once it is checked to be a digit. -/
def decode : List UInt8 → Except HexError (List UInt8)
  | [] => .ok []
  | [p] => if (fromHexChar p).isSome then .error .length else .error (.invalidByte p)
  | p :: q :: rest =>
    match fromHexChar p, fromHexChar q with
    | none, _ => .error (.invalidByte p)
    | some _, none => .error (.invalidByte q)
    | some a, some b => (decode rest).map (((a <<< 4) ||| b) :: ·)

/-- **`hex.Encode`**: each byte as two lowercase digits, high digit first. -/
def encode (src : List UInt8) : List UInt8 :=
  src.flatMap fun v => [hextable.getD (v >>> 4).toNat 0, hextable.getD (v &&& 15).toNat 0]

/-- `hex.EncodeToString`, the digits `hex.Encode` writes as a string (also what `%x` prints for
a byte slice). -/
def encodeToString (src : List UInt8) : String :=
  String.mk ((encode src).map fun c => Char.ofNat c.toNat)

/-! ## Bytes as two digits -/

theorem or_eq_add_of_lt_sixteen : ∀ a < 16, ∀ b < 16, a * 16 ||| b = a * 16 + b := by decide

theorem toNat_shiftRight_four (v : UInt8) : (v >>> 4).toNat = v.toNat / 16 := by
  show (v.toBitVec >>> (UInt8.mod 4 8).toBitVec).toNat = _
  simp only [BitVec.ushiftRight_eq', BitVec.toNat_ushiftRight, Nat.shiftRight_eq_div_pow]
  rfl

theorem toNat_and_fifteen (v : UInt8) : (v &&& 15).toNat = v.toNat % 16 := by
  show (v.toBitVec &&& (15 : UInt8).toBitVec).toNat = _
  rw [BitVec.toNat_and]
  exact Nat.and_pow_two_sub_one_eq_mod _ 4

/-- `(a << 4) | b` is `16 a + b` for two digit values. -/
theorem toNat_shiftLeft_four_or {a b : UInt8} (ha : a.toNat < 16) (hb : b.toNat < 16) :
    ((a <<< 4) ||| b).toNat = a.toNat * 16 + b.toNat := by
  show ((a.toBitVec <<< (UInt8.mod 4 8).toBitVec) ||| b.toBitVec).toNat = _
  rw [BitVec.toNat_or, BitVec.shiftLeft_eq', BitVec.toNat_shiftLeft]
  show (a.toNat <<< 4) % 2 ^ 8 ||| b.toNat = _
  rw [Nat.shiftLeft_eq, Nat.mod_eq_of_lt (by omega)]
  exact or_eq_add_of_lt_sixteen _ ha _ hb

/-- Each of the sixteen digits reads back as its own value. -/
theorem fromHexChar_hextable : ∀ i < 16, (fromHexChar (hextable.getD i 0)).map UInt8.toNat = some i := by
  decide

/-- The digit written for a value below sixteen reads back as that value. -/
theorem fromHexChar_getD {v : UInt8} (hv : v.toNat < 16) :
    fromHexChar (hextable.getD v.toNat 0) = some v := by
  have h := fromHexChar_hextable v.toNat hv
  obtain ⟨x, hx, hxv⟩ := Option.map_eq_some'.1 h
  rw [hx, UInt8.toNat.inj hxv]

/-- **Decoding reads back what encoding wrote.** -/
theorem decode_encode (src : List UInt8) : decode (encode src) = .ok src := by
  induction src with
  | nil => rfl
  | cons v vs ih =>
    have hhi : (v >>> 4).toNat < 16 := by
      rw [toNat_shiftRight_four]; have := v.toNat_lt_size; simp only [UInt8.size] at this; omega
    have hlo : (v &&& 15).toNat < 16 := by rw [toNat_and_fifteen]; omega
    have hv : (v >>> 4) <<< 4 ||| (v &&& 15) = v := UInt8.toNat.inj (by
      rw [toNat_shiftLeft_four_or hhi hlo, toNat_shiftRight_four, toNat_and_fifteen]; omega)
    simp only [encode, List.flatMap_cons, List.cons_append, List.nil_append] at ih ⊢
    simp only [decode, fromHexChar_getD hhi, fromHexChar_getD hlo, hv, ih]
    rfl

/-- Encoding writes two digits a byte. -/
theorem length_encode (src : List UInt8) : (encode src).length = 2 * src.length := by
  induction src with
  | nil => rfl
  | cons v vs ih =>
    simp only [encode, List.flatMap_cons, List.length_append, List.length_cons,
      List.length_nil] at ih ⊢
    omega

/-- Encoding writes hex digits only. -/
theorem isSome_of_mem_encode {src : List UInt8} {c : UInt8} (hc : c ∈ encode src) :
    (fromHexChar c).isSome := by
  obtain ⟨v, -, hv⟩ := List.mem_flatMap.1 hc
  have hlo : (v &&& 15).toNat < 16 := by rw [toNat_and_fifteen]; omega
  have hhi : (v >>> 4).toNat < 16 := by
    rw [toNat_shiftRight_four]; have := v.toNat_lt_size; simp only [UInt8.size] at this; omega
  rcases List.mem_pair.1 hv with rfl | rfl
  · rw [fromHexChar_getD hhi]; rfl
  · rw [fromHexChar_getD hlo]; rfl

/-- **Decoding succeeds exactly on an even number of hex digits.** -/
theorem decode_ok_iff : ∀ s : List UInt8,
    (∃ d, decode s = .ok d) ↔ s.length % 2 = 0 ∧ ∀ c ∈ s, (fromHexChar c).isSome
  | [] => by simp [decode]
  | [p] => by
    simp only [decode]
    constructor
    · rintro ⟨d, hd⟩
      split at hd <;> cases hd
    · rintro ⟨h, -⟩
      simp at h
  | p :: q :: rest => by
    have ih := decode_ok_iff rest
    cases hp : fromHexChar p with
    | none => simp [decode, hp]
    | some a =>
      cases hq : fromHexChar q with
      | none => simp [decode, hp, hq]
      | some b =>
        simp only [decode, hp, hq, List.length_cons, List.mem_cons, forall_eq_or_imp,
          Option.isSome_some, true_and]
        constructor
        · rintro ⟨d, hd⟩
          cases hr : decode rest with
          | error e => rw [hr] at hd; cases hd
          | ok d' =>
            obtain ⟨h1, h2⟩ := ih.1 ⟨d', hr⟩
            exact ⟨by omega, h2⟩
        · rintro ⟨h1, h2⟩
          obtain ⟨d', hd'⟩ := ih.2 ⟨by omega, h2⟩
          exact ⟨_, by rw [hd']; rfl⟩

/-- Decoding writes one byte for each two digits. -/
theorem length_decode : ∀ {s d : List UInt8}, decode s = .ok d → d.length = s.length / 2
  | [], _, h => by cases h; rfl
  | [p], _, h => by simp only [decode] at h; split at h <;> cases h
  | p :: q :: rest, d, h => by
    cases hp : fromHexChar p with
    | none => simp [decode, hp] at h
    | some a =>
      cases hq : fromHexChar q with
      | none => simp [decode, hp, hq] at h
      | some b =>
        simp only [decode, hp, hq] at h
        cases hr : decode rest with
        | error e => rw [hr] at h; cases h
        | ok d' =>
          rw [hr] at h
          cases h
          simp only [List.length_cons, length_decode hr]
          omega

end Hex

end Pist
