import Pist.Encoding.Json

/-! # `common/hexutil`: hex text with a `0x` prefix

The repository's `common/hexutil` package is not among the sources; the codecs in
`core/genesis.go` and `core/types/gen_pbftSign_json.go` call it. This file models the pieces
they use, each from the text format the package documents ("All hex data must have prefix
"0x""):

* **`HexutilError`** — the package's errors with their texts, and `wrapTypeError`, which turns
  them into JSON type errors;
* **`checkText`**, **`checkNumberText`** — the prefix, length and leading-zero rules;
* **`bytesUnmarshalText`**, **`unmarshalFixedText`**, **`bigUnmarshalText`** — the decoders of
  `Bytes`, of fixed-size arrays such as `common.Hash`, and of `Big`, with their JSON forms;
* **`bytesMarshalText`**, **`encodeBig`** — the encoders.

Each decoder reads back what its encoder writes (`bytesUnmarshalText_marshalText`,
`unmarshalFixedText_marshalText`, `bigUnmarshalText_encodeBig`); for `Big` this needs the number
to lie in `[0, 2^256)`. The JSON decoders fail only with type errors of their Go type, but for
the length error of `UnmarshalFixedJSON`, which `wrapTypeError` passes on as plain text
(`unmarshalFixedJSON_error`). -/

namespace Pist

namespace Hexutil

open Json

/-- The prefix `0x`. -/
def prefix0x : List UInt8 := [48, 120]

/-- Modelled from the spec: `hexutil.Bytes.MarshalText` (in `common/hexutil`, not among the
sources) writes `0x` and then `hex.Encode` of the bytes; the empty slice is `0x`. -/
def bytesMarshalText (b : List UInt8) : List UInt8 := prefix0x ++ Hex.encode b

/-! ## (1) Errors -/

/-- Modelled from the spec: the errors of `hexutil`. All but the last are its `decError`s. -/
inductive HexutilError where
  /-- `ErrMissingPrefix`. -/
  | errMissingPrefix
  /-- `ErrEmptyNumber`. -/
  | errEmptyNumber
  /-- `ErrLeadingZero`. -/
  | errLeadingZero
  /-- `ErrOddLength`. -/
  | errOddLength
  /-- `ErrSyntax`. -/
  | errSyntax
  /-- `ErrBig256Range`. -/
  | errBig256Range
  /-- The length error of `UnmarshalFixedText`: `got` digits where the type `typname` needs
  `want`. -/
  | wrongLength (got want : Nat) (typname : String)
deriving DecidableEq, Repr

/-- The text of each error. -/
def HexutilError.text : HexutilError → String
  | .errMissingPrefix => "hex string without 0x prefix"
  | .errEmptyNumber => "hex string \"0x\""
  | .errLeadingZero => "hex number with leading zero digits"
  | .errOddLength => "hex string of odd length"
  | .errSyntax => "invalid hex string"
  | .errBig256Range => "hex number > 256 bits"
  | .wrongLength got want typname =>
    "hex string has length " ++ toString got ++ ", want " ++ toString want ++ " for " ++ typname

/-- Modelled from the spec: `wrapTypeError(err, typ)` makes a `decError` a JSON type error of
`typ` whose value is the error's text; the length error passes unchanged. -/
def wrapTypeError (typ : String) : HexutilError → JsonError
  | .wrongLength got want typname => .other (HexutilError.text (.wrongLength got want typname))
  | e => .unmarshalType e.text typ ""

/-- Modelled from the spec: `errNonString(typ)`, the error for a JSON value that is not a
string. -/
def errNonString (typ : String) : JsonError := .unmarshalType "non-string" typ ""

/-! ## (2) Checking the text -/

/-- Modelled from the spec: `bytesHave0xPrefix`, the text starts with `0x` or `0X`. -/
def has0xPrefix : List UInt8 → Bool
  | 48 :: c :: _ => c == 120 || c == 88
  | _ => false

/-- Modelled from the spec: **`checkText(input, wantPrefix)`**. The empty text is allowed;
otherwise a `0x` prefix is dropped (and required if `wantPrefix`), and an even number of
digits must remain. -/
def checkText (input : List UInt8) (wantPrefix : Bool) : Except HexutilError (List UInt8) :=
  if input = [] then .ok []
  else if !has0xPrefix input && wantPrefix then .error .errMissingPrefix
  else
    let raw := if has0xPrefix input then input.drop 2 else input
    if raw.length % 2 ≠ 0 then .error .errOddLength else .ok raw

/-- Modelled from the spec: **`checkNumberText`**. The empty text is allowed; otherwise the
prefix is required, at least one digit must follow, and no leading `0` unless it is the only
digit. -/
def checkNumberText (input : List UInt8) : Except HexutilError (List UInt8) :=
  if input = [] then .ok []
  else if !has0xPrefix input then .error .errMissingPrefix
  else if input.drop 2 = [] then .error .errEmptyNumber
  else if 1 < (input.drop 2).length ∧ (input.drop 2).head? = some 48 then .error .errLeadingZero
  else .ok (input.drop 2)

/-- Text written after `prefix0x` has the prefix. -/
@[simp] theorem has0xPrefix_prefix0x (s : List UInt8) : has0xPrefix (48 :: 120 :: s) = true := rfl

/-- Text written with the prefix and an even number of digits passes `checkText`. -/
theorem checkText_prefix0x {s : List UInt8} (hs : s.length % 2 = 0) :
    checkText (prefix0x ++ s) true = .ok s := by
  simp [checkText, prefix0x, hs]

/-! ## (3) `Bytes` and fixed-size arrays -/

/-- Modelled from the spec: **`Bytes.UnmarshalText`**, `checkText` with the prefix required,
then `hex.Decode` with its errors mapped by `mapError`. -/
def bytesUnmarshalText (input : List UInt8) : Except HexutilError (List UInt8) :=
  match checkText input true with
  | .error e => .error e
  | .ok raw =>
    match Hex.decode raw with
    | .ok dec => .ok dec
    | .error (.invalidByte _) => .error .errSyntax
    | .error .length => .error .errOddLength

/-- Modelled from the spec: `Bytes.UnmarshalJSON`, a JSON string decoded by its text. -/
def bytesUnmarshalJSON : JsonValue → Except JsonError (List UInt8)
  | .string raw => (bytesUnmarshalText raw).mapError (wrapTypeError "hexutil.Bytes")
  | _ => .error (errNonString "hexutil.Bytes")

/-- Modelled from the spec: **`UnmarshalFixedText(typname, input, out)`** into an `n`-byte array:
`checkText` with the prefix required, exactly `2 n` digits, every one checked before any byte of
`out` is written. -/
def unmarshalFixedText (typname : String) (n : Nat) (input : List UInt8) :
    Except HexutilError (FixedBytes n) :=
  match checkText input true with
  | .error e => .error e
  | .ok raw =>
    if hn : raw.length / 2 = n then
      if raw.all fun c => (Hex.fromHexChar c).isSome then
        match hd : Hex.decode raw with
        | .ok dec => .ok ⟨dec, (Hex.length_decode hd).trans hn⟩
        | .error _ => .error .errSyntax
      else .error .errSyntax
    else .error (.wrongLength raw.length (2 * n) typname)

/-- Modelled from the spec: `UnmarshalFixedJSON(typ, input, out)`. -/
def unmarshalFixedJSON (typname : String) (n : Nat) : JsonValue → Except JsonError (FixedBytes n)
  | .string raw => (unmarshalFixedText typname n raw).mapError (wrapTypeError typname)
  | _ => .error (errNonString typname)

/-- Modelled from the spec: `common.Hash.UnmarshalJSON`, `UnmarshalFixedJSON` at the type
`common.Hash`. -/
def hashUnmarshalJSON : JsonValue → Except JsonError Hash := unmarshalFixedJSON "common.Hash" 32

/-- **`Bytes` round trip.** -/
theorem bytesUnmarshalText_marshalText (b : List UInt8) :
    bytesUnmarshalText (bytesMarshalText b) = .ok b := by
  have heven : (Hex.encode b).length % 2 = 0 := by rw [Hex.length_encode]; omega
  simp only [bytesUnmarshalText, bytesMarshalText, checkText_prefix0x heven, Hex.decode_encode]

/-- **Fixed-size round trip**: an array's text reads back as the array. -/
theorem unmarshalFixedText_marshalText (typname : String) {n : Nat} (h : FixedBytes n) :
    unmarshalFixedText typname n (bytesMarshalText h.bytes) = .ok h := by
  have hlen : (Hex.encode h.bytes).length = 2 * n := by rw [Hex.length_encode, h.length_eq]
  have hall : (Hex.encode h.bytes).all fun c => (Hex.fromHexChar c).isSome :=
    List.all_eq_true.2 fun _ hc => Hex.isSome_of_mem_encode hc
  rw [unmarshalFixedText, bytesMarshalText, checkText_prefix0x (by omega)]
  simp only [hlen, Nat.mul_div_cancel_left n (by norm_num : 0 < 2), dite_true, hall, ite_true]
  split
  · rename_i dec hd
    rw [Hex.decode_encode] at hd
    cases hd
    rfl
  · rename_i hd
    rw [Hex.decode_encode] at hd
    cases hd

/-! ## (4) `Big` -/

/-- Modelled from the spec: **`Big.UnmarshalText`**: `checkNumberText`, at most 64 digits, each
digit read by `decodeNibble` (the same digits as `fromHexChar`), most significant first. -/
def bigUnmarshalText (input : List UInt8) : Except HexutilError Nat :=
  match checkNumberText input with
  | .error e => .error e
  | .ok raw =>
    if 64 < raw.length then .error .errBig256Range
    else if raw.all fun c => (Hex.fromHexChar c).isSome then
      .ok (raw.foldl (fun acc c => acc * 16 + ((Hex.fromHexChar c).getD 0).toNat) 0)
    else .error .errSyntax

/-- Modelled from the spec: `Big.UnmarshalJSON`. -/
def bigUnmarshalJSON : JsonValue → Except JsonError Nat
  | .string raw => (bigUnmarshalText raw).mapError (wrapTypeError "*hexutil.Big")
  | _ => .error (errNonString "*hexutil.Big")

/-- Modelled from the spec: **`EncodeBig`**, which `Big.MarshalText` writes: `0x0` for zero,
otherwise `0x` and the lowercase digits without leading zeros, after a `-` for a negative
number. -/
def encodeBig (n : Int) : List UInt8 :=
  if n = 0 then prefix0x ++ [48]
  else if 0 < n then prefix0x ++ digitsText 16 n.toNat
  else 45 :: prefix0x ++ digitsText 16 n.natAbs

/-- Digits written by `hex.Encode` and `EncodeBig` read back under `decodeNibble`. -/
theorem getD_fromHexChar_hextable {d : Nat} (hd : d < 16) :
    ((Hex.fromHexChar (Hex.hextable.getD d 0)).getD 0).toNat = d := by
  obtain ⟨x, hx, hxd⟩ := Option.map_eq_some'.1 (Hex.fromHexChar_hextable d hd)
  rw [hx, Option.getD_some, hxd]

/-- **`Big` round trip** on `[0, 2^256)`. -/
theorem bigUnmarshalText_encodeBig {n : Int} (h0 : 0 ≤ n) (h : n < 2 ^ 256) :
    bigUnmarshalText (encodeBig n) = .ok n.toNat := by
  rcases h0.lt_or_eq with hpos | rfl
  · have hm : n.toNat ≠ 0 := by omega
    have hne : digitsText 16 n.toNat ≠ [] := by
      simpa [digitsText, Nat.digits_eq_nil_iff_eq_zero] using hm
    have hlen : (digitsText 16 n.toNat).length ≤ 64 :=
      length_digitsText_le (by norm_num) (by omega)
    have hcheck : checkNumberText (prefix0x ++ digitsText 16 n.toNat) =
        .ok (digitsText 16 n.toNat) := by
      simp [checkNumberText, prefix0x, hne,
        head?_digitsText (by norm_num) le_rfl hm]
    have hall : (digitsText 16 n.toNat).all fun c => (Hex.fromHexChar c).isSome :=
      List.all_eq_true.2 fun c hc => by
        obtain ⟨d, hd, rfl⟩ := mem_digitsText (by norm_num) hc
        rw [Option.isSome_iff_exists]
        obtain ⟨x, hx, -⟩ := Option.map_eq_some'.1 (Hex.fromHexChar_hextable d hd)
        exact ⟨x, hx⟩
    rw [encodeBig, if_neg hpos.ne', if_pos hpos, bigUnmarshalText, hcheck]
    simp only [show ¬64 < (digitsText 16 n.toNat).length by omega, ite_false, hall, ite_true]
    rw [foldl_digitsText (by norm_num) _ _ fun d hd => getD_fromHexChar_hextable hd]
  · rfl

/-! ## (5) What the errors are -/

/-- The `decError`s: every error but the length error of `UnmarshalFixedText`. -/
def HexutilError.isDecError : HexutilError → Bool
  | .wrongLength .. => false
  | _ => true

/-- `wrapTypeError` makes a `decError` a type error. -/
theorem wrapTypeError_of_isDecError {e : HexutilError} (he : e.isDecError) (typ : String) :
    wrapTypeError typ e = .unmarshalType e.text typ "" := by
  cases e <;> first | rfl | cases he

theorem isDecError_of_checkText {input : List UInt8} {p : Bool} {e : HexutilError}
    (h : checkText input p = .error e) : e.isDecError := by
  unfold checkText at h
  dsimp only at h
  split_ifs at h <;> cases h <;> rfl

theorem isDecError_of_bytesUnmarshalText {input : List UInt8} {e : HexutilError}
    (h : bytesUnmarshalText input = .error e) : e.isDecError := by
  unfold bytesUnmarshalText at h
  split at h
  · cases h; exact isDecError_of_checkText ‹_›
  · split at h <;> cases h <;> rfl

theorem isDecError_of_bigUnmarshalText {input : List UInt8} {e : HexutilError}
    (h : bigUnmarshalText input = .error e) : e.isDecError := by
  unfold bigUnmarshalText checkNumberText at h
  split at h
  · rename_i hc; split_ifs at hc <;> cases hc <;> cases h <;> rfl
  · split_ifs at h <;> cases h <;> rfl

/-- **Every error of `Bytes.UnmarshalJSON` is a type error of `hexutil.Bytes`.** -/
theorem bytesUnmarshalJSON_error {v : JsonValue} {e : JsonError} (h : bytesUnmarshalJSON v = .error e) :
    ∃ value, e = .unmarshalType value "hexutil.Bytes" "" := by
  unfold bytesUnmarshalJSON at h
  split at h
  · cases hb : bytesUnmarshalText _ with
    | error e' =>
      rw [hb] at h; cases h
      exact ⟨_, wrapTypeError_of_isDecError (isDecError_of_bytesUnmarshalText hb) _⟩
    | ok b => rw [hb] at h; cases h
  · cases h; exact ⟨_, rfl⟩

/-- **Every error of `Big.UnmarshalJSON` is a type error of `*hexutil.Big`.** -/
theorem bigUnmarshalJSON_error {v : JsonValue} {e : JsonError} (h : bigUnmarshalJSON v = .error e) :
    ∃ value, e = .unmarshalType value "*hexutil.Big" "" := by
  unfold bigUnmarshalJSON at h
  split at h
  · cases hb : bigUnmarshalText _ with
    | error e' =>
      rw [hb] at h; cases h
      exact ⟨_, wrapTypeError_of_isDecError (isDecError_of_bigUnmarshalText hb) _⟩
    | ok b => rw [hb] at h; cases h
  · cases h; exact ⟨_, rfl⟩

/-- **An error of `UnmarshalFixedJSON`** is a type error of `typname`, or the length error, which
`wrapTypeError` passes on as plain text. -/
theorem unmarshalFixedJSON_error {typname : String} {n : Nat} {v : JsonValue} {e : JsonError}
    (h : unmarshalFixedJSON typname n v = .error e) :
    (∃ value, e = .unmarshalType value typname "") ∨
      ∃ got, e = .other (HexutilError.wrongLength got (2 * n) typname).text := by
  unfold unmarshalFixedJSON at h
  split at h
  · cases hf : unmarshalFixedText typname n _ with
    | error e' =>
      rw [hf] at h; cases h
      unfold unmarshalFixedText at hf
      split at hf
      · cases hf; exact .inl ⟨_, wrapTypeError_of_isDecError (isDecError_of_checkText ‹_›) _⟩
      · split at hf
        · split at hf
          · split at hf <;> cases hf; exact .inl ⟨_, rfl⟩
          · cases hf; exact .inl ⟨_, rfl⟩
        · cases hf; exact .inr ⟨_, rfl⟩
    | ok b => rw [hf] at h; cases h
  · cases h; exact .inl ⟨_, rfl⟩

end Hexutil

end Pist
