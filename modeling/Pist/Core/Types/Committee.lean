import Pist.Common.Hex

/-! # Committee members and vote records

The two record types of `core/types` that the consensus and genesis code read:

* **`CommitteeMember`** — `types.CommitteeMember`, a committee seat;
* **`PbftSign`** — `types.PbftSign`, one member's signed vote on a fast block.

`core/types` itself is not among the sources; the fields are those the sources read and
write. A Go `*big.Int` that may be `nil` is an `Option Int`. -/

namespace Pist

/-- `common.Address`, a 20-byte account address. -/
abbrev Address := FixedBytes 20

/-- **`types.CommitteeMember`**. -/
structure CommitteeMember where
  /-- The account that stakes for the seat. -/
  coinbase : Address
  /-- The address derived from the member's public key. -/
  committeeBase : Address
  /-- The serialised public key, the member's identity. -/
  publickey : List UInt8
  /-- The seat's state (`types.StateUsedFlag`, ...). -/
  flag : UInt32
  /-- The seat's type (`types.TypeFixed`, ...). -/
  mType : UInt32
deriving DecidableEq, Repr

/-- **`types.PbftSign`**: a vote on the fast block `FastHash` at height `FastHeight`. -/
structure PbftSign where
  /-- `FastHeight *big.Int`, possibly `nil`. -/
  fastHeight : Option Int
  /-- `FastHash common.Hash`. -/
  fastHash : Hash
  /-- `Result uint32`: agree or against. -/
  result : UInt32
  /-- `Sign []byte`: the signature over `HashWithNoSign()`. -/
  sign : List UInt8
deriving DecidableEq, Repr

end Pist
