import Mathlib.Data.UInt
import Mathlib.Data.List.Basic

/-! The wire envelope of `fasttravel-rt-proto`: the generated prost bindings as far as
`helpers.rs` reads them. The `.proto` schema and prost are not in the sources, so each
message type comes with an explicit codec carrying the two laws prost gives every
proto3 message. No wire layout is assumed beyond these laws. -/
namespace Fasttravel.Proto

abbrev ProtoBytes := List UInt8

inductive RealtimeService
  | undefined | connection | core | presence | activity | model
  deriving DecidableEq, Repr

/-- A prost message type with `encode_to_vec`, `decode` and `Default`. Decoding what was
encoded gives the message back, and the default message encodes to no bytes. -/
structure Codec (α : Type) where
  encode : α → ProtoBytes
  decode : ProtoBytes → Option α
  dflt : α
  decodeEncode : ∀ m, decode (encode m) = some m
  encodeDflt : encode dflt = []

attribute [simp] Codec.decodeEncode

theorem Codec.decodeNil {α} (c : Codec α) : c.decode [] = some c.dflt := by
  rw [← c.encodeDflt, c.decodeEncode]

structure Header where
  requestId : UInt32 := 0
  responseId : UInt32 := 0
  deriving DecidableEq, Repr

inductive Body (Msg : RealtimeService → Type) where
  | connectionMsg (m : Msg .connection)
  | coreMsg (m : Msg .core)
  | presenceMsg (m : Msg .presence)
  | activityMsg (m : Msg .activity)
  | modelMsg (m : Msg .model)

structure RealtimeMessage (Msg : RealtimeService → Type) where
  header : Option Header := none
  body : Option (Body Msg) := none

structure Bindings where
  Msg : RealtimeService → Type
  service : (s : RealtimeService) → Codec (Msg s)
  realtime : Codec (RealtimeMessage Msg)
  realtimeDflt : realtime.dflt = {}

theorem Bindings.decodeNil (P : Bindings) : P.realtime.decode [] = some {} := by
  rw [P.realtime.decodeNil, P.realtimeDflt]

/- A concrete binding: a service message is kept as its own bytes and the envelope is
written field by field (a header marker `0` with both ids little endian, then the body
tag `1..5` and its bytes). It shows the codec laws are satisfiable and gives the
theorems with hypotheses concrete inputs. -/
namespace Tagged

def u32Bytes (x : UInt32) : ProtoBytes :=
  [x.toNat, x.toNat / 256, x.toNat / 65536, x.toNat / 16777216].map UInt8.ofNat

def u32Of (b0 b1 b2 b3 : UInt8) : UInt32 :=
  UInt32.ofNat (b0.toNat + 256 * b1.toNat + 65536 * b2.toNat + 16777216 * b3.toNat)

theorem u32OfBytes (x : UInt32) :
    u32Of (UInt8.ofNat x.toNat) (UInt8.ofNat (x.toNat / 256)) (UInt8.ofNat (x.toNat / 65536))
      (UInt8.ofNat (x.toNat / 16777216)) = x := by
  apply UInt32.toNat.inj
  have := x.toNat_lt_size
  simp only [u32Of, UInt32.ofNat, UInt32.toNat, UInt8.ofNat, UInt8.toNat, BitVec.toNat_ofNat,
    UInt32.size] at *
  omega

abbrev Msg : RealtimeService → Type := fun _ => ProtoBytes

def bodyBytes : Option (Body Msg) → ProtoBytes
  | none => []
  | some (.connectionMsg m) => 1 :: m
  | some (.coreMsg m) => 2 :: m
  | some (.presenceMsg m) => 3 :: m
  | some (.activityMsg m) => 4 :: m
  | some (.modelMsg m) => 5 :: m

def bodyOf : ProtoBytes → Option (Option (Body Msg))
  | [] => some none
  | t :: m =>
    if t = 1 then some (some (.connectionMsg m)) else if t = 2 then some (some (.coreMsg m))
    else if t = 3 then some (some (.presenceMsg m)) else if t = 4 then some (some (.activityMsg m))
    else if t = 5 then some (some (.modelMsg m)) else none

def encode (m : RealtimeMessage Msg) : ProtoBytes :=
  (match m.header with
    | none => []
    | some h => 0 :: u32Bytes h.requestId ++ u32Bytes h.responseId) ++ bodyBytes m.body

def decode : ProtoBytes → Option (RealtimeMessage Msg)
  | [] => some {}
  | t :: rest =>
    if t = 0 then
      match rest with
      | a0 :: a1 :: a2 :: a3 :: b0 :: b1 :: b2 :: b3 :: more =>
        (bodyOf more).map ({ header := some ⟨u32Of a0 a1 a2 a3, u32Of b0 b1 b2 b3⟩, body := · })
      | _ => none
    else (bodyOf (t :: rest)).map ({ body := · })

theorem decodeEncode (m : RealtimeMessage Msg) : decode (encode m) = some m := by
  rcases m with ⟨_ | ⟨req, res⟩, _ | (b | b | b | b | b)⟩ <;>
    simp [encode, decode, bodyBytes, bodyOf, u32Bytes, u32OfBytes]

end Tagged

def Bindings.tagged : Bindings where
  Msg := Tagged.Msg
  service _ := ⟨id, some, [], fun _ => rfl, rfl⟩
  realtime := ⟨Tagged.encode, Tagged.decode, {}, Tagged.decodeEncode, rfl⟩
  realtimeDflt := rfl

end Fasttravel.Proto
