import Beacon.Body
import Beacon.Proofs.Json.Compact

/-!
# Bodies, written and read

Reading undoes writing, for both bodies and whatever characters their values hold. So a body tells
one value only, and a value that was read survives being written again. Bodies are written in the
compact form, which is one line.
-/

namespace Beacon

/-! ## Reading back -/

theorem Health.decode_written (health : Health) :
    Health.decode (Utf8.octets health.encode) = .ok health := by
  have hread : Health.shape.decode (Utf8.octets health.encode) = .ok health.values := by
    rw [Health.encode, Utf8.octets_ofList]
    exact Json.Shape.decode_write (by decide) rfl
  rw [Health.decode, hread]
  rfl

theorem Info.decode_written (info : Info) : Info.decode (Utf8.octets info.encode) = .ok info := by
  have hread : Info.shape.decode (Utf8.octets info.encode) = .ok info.values := by
    rw [Info.encode, Utf8.octets_ofList]
    exact Json.Shape.decode_write (by decide) rfl
  rw [Info.decode, hread]
  rfl

/-! ## The compact form -/

theorem Health.isCompact_encode (health : Health) :
    Json.IsCompact health.encode.toList
      [("status", health.status), ("service", health.service)] := by
  rw [Health.encode, String.toList_ofList]
  exact Json.isCompact_write Health.shape health.values

theorem Info.isCompact_encode (info : Info) :
    Json.IsCompact info.encode.toList
      [("service", info.service), ("language", info.language), ("env", info.environment),
        ("version", info.version)] := by
  rw [Info.encode, String.toList_ofList]
  exact Json.isCompact_write Info.shape info.values

/-! ## Round trips -/

/-- Writing and reading a kind of body agree with each other, and what is written is the compact
form of the members. -/
structure RoundTrips {α : Type} (encode : α → String) (decode : Octets → Except Json.Fault α)
    (members : α → List (String × String)) : Prop where
  decode_encode : ∀ value, decode (Utf8.octets (encode value)) = .ok value
  injective : Function.Injective fun value => Utf8.octets (encode value)
  again : ∀ {body value}, decode body = .ok value →
    decode (Utf8.octets (encode value)) = .ok value
  compact : ∀ value, Json.IsCompact (encode value).toList (members value)
  oneLine : ∀ value, ∀ octet ∈ Utf8.octets (encode value), 0x20 ≤ octet.toNat

/-- All of it follows from reading back what is written in the compact form. -/
theorem RoundTrips.of_decode {α : Type} {encode : α → String}
    {decode : Octets → Except Json.Fault α} {members : α → List (String × String)}
    (hdecode : ∀ value, decode (Utf8.octets (encode value)) = .ok value)
    (hcompact : ∀ value, Json.IsCompact (encode value).toList (members value)) :
    RoundTrips encode decode members where
  decode_encode := hdecode
  injective := by
    intro first second heq
    have hsame : decode (Utf8.octets (encode first)) = decode (Utf8.octets (encode second)) :=
      congrArg decode heq
    rw [hdecode first, hdecode second] at hsame
    exact Except.ok.inj hsame
  again := fun _ => hdecode _
  compact := hcompact
  oneLine := by
    intro value octet hmem
    exact (hcompact value).le_of_mem_encode hmem

/-- Reading undoes writing, for every health body and every information body. -/
theorem bodies_round_trip :
    RoundTrips Health.encode Health.decode
        (fun health => [("status", health.status), ("service", health.service)]) ∧
      RoundTrips Info.encode Info.decode
        (fun info => [("service", info.service), ("language", info.language),
          ("env", info.environment), ("version", info.version)]) := by
  constructor
  · exact .of_decode Health.decode_written Health.isCompact_encode
  · exact .of_decode Info.decode_written Info.isCompact_encode

end Beacon
