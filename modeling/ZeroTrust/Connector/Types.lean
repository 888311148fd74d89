/-
# `ZeroTrust.Connector.Types` — the connector's policy types and their JSON

`policy/types.rs`: the snapshot the controller pushes, with the derived serde
implementations.  `toVec` is `serde_json::to_vec`, `fromSlice` is
`serde_json::from_slice`.

Serializing writes the fields in declaration order and leaves out a `None` port
bound.  Deserializing follows the derived visitors: an object in any order with
unknown members ignored and a repeated one refused, or an array with the fields
in order; a missing `firewall_status` is `"unprotected"`, a missing port bound is
`None`, any other missing field or a value outside the field's type is an error.

The theorem of the module is that the two compose: whatever lawful escaper wrote
the JSON of a snapshot, reading it gives the snapshot back (`fromSlice_render`).
-/
import Mathlib.Algebra.Ring.Int.Defs
import Mathlib.Data.UInt
import ZeroTrust.Lib.Json

namespace ZeroTrust.Connector

open Lib (Json)

structure SnapshotMeta where
  connectorId : String
  policyVersion : Int64
  compiledAt : String
  validUntil : String
  signature : String
  deriving DecidableEq

structure PolicyResource where
  resourceId : String
  resourceType : String
  address : String
  port : UInt16
  protocol : String
  portFrom : Option UInt16
  portTo : Option UInt16
  allowedIdentities : List String
  firewallStatus : String
  deriving DecidableEq

structure PolicySnapshot where
  snapshotMeta : SnapshotMeta
  resources : List PolicyResource
  deriving DecidableEq

def defaultFirewallStatus : String := "unprotected"

/-! ## Serializing -/

def optionField (name : String) : Option UInt16 → List (String × Json)
  | none => []
  | some p => [(name, .num p.toNat)]

def SnapshotMeta.toJson (m : SnapshotMeta) : Json :=
  .obj [("connector_id", .str m.connectorId), ("policy_version", .num m.policyVersion.toInt),
    ("compiled_at", .str m.compiledAt), ("valid_until", .str m.validUntil),
    ("signature", .str m.signature)]

def PolicyResource.fields (r : PolicyResource) : List (String × Json) :=
  [("resource_id", .str r.resourceId), ("type", .str r.resourceType),
      ("address", .str r.address), ("port", .num r.port.toNat), ("protocol", .str r.protocol)] ++
    optionField "port_from" r.portFrom ++ optionField "port_to" r.portTo ++
    [("allowed_identities", .arr (r.allowedIdentities.map .str)),
      ("firewall_status", .str r.firewallStatus)]

def PolicyResource.toJson (r : PolicyResource) : Json := .obj r.fields

def PolicySnapshot.toJson (s : PolicySnapshot) : Json :=
  .obj [("snapshot_meta", s.snapshotMeta.toJson),
    ("resources", .arr (s.resources.map PolicyResource.toJson))]

/-- serde_json escapes the quote, the backslash and the control characters. -/
def serdeEscape : Char → List Char := Json.escapeWith fun _ => false

theorem escapes_serdeEscape : Json.Escapes serdeEscape := Json.escapes_escapeWith nofun

/-- `serde_json::to_vec`. -/
def toVec (s : PolicySnapshot) : ByteArray :=
  (String.ofList (Json.render serdeEscape s.toJson)).toUTF8

/-! ## Deserializing -/

/-- The members of a struct value: an object's, or an array's in field order. -/
def structFields (names : List String) : Json → Option (List (String × Json))
  | .obj kvs => some kvs
  | .arr xs => if xs.length ≤ names.length then some (names.zip xs) else none
  | _ => none

/-- One field of a struct: `some none` if it is missing, `none` if repeated. -/
def member (name : String) (kvs : List (String × Json)) : Option (Option Json) :=
  match kvs.filter fun kv => kv.1 = name with
  | [] => some none
  | [kv] => some (some kv.2)
  | _ => none

/-- A field without a default. -/
def required {α : Type} (decode : Json → Option α) (name : String)
    (kvs : List (String × Json)) : Option α :=
  match member name kvs with
  | some (some v) => decode v
  | _ => none

/-- A field with a default for when it is missing. -/
def withDefault {α : Type} (decode : Json → Option α) (default : α) (name : String)
    (kvs : List (String × Json)) : Option α :=
  match member name kvs with
  | some (some v) => decode v
  | some none => some default
  | none => none

def decodeString : Json → Option String
  | .str s => some s
  | _ => none

def decodeU16 : Json → Option UInt16
  | .num n => if 0 ≤ n ∧ n < 2 ^ 16 then some (UInt16.ofNat n.toNat) else none
  | _ => none

def decodeI64 : Json → Option Int64
  | .num n => if -2 ^ 63 ≤ n ∧ n < 2 ^ 63 then some (Int64.ofInt n) else none
  | _ => none

def decodeOption {α : Type} (decode : Json → Option α) : Json → Option (Option α)
  | .null => some none
  | v => (decode v).map some

def decodeVec {α : Type} (decode : Json → Option α) : Json → Option (List α)
  | .arr xs => xs.mapM decode
  | _ => none

def SnapshotMeta.ofJson (j : Json) : Option SnapshotMeta := do
  let kvs ← structFields
    ["connector_id", "policy_version", "compiled_at", "valid_until", "signature"] j
  let connectorId ← required decodeString "connector_id" kvs
  let policyVersion ← required decodeI64 "policy_version" kvs
  let compiledAt ← required decodeString "compiled_at" kvs
  let validUntil ← required decodeString "valid_until" kvs
  let signature ← required decodeString "signature" kvs
  some { connectorId, policyVersion, compiledAt, validUntil, signature }

def PolicyResource.ofJson (j : Json) : Option PolicyResource := do
  let kvs ← structFields
    ["resource_id", "type", "address", "port", "protocol", "port_from", "port_to",
      "allowed_identities", "firewall_status"] j
  let resourceId ← required decodeString "resource_id" kvs
  let resourceType ← required decodeString "type" kvs
  let address ← required decodeString "address" kvs
  let port ← required decodeU16 "port" kvs
  let protocol ← required decodeString "protocol" kvs
  let portFrom ← withDefault (decodeOption decodeU16) none "port_from" kvs
  let portTo ← withDefault (decodeOption decodeU16) none "port_to" kvs
  let allowedIdentities ← required (decodeVec decodeString) "allowed_identities" kvs
  let firewallStatus ← withDefault decodeString defaultFirewallStatus "firewall_status" kvs
  some { resourceId, resourceType, address, port, protocol, portFrom, portTo,
         allowedIdentities, firewallStatus }

def PolicySnapshot.ofJson (j : Json) : Option PolicySnapshot := do
  let kvs ← structFields ["snapshot_meta", "resources"] j
  let snapshotMeta ← required SnapshotMeta.ofJson "snapshot_meta" kvs
  let resources ← required (decodeVec PolicyResource.ofJson) "resources" kvs
  some { snapshotMeta, resources }

/-- `serde_json::from_slice` at a type read by `decode`.  A member that no field is for it skips
without looking at its strings; here a lone surrogate or an invalid UTF-8 byte in one is refused
as it is in a field. -/
def parseSlice {α : Type} (decode : Json → Option α) (payload : ByteArray) : Option α := do
  let text ← String.fromUTF8? payload
  let j ← Json.parse text.toList
  decode j

/-- `serde_json::from_slice::<PolicySnapshot>`. -/
def fromSlice (payload : ByteArray) : Option PolicySnapshot :=
  parseSlice PolicySnapshot.ofJson payload

/-! ## Reading back what was written -/

@[simp] theorem decodeU16_toNat (p : UInt16) : decodeU16 (.num p.toNat) = some p := by
  have hlt : p.toNat < 2 ^ 16 := p.toNat_lt
  simp only [decodeU16]
  rw [if_pos ⟨by omega, by omega⟩, Int.toNat_natCast, UInt16.ofNat_toNat]

@[simp] theorem decodeI64_toInt (v : Int64) : decodeI64 (.num v.toInt) = some v := by
  simp only [decodeI64]
  rw [if_pos ⟨v.le_toInt, v.toInt_lt⟩, Int64.ofInt_toInt]

theorem mapM_map_of_inverse {α β : Type} {encode : α → β} {decode : β → Option α}
    (h : ∀ x, decode (encode x) = some x) : ∀ xs : List α, (xs.map encode).mapM decode = some xs
  | [] => rfl
  | x :: xs => by
      simp only [List.map_cons, List.mapM_cons, h, mapM_map_of_inverse h xs]
      rfl

theorem decodeVec_map {α : Type} (encode : α → Json) (decode : Json → Option α)
    (h : ∀ x, decode (encode x) = some x) (xs : List α) :
    decodeVec decode (.arr (xs.map encode)) = some xs :=
  mapM_map_of_inverse h xs

theorem required_of_filter {α : Type} (decode : Json → Option α) {name : String} {v : Json}
    {kvs : List (String × Json)} (h : kvs.filter (fun kv => kv.1 = name) = [(name, v)]) :
    required decode name kvs = decode v := by
  simp [required, member, h]

theorem withDefault_of_filter {name : String} {p : Option UInt16} {kvs : List (String × Json)}
    (h : kvs.filter (fun kv => kv.1 = name) = optionField name p) :
    withDefault (decodeOption decodeU16) none name kvs = some p := by
  cases p <;> simp [withDefault, member, h, optionField, decodeOption]

theorem SnapshotMeta.ofJson_toJson (m : SnapshotMeta) : ofJson m.toJson = some m := by
  simp [ofJson, toJson, structFields, required, member, decodeString]

/-- The member of each name, whichever port bounds are written. -/
theorem PolicyResource.filter_fields (r : PolicyResource) (name : String) (v : Json)
    (h : (name, v) ∈ [("resource_id", .str r.resourceId), ("type", .str r.resourceType),
      ("address", .str r.address), ("port", .num r.port.toNat), ("protocol", .str r.protocol),
      ("allowed_identities", .arr (r.allowedIdentities.map .str)),
      ("firewall_status", .str r.firewallStatus)]) :
    r.fields.filter (fun kv => kv.1 = name) = [(name, v)] := by
  obtain ⟨id, type, address, port, protocol, portFrom, portTo, identities, status⟩ := r
  simp only [List.mem_cons, Prod.mk.injEq, List.not_mem_nil, or_false] at h
  rcases h with ⟨rfl, rfl⟩ | ⟨rfl, rfl⟩ | ⟨rfl, rfl⟩ | ⟨rfl, rfl⟩ | ⟨rfl, rfl⟩ | ⟨rfl, rfl⟩ |
    ⟨rfl, rfl⟩ <;> cases portFrom <;> cases portTo <;> rfl

theorem PolicyResource.ofJson_toJson (r : PolicyResource) : ofJson r.toJson = some r := by
  have hfrom : r.fields.filter (fun kv => kv.1 = "port_from") =
      optionField "port_from" r.portFrom := by
    obtain ⟨_, _, _, _, _, portFrom, portTo, _, _⟩ := r
    cases portFrom <;> cases portTo <;> rfl
  have hto : r.fields.filter (fun kv => kv.1 = "port_to") = optionField "port_to" r.portTo := by
    obtain ⟨_, _, _, _, _, portFrom, portTo, _, _⟩ := r
    cases portFrom <;> cases portTo <;> rfl
  have hstatus : withDefault decodeString defaultFirewallStatus "firewall_status" r.fields =
      some r.firewallStatus := by
    have := r.filter_fields "firewall_status" (.str r.firewallStatus) (by simp)
    simp [withDefault, member, this, decodeString]
  have hstring : ∀ name s, (name, Json.str s) ∈ [("resource_id", Json.str r.resourceId),
      ("type", .str r.resourceType), ("address", .str r.address), ("protocol", .str r.protocol)] →
      required decodeString name r.fields = some s := by
    intro name s h
    show required decodeString name r.fields = decodeString (.str s)
    refine required_of_filter decodeString (r.filter_fields name (.str s) ?_)
    simp only [List.mem_cons] at h ⊢
    tauto
  have hport : required decodeU16 "port" r.fields = some r.port :=
    (required_of_filter _ (r.filter_fields _ _ (by simp))).trans (decodeU16_toNat _)
  have hidentities : required (decodeVec decodeString) "allowed_identities" r.fields =
      some r.allowedIdentities :=
    (required_of_filter _ (r.filter_fields _ _ (by simp))).trans
      (decodeVec_map .str decodeString (fun _ => rfl) _)
  simp only [ofJson, toJson, structFields, Option.bind_eq_bind, Option.bind_some, hport,
    hidentities, hstatus, withDefault_of_filter hfrom, withDefault_of_filter hto,
    hstring "resource_id" r.resourceId (by simp),
    hstring "type" r.resourceType (by simp),
    hstring "address" r.address (by simp),
    hstring "protocol" r.protocol (by simp)]

theorem PolicySnapshot.ofJson_toJson (s : PolicySnapshot) : ofJson s.toJson = some s := by
  have hresources : decodeVec PolicyResource.ofJson (.arr (s.resources.map PolicyResource.toJson)) =
      some s.resources := decodeVec_map _ _ PolicyResource.ofJson_toJson _
  simp [ofJson, toJson, structFields, required, member, SnapshotMeta.ofJson_toJson, hresources]

theorem fromUTF8?_toUTF8 (s : String) : String.fromUTF8? s.toUTF8 = some s := by
  simp only [String.fromUTF8?, Option.dite_none_right_eq_some, Option.some.injEq]
  exact ⟨s.isValidUTF8, rfl⟩

/-- What a lawful escaper wrote is decoded as the value it was written from. -/
theorem parseSlice_render {α : Type} {decode : Json → Option α} {esc : Char → List Char}
    (hesc : Json.Escapes esc) {j : Json} (hint : j.integral = true) :
    parseSlice decode (String.ofList (Json.render esc j)).toUTF8 = decode j := by
  simp only [parseSlice, fromUTF8?_toUTF8, Option.bind_eq_bind, Option.bind_some,
    String.toList_ofList, Json.parse_render hesc hint]

theorem PolicyResource.integral_toJson (r : PolicyResource) : r.toJson.integral = true := by
  obtain ⟨_, _, _, _, _, portFrom, portTo, identities, _⟩ := r
  have hidentities : Json.integralElems (identities.map .str) = true := by
    rw [Json.integralElems_iff]
    simp [Json.integral]
  cases portFrom <;> cases portTo <;>
    simp [toJson, fields, optionField, Json.integral, Json.integralFields, hidentities]

theorem PolicySnapshot.integral_toJson (s : PolicySnapshot) : s.toJson.integral = true := by
  have hresources : Json.integralElems (s.resources.map PolicyResource.toJson) = true := by
    rw [Json.integralElems_iff]
    simp only [List.mem_map]
    rintro _ ⟨r, -, rfl⟩
    exact r.integral_toJson
  simp [toJson, SnapshotMeta.toJson, Json.integral, Json.integralFields, hresources]

/-- **Round trip.**  A snapshot is read back from its JSON, whichever lawful
escaper wrote it. -/
theorem fromSlice_render {esc : Char → List Char} (hesc : Json.Escapes esc) (s : PolicySnapshot) :
    fromSlice (String.ofList (Json.render esc s.toJson)).toUTF8 = some s := by
  rw [fromSlice, parseSlice_render hesc s.integral_toJson, PolicySnapshot.ofJson_toJson]

end ZeroTrust.Connector
