/-
# `ZeroTrust.ControlPlane.SignedBytes` — one signature, two JSON libraries

The controller signs the bytes Go's `json.Marshal` makes of a snapshot.  The
connector never sees them: it decodes the message, clears the signature and
signs again what `serde_json::to_vec` makes of the result.  The two sides agree
on field order, on numbers, on omitted port bounds and on empty lists, so what
is left is how a string is escaped.  `encoding/json` also escapes `<`, `>`, `&`,
U+2028 and U+2029.

    `decode_marshal`             what the controller sends is decoded to the same
                                 values (`received`)
    `marshal_eq_toVec_iff`       the signed and the re-made bytes are equal iff no
                                 string has one of the five characters
    `bytes_agree_iff_no_special` the same for every signed snapshot, with the
                                 connector's verdict
-/
import Mathlib
import ZeroTrust.Connector.FailClosed
import ZeroTrust.Controller.PolicySnapshot

namespace ZeroTrust.ControlPlane

open Lib

/-! ## The values that arrive -/

/-- A port the connector's type can hold. -/
def PortInRange (p : Int64) : Prop := 0 ≤ p.toInt ∧ p.toInt < 2 ^ 16

instance (p : Int64) : Decidable (PortInRange p) := inferInstanceAs (Decidable (_ ∧ _))

structure PortsInRange (r : Controller.PolicyResource) : Prop where
  port : PortInRange r.port
  portFrom : ∀ p ∈ r.portFrom, PortInRange p
  portTo : ∀ p ∈ r.portTo, PortInRange p

def receivedPort (p : Int64) : UInt16 := UInt16.ofNat p.toInt.toNat

def receivedResource (r : Controller.PolicyResource) : Connector.PolicyResource where
  resourceId := r.resourceId
  resourceType := r.type
  address := r.address
  port := receivedPort r.port
  protocol := r.protocol
  portFrom := r.portFrom.map receivedPort
  portTo := r.portTo.map receivedPort
  allowedIdentities := r.allowedIdentities
  firewallStatus := r.firewallStatus

/-- The connector's value of a controller's snapshot. -/
def received (s : Controller.PolicySnapshot) : Connector.PolicySnapshot where
  snapshotMeta := {
    connectorId := s.snapshotMeta.connectorId
    policyVersion := s.snapshotMeta.policyVersion
    compiledAt := s.snapshotMeta.compiledAt
    validUntil := s.snapshotMeta.validUntil
    signature := s.snapshotMeta.signature }
  resources := s.resources.map receivedResource

theorem toNat_receivedPort {p : Int64} (h : PortInRange p) :
    ((receivedPort p).toNat : Int) = p.toInt := by
  obtain ⟨hlow, hhigh⟩ := h
  rw [receivedPort, UInt16.toNat_ofNat', Nat.mod_eq_of_lt (by omega), Int.toNat_of_nonneg hlow]

theorem optionField_received {name : String} {p : Option Int64} (h : ∀ v ∈ p, PortInRange v) :
    Connector.optionField name (p.map receivedPort) = Controller.omitEmpty name p := by
  cases p with
  | none => rfl
  | some v => simp [Connector.optionField, Controller.omitEmpty, toNat_receivedPort (h v rfl)]

theorem toJson_receivedResource {r : Controller.PolicyResource} (h : PortsInRange r) :
    (receivedResource r).toJson = r.toJson := by
  simp only [Connector.PolicyResource.toJson, Connector.PolicyResource.fields, receivedResource,
    Controller.PolicyResource.toJson, toNat_receivedPort h.port, optionField_received h.portFrom,
    optionField_received h.portTo]

theorem toJson_received {s : Controller.PolicySnapshot} (h : ∀ r ∈ s.resources, PortsInRange r) :
    (received s).toJson = s.toJson := by
  have hresources : s.resources.map (Connector.PolicyResource.toJson ∘ receivedResource) =
      s.resources.map Controller.PolicyResource.toJson :=
    List.map_congr_left fun r hr => toJson_receivedResource (h r hr)
  simp only [Connector.PolicySnapshot.toJson, Controller.PolicySnapshot.toJson, received,
    Connector.SnapshotMeta.toJson, Controller.SnapshotMeta.toJson, List.map_map, hresources]

/-! ## The two escapers -/

theorem lengthens_goEscape :
    Json.Lengthens Controller.goEscape Connector.serdeEscape Controller.htmlSpecial 5 := by
  refine Json.lengthens_escapeWith fun c hc => ?_
  rcases Controller.htmlSpecial_cases hc with rfl | rfl | rfl | rfl | rfl <;> decide

theorem utf8_ofList_inj {a b : List Char} :
    (String.ofList a).toUTF8 = (String.ofList b).toUTF8 ↔ a = b := by
  rw [String.toUTF8, String.toUTF8, String.toByteArray_inj]
  exact ⟨fun h => by simpa using congrArg String.toList h, fun h => h ▸ rfl⟩

/-- What the controller sends is decoded to the values it compiled. -/
theorem decode_marshal {s : Controller.PolicySnapshot} (h : ∀ r ∈ s.resources, PortsInRange r) :
    Connector.fromSlice s.marshal = some (received s) := by
  rw [Controller.PolicySnapshot.marshal, Controller.marshal, ← toJson_received h]
  exact Connector.fromSlice_render Controller.escapes_goEscape (received s)

/-! ## The bytes that are signed -/

section Agreement

variable {s : Controller.PolicySnapshot}

def resourceStrings (r : Controller.PolicyResource) : List String :=
  [r.resourceId, r.type, r.address, r.protocol, r.firewallStatus] ++ r.allowedIdentities

/-- The strings of a snapshot, its signature apart. -/
def strings (s : Controller.PolicySnapshot) : List String :=
  [s.snapshotMeta.connectorId, s.snapshotMeta.compiledAt, s.snapshotMeta.validUntil] ++
    s.resources.flatMap resourceStrings

/-- No string of the snapshot has one of the five characters that only the
controller's library escapes. -/
def NoSpecial (s : Controller.PolicySnapshot) : Prop :=
  ∀ t ∈ strings s, ∀ c ∈ t.toList, Controller.htmlSpecial c = false

instance (s : Controller.PolicySnapshot) : Decidable (NoSpecial s) :=
  decidable_of_iff ((strings s).all fun t => t.toList.all fun c => !Controller.htmlSpecial c)
    (by simp [NoSpecial])

theorem specials_omitEmpty {name : String}
    (hname : Json.specialsStr Controller.htmlSpecial name = 0) (p : Option Int64)
    (kvs : List (String × Json)) :
    Json.specialsFields Controller.htmlSpecial (Controller.omitEmpty name p ++ kvs) =
      Json.specialsFields Controller.htmlSpecial kvs := by
  cases p <;> simp [Controller.omitEmpty, Json.specialsFields, Json.specials, hname]

/-- A resource's member names are plain, so only its strings count. -/
theorem specials_resource (r : Controller.PolicyResource) :
    Json.specials Controller.htmlSpecial r.toJson = 0 ↔
      ∀ t ∈ resourceStrings r, ∀ c ∈ t.toList, Controller.htmlSpecial c = false := by
  have hnames : ∀ name ∈ ["resource_id", "type", "address", "port", "protocol", "port_from",
      "port_to", "allowed_identities", "firewall_status"],
      Json.specialsStr Controller.htmlSpecial name = 0 := by decide
  simp only [List.forall_mem_cons] at hnames
  obtain ⟨h1, h2, h3, h4, h5, h6, h7, h8, h9, -⟩ := hnames
  simp only [Controller.PolicyResource.toJson, Json.specials, List.append_assoc, List.cons_append,
    List.nil_append, Json.specialsFields, specials_omitEmpty h6, specials_omitEmpty h7,
    h1, h2, h3, h4, h5, h8, h9, Nat.zero_add, Nat.add_zero, Nat.add_eq_zero_iff,
    Json.specialsElems_eq_zero, Json.specialsStr_eq_zero, List.forall_mem_map, List.forall_mem_cons,
    resourceStrings]
  tauto

theorem specials_unsigned :
    Json.specials Controller.htmlSpecial (s.withSignature "").toJson = 0 ↔ NoSpecial s := by
  have hnames : ∀ name ∈ ["snapshot_meta", "resources", "connector_id", "policy_version",
      "compiled_at", "valid_until", "signature", ""],
      Json.specialsStr Controller.htmlSpecial name = 0 := by decide
  simp only [List.forall_mem_cons] at hnames
  obtain ⟨h1, h2, h3, h4, h5, h6, h7, h8, -⟩ := hnames
  simp only [Controller.PolicySnapshot.toJson, Controller.PolicySnapshot.withSignature,
    Controller.SnapshotMeta.toJson, Json.specials, Json.specialsFields, h1, h2, h3, h4, h5, h6, h7,
    h8, Nat.zero_add, Nat.add_zero, Nat.add_eq_zero_iff, Json.specialsElems_eq_zero,
    Json.specialsStr_eq_zero, List.forall_mem_map, specials_resource, NoSpecial, strings,
    List.cons_append, List.nil_append, List.forall_mem_cons, List.mem_flatMap]
  constructor
  · rintro ⟨⟨hid, hcompiled, hvalid⟩, hresources⟩
    refine ⟨hid, hcompiled, hvalid, ?_⟩
    rintro t ⟨r, hr, ht⟩
    exact hresources r hr t ht
  · rintro ⟨hid, hcompiled, hvalid, hresources⟩
    exact ⟨⟨hid, hcompiled, hvalid⟩, fun r hr t ht => hresources t ⟨r, hr, ht⟩⟩

theorem withSignature_withSignature (s : Controller.PolicySnapshot) (sig sig' : String) :
    (s.withSignature sig).withSignature sig' = s.withSignature sig' := rfl

/-- Clearing the signature commutes with the trip. -/
theorem unsigned_received (s : Controller.PolicySnapshot) :
    Connector.PolicyCache.unsigned (received s) = received (s.withSignature "") := rfl

/-- The bytes the connector signs again are the bytes the controller signed iff no
string needs the escapes that only the controller's library makes. -/
theorem marshal_eq_toVec_iff (h : ∀ r ∈ s.resources, PortsInRange r) :
    Connector.toVec (Connector.PolicyCache.unsigned (received s)) =
      (s.withSignature "").marshal ↔ NoSpecial s := by
  rw [unsigned_received, Connector.toVec, Controller.PolicySnapshot.marshal, Controller.marshal,
    toJson_received (s := s.withSignature "") h, utf8_ofList_inj, eq_comm,
    Json.render_eq_iff lengthens_goEscape (by decide), specials_unsigned]

end Agreement

/-! ## The signature that arrives -/

theorem isWhitespace_digitChar : ∀ n < 16, isWhitespace n.digitChar = false := by decide

/-- A hex signature is decoded as it stands: no blank to trim, no `sha256:`. -/
theorem providedSignature_hex {r : Connector.PolicySnapshot} {digest : List UInt8}
    (h : r.snapshotMeta.signature = Controller.encodeToString digest) :
    Connector.PolicyCache.providedSignature r = some digest := by
  have hlist : (Controller.encodeToString digest).toList = hexEncode digest :=
    String.toList_ofList
  have htrim : trim (Controller.encodeToString digest) = Controller.encodeToString digest := by
    refine trim_eq_self fun c hc => ?_
    obtain ⟨n, hn, rfl⟩ := mem_hexEncode (hlist ▸ hc)
    exact isWhitespace_digitChar n hn
  have hplain : ¬ "sha256:".toList <+: hexEncode digest := by
    intro hpre
    obtain ⟨n, hn, heq⟩ := mem_hexEncode (hpre.subset (by decide : 's' ∈ "sha256:".toList))
    have : ∀ n < 16, 's' ≠ n.digitChar := by decide
    exact this n hn heq
  rw [Connector.PolicyCache.providedSignature, h, htrim, dropLeading, hlist, if_neg hplain, hlist,
    hexDecode_hexEncode]

/-- A snapshot whose bytes agree is accepted under the key it was signed with. -/
theorem verifySnapshot_received {L : Connector.Libraries} {s : Controller.PolicySnapshot}
    {key : List UInt8} {sig : String} (hsig : Controller.signSnapshot L.hmacSha256 key s = .ok sig)
    (hbytes : Connector.toVec (Connector.PolicyCache.unsigned (received (s.withSignature sig))) =
      (s.withSignature "").marshal)
    {c : Connector.PolicyCache L} (hkey : c.signingKey = key) :
    c.verifySnapshot (received (s.withSignature sig)) = true := by
  unfold Controller.signSnapshot at hsig
  split at hsig
  · cases hsig
  next hlen =>
    rw [Except.ok.injEq] at hsig
    rw [Connector.PolicyCache.verifySnapshot_iff, hkey, hbytes]
    exact ⟨fun hnil => hlen (by rw [hnil]; rfl), providedSignature_hex hsig.symm⟩

/-- A snapshot that is signed under the cache's key, has no special character and is
current is applied when it arrives. -/
theorem accepts_received {L : Connector.Libraries} {s : Controller.PolicySnapshot}
    {key : List UInt8} {sig : String} {now validUntil : SystemTime}
    (hsig : Controller.signSnapshot L.hmacSha256 key s = .ok sig)
    (hports : ∀ r ∈ s.resources, PortsInRange r) (hplain : NoSpecial s)
    {c : Connector.PolicyCache L} (hkey : c.signingKey = key)
    (hparsed : parseRfc3339 s.snapshotMeta.validUntil = some validUntil)
    (hfits : addDuration validUntil c.staleGrace = some (validUntil + c.staleGrace))
    (hcurrent : now ≤ validUntil + c.staleGrace) :
    c.Accepts (received (s.withSignature sig)) now validUntil where
  verified := verifySnapshot_received hsig
    ((marshal_eq_toVec_iff (s := s.withSignature sig) hports).mpr hplain) hkey
  parsed := hparsed
  fits := hfits
  current := hcurrent

/-- **Agreement theorem.**  Take any snapshot with ports in range, signed under any
key.  The connector decodes the message, makes again exactly the bytes that were
signed and accepts the snapshot under that key, if and only if no string of the
snapshot contains `<`, `>`, `&`, U+2028 or U+2029. -/
theorem bytes_agree_iff_no_special (L : Connector.Libraries) (key : List UInt8)
    (s : Controller.PolicySnapshot) (sig : String)
    (hsig : Controller.signSnapshot L.hmacSha256 key s = .ok sig)
    (hports : ∀ r ∈ s.resources, PortsInRange r) :
    (∃ r, Connector.fromSlice (s.withSignature sig).marshal = some r ∧
      Connector.toVec (Connector.PolicyCache.unsigned r) = (s.withSignature "").marshal ∧
      ∀ c : Connector.PolicyCache L, c.signingKey = key → c.verifySnapshot r = true) ↔
    NoSpecial s := by
  have hdecode := decode_marshal (s := s.withSignature sig) hports
  have hiff := marshal_eq_toVec_iff (s := s.withSignature sig) hports
  constructor
  · rintro ⟨r, hr, hbytes, -⟩
    obtain rfl : received (s.withSignature sig) = r := Option.some.inj (hdecode.symm.trans hr)
    exact hiff.mp hbytes
  · intro hplain
    have hbytes := hiff.mpr hplain
    exact ⟨_, hdecode, hbytes, fun c hkey => verifySnapshot_received hsig hbytes hkey⟩

/-- The policy of `Connector.PolicyCache.hostSnapshot`, on the controller. -/
def hostPolicy : Controller.PolicySnapshot where
  snapshotMeta := {
    connectorId := "con_1"
    policyVersion := 1
    compiledAt := "2025-01-01T00:00:00Z"
    validUntil := "2025-01-01T00:10:00Z"
    signature := "" }
  resources := [{
    resourceId := "res_db"
    type := "dns"
    address := "db.internal"
    port := 0
    protocol := "TCP"
    portFrom := none
    portTo := none
    allowedIdentities := ["identity-1"]
    firewallStatus := "unprotected" }]

theorem hostPolicy_agrees :
    ∃ r, Connector.fromSlice (hostPolicy.withSignature
        "c04e849b3e4a5ed7b8469025bbfc1103d83b047d430fa3b56a176180427a0b60").marshal = some r ∧
      Connector.toVec (Connector.PolicyCache.unsigned r) = (hostPolicy.withSignature "").marshal ∧
      ∀ c : Connector.PolicyCache (.recorded Connector.PolicyCache.hostSnapshotDigest),
        c.signingKey = [107] → c.verifySnapshot r = true := by
  refine (bytes_agree_iff_no_special (.recorded Connector.PolicyCache.hostSnapshotDigest) [107]
    hostPolicy _ (by rfl) ?_).mpr (by decide)
  intro r hr
  obtain rfl := List.mem_singleton.mp hr
  exact ⟨by decide, nofun, nofun⟩

/-- Where the bytes differ and HMAC tells them apart, the snapshot is rejected. -/
theorem rejected_of_special {L : Connector.Libraries} {s : Controller.PolicySnapshot}
    {key : List UInt8} (hmac : L.hmacSha256 key (s.withSignature "").marshal ≠
      L.hmacSha256 key (Connector.toVec (received (s.withSignature ""))))
    {c : Connector.PolicyCache L} (hkey : c.signingKey = key) :
    c.verifySnapshot (received (s.withSignature (Controller.encodeToString
      (L.hmacSha256 key (s.withSignature "").marshal)))) = false := by
  rw [← Bool.not_eq_true, Connector.PolicyCache.verifySnapshot_iff, providedSignature_hex rfl, hkey]
  rintro ⟨-, hsame⟩
  exact hmac (Option.some.inj hsame)

/-! ## One ampersand -/

/-- One resource, at `r&d.internal`, open to one user. -/
def ampersandDatabase : Controller.Database where
  connectors := ⟨[{ id := "con_1", remoteNetworkId := "net_1" }], by decide⟩
  remoteNetworkConnectors := ∅
  resources := ⟨[{
    id := "res_1"
    type := "dns"
    address := "r&d.internal"
    protocol := "TCP"
    portFrom := some 443
    portTo := some 443
    remoteNetworkId := "net_1"
    firewallStatus := "unprotected" }], by decide⟩
  accessRules := ⟨[{ id := "rule_1", resourceId := "res_1", enabled := 1 }], by decide⟩
  accessRuleGroups := ⟨[{ ruleId := "rule_1", groupId := "grp_1" }], by decide⟩
  userGroupMembers := ⟨[{ userId := "usr_1", groupId := "grp_1" }], by decide⟩
  users := ⟨[{ id := "usr_1", status := "Active", certificateIdentity := some "identity-1" }],
    by decide⟩
  connectorPolicyVersions := ∅

/-- What is compiled from it, before it is signed. -/
def ampersandSnapshot : Controller.PolicySnapshot where
  snapshotMeta := {
    connectorId := "con_1"
    policyVersion := 1
    compiledAt := "2025-01-01T00:00:00Z"
    validUntil := "2025-01-01T00:10:00Z"
    signature := "" }
  resources := [{
    resourceId := "res_1"
    type := "dns"
    address := "r&d.internal"
    port := 443
    protocol := "TCP"
    portFrom := some 443
    portTo := some 443
    allowedIdentities := ["identity-1"]
    firewallStatus := "unprotected" }]

/-- HMAC-SHA256 under the key `k`, of the bytes that are signed and of the bytes
that the connector makes instead. -/
def ampersandHmac (_key : List UInt8) (data : ByteArray) : List UInt8 :=
  if data = (ampersandSnapshot.withSignature "").marshal then
    [164, 186, 203, 34, 225, 250, 14, 24, 34, 39, 25, 101, 199, 123, 175, 180,
      135, 210, 1, 18, 198, 109, 251, 200, 251, 168, 234, 231, 25, 154, 128, 42]
  else
    [220, 244, 206, 84, 198, 249, 201, 110, 58, 158, 30, 113, 236, 13, 44, 251,
      149, 111, 224, 184, 242, 146, 213, 10, 204, 241, 255, 245, 73, 194, 143, 53]

def ampersandController : Controller.Libraries where
  unicode := .ascii
  collate a b := a ≤ b
  sqlLower := UnicodeData.ascii.stringsToLower
  parseCIDR _ := false
  sha256 _ := [213, 155, 7, 102, 76, 223, 86, 106, 39, 212, 33, 205, 158, 129, 241, 6,
    89, 173, 55, 46, 241, 188, 133, 149, 100, 237, 53, 82, 97, 85, 27, 167]
  hmacSha256 := ampersandHmac

def ampersandConnector : Connector.Libraries :=
  { Connector.Libraries.recorded [] with hmacSha256 := ampersandHmac }

theorem ampersand_portsInRange : ∀ r ∈ ampersandSnapshot.resources, PortsInRange r := by
  intro r hr
  obtain rfl := List.mem_singleton.mp hr
  have h443 : PortInRange 443 := by decide
  exact ⟨h443, fun p hp => Option.some.inj hp ▸ h443, fun p hp => Option.some.inj hp ▸ h443⟩

theorem ampersand_special : ¬ NoSpecial ampersandSnapshot := by
  intro h
  exact absurd (h "r&d.internal" (by decide) '&' (by decide)) (by decide)

theorem ampersand_bytes : Connector.toVec (received (ampersandSnapshot.withSignature "")) ≠
    (ampersandSnapshot.withSignature "").marshal := fun h =>
  ampersand_special ((marshal_eq_toVec_iff ampersand_portsInRange).mp h)

theorem ampersand_compiled :
    (Controller.compilePolicySnapshot ampersandController ampersandDatabase "con_1"
      (600 * nanosPerSec) [107] (1735689600 * nanosPerSec)).2 =
      .ok (ampersandSnapshot.withSignature (Controller.encodeToString
        (ampersandHmac [107] (ampersandSnapshot.withSignature "").marshal))) := by
  have hunsigned : (Controller.compileUnsigned ampersandController ampersandDatabase "con_1"
      "net_1" (600 * nanosPerSec) (1735689600 * nanosPerSec)).2 = ampersandSnapshot := rfl
  rw [Controller.compilePolicySnapshot_eq _ _ (by decide)
    (show Controller.lookupConnectorNetwork ampersandDatabase "con_1" = .ok "net_1" from rfl)
    (by decide)]
  simp only [hunsigned, show ampersandController.hmacSha256 = ampersandHmac from rfl]

/-- The controller compiles and signs this snapshot; the connector, under the same
key, makes other bytes of it and rejects it. -/
theorem ampersand_rejected :
    ∃ sig, (Controller.compilePolicySnapshot ampersandController ampersandDatabase "con_1"
        (600 * nanosPerSec) [107] (1735689600 * nanosPerSec)).2 =
        .ok (ampersandSnapshot.withSignature sig) ∧
      (∀ r ∈ ampersandSnapshot.resources, PortsInRange r) ∧
      ∃ r, Connector.fromSlice (ampersandSnapshot.withSignature sig).marshal = some r ∧
        Connector.toVec (Connector.PolicyCache.unsigned r) ≠
          (ampersandSnapshot.withSignature "").marshal ∧
        ∀ c : Connector.PolicyCache ampersandConnector, c.signingKey = [107] →
          c.verifySnapshot r = false := by
  refine ⟨_, ampersand_compiled, ampersand_portsInRange, _,
    decode_marshal (s := ampersandSnapshot.withSignature _) ampersand_portsInRange, ?_,
    fun c hkey => ?_⟩
  · rw [unsigned_received, withSignature_withSignature]
    exact ampersand_bytes
  have hlibrary : ampersandConnector.hmacSha256 = ampersandHmac := rfl
  have hdigests : ampersandHmac [107] (ampersandSnapshot.withSignature "").marshal ≠
      ampersandHmac [107] (Connector.toVec (received (ampersandSnapshot.withSignature ""))) := by
    rw [ampersandHmac, if_pos rfl, ampersandHmac, if_neg ampersand_bytes]
    decide
  rw [← hlibrary] at hdigests ⊢
  exact rejected_of_special hdigests hkey

end ZeroTrust.ControlPlane
