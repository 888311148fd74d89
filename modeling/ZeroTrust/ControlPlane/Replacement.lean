/-
# `ZeroTrust.ControlPlane.Replacement` — a snapshot replaces the policy, or clears it

A `policy_snapshot` message passes through several checks before it becomes the
connector's policy.  Where the signature, the expiry date or the expiry itself is
refused, `replace_snapshot` clears the cache.  Before these comes the decoding of the
payload, and `handle_control_message` has no branch for a payload that is not a
snapshot: such a message changes nothing.

    `handlePolicySnapshot_cases`   what a message can do to the cache
    `decodes_marshal_iff`          of the controller's own payloads those decode whose
                                   ports fit `u16`; the table does not bound them
    `policy_replaced_iff`          so the policy is replaced or cleared iff the payload
                                   decodes, or there was none
-/
import ZeroTrust.Connector.Handler
import ZeroTrust.ControlPlane.SignedBytes

namespace ZeroTrust.ControlPlane.Replacement

open Lib
open Connector (HandlerState PolicyCache Inner handleControlMessage handlePolicySnapshot fromSlice)

/-! ## What a message does -/

section Handler

variable {L : Connector.Libraries}

/-- The cache is the index of the message's snapshot, or empty. -/
def ReplacedOrCleared (payload : ByteArray) (c : PolicyCache L) : Prop :=
  c.inner = .default L ∨
    ∃ snap validUntil, fromSlice payload = some snap ∧
      parseRfc3339 snap.snapshotMeta.validUntil = some validUntil ∧
      c.inner = PolicyCache.indexSnapshot L snap validUntil

/-- What `policy_snapshot` messages can do to the cache. -/
theorem handlePolicySnapshot_cases {s s' : HandlerState L} {payload : ByteArray}
    {now : SystemTime} (h : handlePolicySnapshot s payload now = some s') :
    (fromSlice payload = none ∧ s' = s) ∨
    (∃ snap, fromSlice payload = some snap ∧
      (s'.acl = s.acl.clear ∨
        ∃ validUntil, parseRfc3339 snap.snapshotMeta.validUntil = some validUntil ∧
          s'.acl = { s.acl with inner := PolicyCache.indexSnapshot L snap validUntil })) := by
  rcases Connector.handlePolicySnapshot_spec h with hsame | ⟨snap, accepted, hdecode, hreplace⟩
  · exact Or.inl hsame
  · refine Or.inr ⟨snap, hdecode, ?_⟩
    rcases PolicyCache.replaceSnapshot_cases hreplace with
      ⟨-, hclear⟩ | ⟨-, validUntil, haccepts, hindex⟩
    · exact Or.inl hclear
    · exact Or.inr ⟨validUntil, haccepts.parsed, hindex⟩

theorem handleControlMessage_policySnapshot (s : HandlerState L) (payload : ByteArray)
    (now : SystemTime) :
    handleControlMessage s ⟨"policy_snapshot", payload⟩ now =
      handlePolicySnapshot s payload now := by
  have hallowlist : ("policy_snapshot" : String) ≠ "agent_allowlist" := by decide
  have hallow : ("policy_snapshot" : String) ≠ "agent_allow" := by decide
  simp only [handleControlMessage, if_neg hallowlist, if_neg hallow, if_true]

/-- The handler replaces or clears iff the payload decodes, or nothing was there. -/
theorem replacedOrCleared_iff (s : HandlerState L) (payload : ByteArray) (now : SystemTime) :
    (∀ s', handleControlMessage s ⟨"policy_snapshot", payload⟩ now = some s' →
      ReplacedOrCleared payload s'.acl) ↔
    (fromSlice payload ≠ none ∨ s.acl.inner = .default L) := by
  rw [handleControlMessage_policySnapshot]
  constructor
  · intro hall
    cases hdecode : fromSlice payload with
    | some snap => exact Or.inl (Option.some_ne_none snap)
    | none =>
        have hsame : handlePolicySnapshot s payload now = some s := by
          simp only [handlePolicySnapshot, hdecode]
        rcases hall s hsame with hempty | ⟨snap, -, hsome, -⟩
        · exact Or.inr hempty
        · rw [hdecode] at hsome
          cases hsome
  · intro hor s' hs'
    rcases handlePolicySnapshot_cases hs' with ⟨hnone, rfl⟩ | ⟨snap, hsnap, hclear | hindex⟩
    · rcases hor with hdecodes | hempty
      · exact absurd hnone hdecodes
      · exact Or.inl hempty
    · exact Or.inl (by rw [hclear]; rfl)
    · obtain ⟨validUntil, hparsed, hindex⟩ := hindex
      exact Or.inr ⟨snap, validUntil, hsnap, hparsed, by rw [hindex]⟩

end Handler

/-! ## Which of the controller's payloads decode -/

theorem decodeU16_isSome {p : Int64} {v : UInt16}
    (h : Connector.decodeU16 (.num p.toInt) = some v) : PortInRange p := by
  simp only [Connector.decodeU16, Option.ite_none_right_eq_some] at h
  exact h.1

theorem withDefault_omitEmpty {name : String} {p : Option Int64} {kvs : List (String × Json)}
    {v : Option UInt16}
    (hfilter : kvs.filter (fun kv => kv.1 = name) = Controller.omitEmpty name p)
    (h : Connector.withDefault (Connector.decodeOption Connector.decodeU16) none name kvs =
      some v) : ∀ q ∈ p, PortInRange q := by
  cases p with
  | none => exact nofun
  | some w =>
      simp only [Connector.withDefault, Connector.member, hfilter, Controller.omitEmpty,
        Connector.decodeOption, Option.map_eq_some_iff] at h
      obtain ⟨u, hu, -⟩ := h
      intro q hq
      exact Option.some.inj hq ▸ decodeU16_isSome hu

/-- A resource that decodes has ports that fit. -/
theorem portsInRange_of_decodes {r : Controller.PolicyResource} {r' : Connector.PolicyResource}
    (h : Connector.PolicyResource.ofJson r.toJson = some r') : PortsInRange r := by
  obtain ⟨id, type, address, port, protocol, portFrom, portTo, identities, status⟩ := r
  simp only [Connector.PolicyResource.ofJson, Controller.PolicyResource.toJson,
    Connector.structFields, Option.bind_eq_bind, Option.bind_some, Option.bind_eq_some_iff] at h
  obtain ⟨_, -, _, -, _, -, v, hport, _, -, from', hfrom, to', hto, -⟩ := h
  refine ⟨?_, ?_, ?_⟩
  · rw [Connector.required_of_filter (v := .num port.toInt)] at hport
    · exact decodeU16_isSome hport
    · cases portFrom <;> cases portTo <;> rfl
  · refine withDefault_omitEmpty ?_ hfrom
    cases portFrom <;> cases portTo <;> rfl
  · refine withDefault_omitEmpty ?_ hto
    cases portFrom <;> cases portTo <;> rfl

theorem integral_resourceJson (r : Controller.PolicyResource) : r.toJson.integral = true := by
  obtain ⟨_, _, _, _, _, portFrom, portTo, identities, _⟩ := r
  have hidentities : Json.integralElems (identities.map .str) = true := by
    rw [Json.integralElems_iff]
    simp [Json.integral]
  cases portFrom <;> cases portTo <;>
    simp [Controller.PolicyResource.toJson, Controller.omitEmpty, Json.integral,
      Json.integralFields, hidentities]

theorem integral_snapshotJson (s : Controller.PolicySnapshot) : s.toJson.integral = true := by
  have hresources :
      Json.integralElems (s.resources.map Controller.PolicyResource.toJson) = true := by
    rw [Json.integralElems_iff]
    simp only [List.mem_map]
    rintro _ ⟨r, -, rfl⟩
    exact integral_resourceJson r
  simp [Controller.PolicySnapshot.toJson, Controller.SnapshotMeta.toJson, Json.integral,
    Json.integralFields, hresources]

/-- If a list decodes, each of its elements does. -/
theorem mapM_eq_some_mem {α β : Type} {f : α → Option β} :
    ∀ {xs : List α} {ys : List β}, xs.mapM f = some ys → ∀ x ∈ xs, ∃ y, f x = some y
  | x :: xs, ys, h, z, hz => by
      simp only [List.mapM_cons, Option.bind_eq_bind, Option.bind_eq_some_iff] at h
      obtain ⟨y, hy, ys', hys, -⟩ := h
      rcases List.mem_cons.mp hz with rfl | hz
      · exact ⟨y, hy⟩
      · exact mapM_eq_some_mem hys z hz

/-- A controller's snapshot is decoded iff all of its ports fit. -/
theorem decodes_marshal_iff (s : Controller.PolicySnapshot) :
    fromSlice s.marshal ≠ none ↔ ∀ r ∈ s.resources, PortsInRange r := by
  constructor
  · intro hdecodes r hr
    obtain ⟨s', hs'⟩ := Option.ne_none_iff_exists'.mp hdecodes
    rw [Controller.PolicySnapshot.marshal, Controller.marshal, Connector.fromSlice,
      Connector.parseSlice_render Controller.escapes_goEscape (integral_snapshotJson s)] at hs'
    simp only [Connector.PolicySnapshot.ofJson, Controller.PolicySnapshot.toJson,
      Connector.structFields, Option.bind_eq_bind, Option.bind_some,
      Option.bind_eq_some_iff] at hs'
    obtain ⟨_, -, resources, hresources, -⟩ := hs'
    rw [Connector.required_of_filter
      (v := .arr (s.resources.map Controller.PolicyResource.toJson)) _ (by rfl)] at hresources
    obtain ⟨r', hr'⟩ := mapM_eq_some_mem hresources r.toJson (List.mem_map_of_mem hr)
    exact portsInRange_of_decodes hr'
  · intro hports
    rw [decode_marshal hports]
    exact Option.some_ne_none _

/-! ## From the resources table -/

/-- The bounds of a row, where it has them, fit the connector's type. -/
structure BoundsInRange (row : Controller.ResourceRow) : Prop where
  portFrom : ∀ p ∈ row.portFrom, PortInRange p
  portTo : ∀ p ∈ row.portTo, PortInRange p

theorem portInRange_zero : PortInRange 0 := by decide

theorem portsInRange_policyResource {C : Controller.Libraries} {db : Controller.Database}
    {row : Controller.ResourceRow} :
    PortsInRange (Controller.policyResource C db row) ↔ BoundsInRange row := by
  constructor
  · rintro ⟨-, hfrom, hto⟩
    exact ⟨hfrom, hto⟩
  · rintro ⟨hfrom, hto⟩
    -- the single port is 0 or the lower bound
    have hport : PortInRange (row.portFrom.getD 0) := by
      cases hp : row.portFrom with
      | none => exact portInRange_zero
      | some p => exact hfrom p hp
    refine ⟨?_, hfrom, hto⟩
    simp only [Controller.policyResource]
    split
    · split
      · exact portInRange_zero
      · exact hport
    · exact hport

theorem portsInRange_sorted (r : Controller.PolicyResource) (identities : List String) :
    PortsInRange { r with allowedIdentities := identities } ↔ PortsInRange r :=
  ⟨fun h => ⟨h.port, h.portFrom, h.portTo⟩, fun h => ⟨h.port, h.portFrom, h.portTo⟩⟩

theorem portsInRange_compiled {C : Controller.Libraries} {db : Controller.Database}
    {networkId : String} :
    (∀ r ∈ Controller.compiledResources C db networkId, PortsInRange r) ↔
      ∀ row ∈ db.resources.rows, row.remoteNetworkId = networkId → BoundsInRange row := by
  rw [Controller.compiledResources, Controller.normalizeResources, List.forall_mem_map]
  simp only [List.mem_insertionSort, portsInRange_sorted]
  rw [Controller.policyResources, List.forall_mem_map]
  simp only [List.mem_insertionSort, portsInRange_policyResource, List.mem_filter,
    decide_eq_true_eq, and_imp]

/-- A snapshot the controller compiled carries the policy of the connector's network. -/
theorem compilePolicySnapshot_resources {C : Controller.Libraries} {db db' : Controller.Database}
    {connectorId : String} {ttl : Duration} {key : List UInt8} {now : SystemTime}
    {snap : Controller.PolicySnapshot}
    (h : Controller.compilePolicySnapshot C db connectorId ttl key now = (db', .ok snap)) :
    ∃ networkId, Controller.lookupConnectorNetwork db connectorId = .ok networkId ∧
      snap.resources = Controller.compiledResources C db networkId := by
  unfold Controller.compilePolicySnapshot at h
  split at h
  · cases h
  · split at h
    · cases h
    next networkId hnetwork =>
      simp only at h
      split at h
      · cases h
      next sig _ =>
        cases h
        exact ⟨networkId, hnetwork, rfl⟩

/-- **Replacement theorem.**  Whatever the cache held and whatever the payload is, a
`policy_snapshot` message leaves the index of its snapshot or an empty cache if and only
if the payload decodes or the cache was empty before.  A payload the controller compiled
decodes if and only if every resource of the connector's network has its port bounds,
where it has any, between 0 and 65535. -/
theorem policy_replaced_iff {L : Connector.Libraries} (s : HandlerState L) (payload : ByteArray)
    (now : SystemTime) :
    ((∀ s', handleControlMessage s ⟨"policy_snapshot", payload⟩ now = some s' →
        ReplacedOrCleared payload s'.acl) ↔
      (fromSlice payload ≠ none ∨ s.acl.inner = .default L)) ∧
    ∀ (C : Controller.Libraries) (db : Controller.Database) (connectorId networkId : String)
      (ttl : Duration) (key : List UInt8) (compiledAt : SystemTime)
      (snap : Controller.PolicySnapshot),
      (Controller.compilePolicySnapshot C db connectorId ttl key compiledAt).2 = .ok snap →
      Controller.lookupConnectorNetwork db connectorId = .ok networkId →
      payload = snap.marshal →
      (fromSlice payload ≠ none ↔
        ∀ row ∈ db.resources.rows, row.remoteNetworkId = networkId → BoundsInRange row) := by
  refine ⟨replacedOrCleared_iff s payload now, ?_⟩
  rintro C db connectorId networkId ttl key compiledAt snap hcompile hnetwork rfl
  obtain ⟨networkId', hnetwork', hresources⟩ :=
    compilePolicySnapshot_resources (Prod.ext rfl hcompile)
  obtain rfl : networkId = networkId' := Except.ok.inj (hnetwork.symm.trans hnetwork')
  rw [decodes_marshal_iff, hresources, portsInRange_compiled]

/-- The state of a connector that enforces a policy of one resource. -/
def enforcing : HandlerState ampersandConnector where
  allowlist := ∅
  acl :=
    { inner := PolicyCache.indexSnapshot ampersandConnector
        (received ampersandSnapshot) (1735690200 * nanosPerSec)
      signingKey := [107]
      staleGrace := 600 * nanosPerSec }
  latestFwPolicy := none
  firewallTx := []

/-- The message of the snapshot that `SignedBytes` compiles from `ampersandDatabase`: its
one row has the bounds 443 to 443. -/
def ampersandPayload : ByteArray :=
  (ampersandSnapshot.withSignature (Controller.encodeToString
    (ampersandHmac [107] (ampersandSnapshot.withSignature "").marshal))).marshal

/-- It decodes, and so it replaces or clears the policy of `enforcing`. -/
theorem ampersand_replaces :
    fromSlice ampersandPayload ≠ none ∧
      ∀ s', handleControlMessage enforcing ⟨"policy_snapshot", ampersandPayload⟩
          (1735689600 * nanosPerSec) = some s' → ReplacedOrCleared ampersandPayload s'.acl := by
  obtain ⟨hreplaced, hdecodes⟩ :=
    policy_replaced_iff enforcing ampersandPayload (1735689600 * nanosPerSec)
  have hfits : fromSlice ampersandPayload ≠ none := by
    refine (hdecodes ampersandController ampersandDatabase "con_1" "net_1" _ _ _ _
      ampersand_compiled rfl rfl).mpr ?_
    intro row hrow _
    obtain rfl := List.mem_singleton.mp hrow
    have h443 : PortInRange 443 := by decide
    exact ⟨fun p hp => Option.some.inj hp ▸ h443, fun p hp => Option.some.inj hp ▸ h443⟩
  exact ⟨hfits, hreplaced.mpr (Or.inl hfits)⟩

/-! ## A port the table takes and the connector does not -/

/-- The database with the resource's lower bound at 70000. -/
def largePortDatabase : Controller.Database :=
  { ampersandDatabase with
    resources := ⟨[{
      id := "res_1"
      type := "dns"
      address := "r&d.internal"
      protocol := "TCP"
      portFrom := some 70000
      portTo := none
      remoteNetworkId := "net_1"
      firewallStatus := "unprotected" }], List.nodup_singleton _⟩ }

/-- The controller compiles the resource with the large port, the message does not
decode, and the connector enforces what it enforced before. -/
theorem large_port_keeps_policy :
    ∃ snap, (Controller.compilePolicySnapshot ampersandController largePortDatabase "con_1"
        (600 * nanosPerSec) [107] (1735689600 * nanosPerSec)).2 = .ok snap ∧
      fromSlice snap.marshal = none ∧
      ∃ s', handleControlMessage enforcing ⟨"policy_snapshot", snap.marshal⟩
          (1735689600 * nanosPerSec) = some s' ∧
        s'.acl = enforcing.acl ∧ s'.acl.inner.hasSnapshot = true ∧
        ¬ ReplacedOrCleared snap.marshal s'.acl := by
  have hnetwork : Controller.lookupConnectorNetwork largePortDatabase "con_1" = .ok "net_1" := rfl
  have hcompiled : ∃ snap, (Controller.compilePolicySnapshot ampersandController largePortDatabase
      "con_1" (600 * nanosPerSec) [107] (1735689600 * nanosPerSec)).2 = .ok snap := by
    rw [Controller.compilePolicySnapshot_eq _ _ (by decide) hnetwork (by decide)]
    exact ⟨_, rfl⟩
  obtain ⟨snap, hsnap⟩ := hcompiled
  have hnone : fromSlice snap.marshal = none := by
    by_contra hdecodes
    obtain ⟨networkId, hnetwork', hresources⟩ :=
      compilePolicySnapshot_resources (Prod.ext rfl hsnap)
    obtain rfl : "net_1" = networkId := Except.ok.inj (hnetwork.symm.trans hnetwork')
    rw [← ne_eq, decodes_marshal_iff, hresources, portsInRange_compiled] at hdecodes
    have hbounds := hdecodes _ (List.mem_singleton.mpr rfl) rfl
    exact absurd (hbounds.portFrom 70000 rfl) (by decide)
  have hsnapshot : enforcing.acl.inner.hasSnapshot = true :=
    PolicyCache.hasSnapshot_indexSnapshot _ _
  refine ⟨snap, hsnap, hnone, enforcing, ?_, rfl, hsnapshot, ?_⟩
  · rw [handleControlMessage_policySnapshot]
    simp only [handlePolicySnapshot, hnone]
  · rintro (hempty | ⟨snap', -, hsome, -⟩)
    · rw [hempty] at hsnapshot
      cases hsnapshot
    · rw [hnone] at hsome
      cases hsome

end ZeroTrust.ControlPlane.Replacement
