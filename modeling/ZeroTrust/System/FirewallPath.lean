/-
# `ZeroTrust.System.FirewallPath` — from the tables to the agent's chain

A protected resource is closed on its own machine to everything but the tunnel.  The rows
of the tables say which ports that are (`Closes`), and this is the path they take:

    tables ──snapshot──▶ connector ──firewall_policy──▶ agent ──nft──▶ the kernel's chain

The connector writes the port rules of an accepted snapshot's protected resources as JSON,
keeps them for the agents that connect and broadcasts them; an agent decodes them and
synchronizes its chain.

    `parse_firewallPayload`   the agent decodes the rules the connector listed
    `mem_listedPorts_iff`     which are the ports the rows close
    `chain_follows_rows`      so the chain then drops what the rows close, and what an
                              earlier process left behind
-/
import ZeroTrust.Agent.Inbound
import ZeroTrust.Connector.FirewallPush
import ZeroTrust.System.Access

namespace ZeroTrust.System.FirewallPath

open Lib
open Controller (Database ResourceRow)
open Connector (HandlerState PolicyCache handlePolicySnapshot fromSlice firewallPolicy portRule
  extractPortRules parseSlice serdeEscape)
open Connector.FirewallPush (firewallMessage)
open Agent (Environment Packet PortRule FirewallPolicy Host LeftBehind SameProtocol Wants
  handleInboundMessage)
open ControlPlane (received receivedPort PortInRange listedPorts)
open ControlPlane.Replacement (BoundsInRange)
open ControlPlane.SnapshotExpiry (Settings validUntil)

/-! ## What the rows close -/

/-- The protocol of the row's rules. -/
def rowProtocol (row : ResourceRow) : String := if row.protocol ≠ "" then row.protocol else "TCP"

/-- The ports that are closed for a protected row: both bounds and what is between, or the
lower bound if it stands alone. -/
def ClosesPort (row : ResourceRow) (port : UInt16) : Prop :=
  match row.portFrom, row.portTo with
  | some first, some last => first.toInt ≤ port.toNat ∧ (port.toNat : Int) ≤ last.toInt
  | some first, none => first ≠ 0 ∧ (port.toNat : Int) = first.toInt
  | none, _ => False

/-- The tables close the port for the protocol. -/
def Closes (db : Database) (networkId : String) (lower : String → String) (port : UInt16)
    (proto : String) : Prop :=
  ∃ row, InNetwork db networkId row ∧ row.firewallStatus = "protected" ∧ ClosesPort row port ∧
    lower (rowProtocol row) = proto

/-! ## The message -/

section Payload

/-- What is broadcast for a snapshot. -/
def firewallPayload (snap : Connector.PolicySnapshot) : ByteArray :=
  (String.ofList (Json.render serdeEscape (firewallPolicy snap))).toUTF8

/-- An accepted snapshot is kept, and its port rules are kept and broadcast. -/
theorem handlePolicySnapshot_pushes {L : Connector.Libraries} {s : HandlerState L}
    {payload : ByteArray} {now validUntil : SystemTime} {snap : Connector.PolicySnapshot}
    (hdecode : fromSlice payload = some snap) (haccepts : s.acl.Accepts snap now validUntil) :
    ∃ s', handlePolicySnapshot s payload now = some s' ∧
      s'.latestFwPolicy = some (firewallPayload snap) ∧
      s'.firewallTx = s.firewallTx ++ [firewallPayload snap] := by
  simp only [handlePolicySnapshot, hdecode, PolicyCache.replaceSnapshot_of_accepts haccepts]
  exact ⟨_, rfl, rfl, rfl⟩

variable {r : Connector.PolicyResource}

theorem listedPorts_lt {n : Nat} (h : n ∈ listedPorts r) : n < 2 ^ 16 := by
  cases hfrom : r.portFrom with
  | none =>
      obtain ⟨-, rfl⟩ := (ControlPlane.mem_listedPorts_single (Or.inl hfrom)).mp h
      exact r.port.toNat_lt
  | some first =>
      cases hto : r.portTo with
      | none =>
          obtain ⟨-, rfl⟩ := (ControlPlane.mem_listedPorts_single (Or.inr hto)).mp h
          exact r.port.toNat_lt
      | some last =>
          obtain ⟨-, hle⟩ := (ControlPlane.mem_listedPorts_range hfrom hto).mp h
          exact Nat.lt_of_le_of_lt hle last.toNat_lt

/-- The rules of a resource are one for each port listed. -/
theorem mem_extractPortRules {j : Json} :
    j ∈ extractPortRules r ↔
      ∃ port : UInt16, port.toNat ∈ listedPorts r ∧ portRule port.toNat r.protocol = j := by
  constructor
  · intro hj
    obtain ⟨n, rfl⟩ : ∃ n, portRule n r.protocol = j := by
      unfold extractPortRules at hj
      split at hj
      · obtain ⟨n, -, rfl⟩ := List.mem_map.mp hj
        exact ⟨n, rfl⟩
      · split at hj
        · exact ⟨_, (List.mem_singleton.mp hj).symm⟩
        · exact absurd hj List.not_mem_nil
    have hn : (UInt16.ofNat n).toNat = n := by
      rw [UInt16.toNat_ofNat', Nat.mod_eq_of_lt (listedPorts_lt hj)]
    exact ⟨UInt16.ofNat n, by rw [hn]; exact hj, by rw [hn]⟩
  · rintro ⟨port, hport, rfl⟩
    exact hport

theorem integral_firewallPolicy (snap : Connector.PolicySnapshot) :
    (firewallPolicy snap).integral = true := by
  have hrules : Json.integralElems ((snap.resources.filter fun r =>
      r.firewallStatus = "protected").flatMap extractPortRules) = true := by
    rw [Json.integralElems_iff]
    intro j hj
    obtain ⟨r, -, hj⟩ := List.mem_flatMap.mp hj
    obtain ⟨port, -, rfl⟩ := mem_extractPortRules.mp hj
    rfl
  simp [firewallPolicy, Json.integral, Json.integralFields, hrules]

/-- The agent decodes a rule for each port that the connector lists for a protected
resource, and nothing else. -/
theorem parse_firewallPayload (snap : Connector.PolicySnapshot) :
    ∃ rules, parseSlice FirewallPolicy.ofJson (firewallPayload snap) = some ⟨"sync", rules⟩ ∧
      ∀ rule, rule ∈ rules ↔ ∃ r ∈ snap.resources, r.firewallStatus = "protected" ∧
        rule.port.toNat ∈ listedPorts r ∧ rule.protocol = r.protocol := by
  have hdecodes : ∀ j ∈ (snap.resources.filter fun r =>
      r.firewallStatus = "protected").flatMap extractPortRules,
      ∃ rule, PortRule.ofJson j = some rule := by
    intro j hj
    obtain ⟨r, -, hj⟩ := List.mem_flatMap.mp hj
    obtain ⟨port, -, rfl⟩ := mem_extractPortRules.mp hj
    exact ⟨_, Agent.ofJson_portRule port r.protocol⟩
  obtain ⟨rules, hrules⟩ := Agent.mapM_eq_of_forall hdecodes
  refine ⟨rules, ?_, fun rule => ?_⟩
  · rw [firewallPayload, Connector.parseSlice_render Connector.escapes_serdeEscape
      (integral_firewallPolicy snap)]
    have hlist : Connector.decodeVec PortRule.ofJson (.arr ((snap.resources.filter fun r =>
        r.firewallStatus = "protected").flatMap extractPortRules)) = some rules := hrules
    simp [FirewallPolicy.ofJson, firewallPolicy, Connector.structFields, Connector.required,
      Connector.member, Connector.decodeString, hlist]
  · rw [Agent.mem_of_mapM hrules]
    simp only [List.mem_flatMap, List.mem_filter, decide_eq_true_eq, mem_extractPortRules]
    constructor
    · rintro ⟨j, ⟨r, ⟨hr, hstatus⟩, port, hport, rfl⟩, hrule⟩
      obtain rfl := Option.some.inj ((Agent.ofJson_portRule port r.protocol).symm.trans hrule)
      exact ⟨r, hr, hstatus, hport, rfl⟩
    · rintro ⟨r, hr, hstatus, hport, hprotocol⟩
      refine ⟨_, ⟨r, ⟨hr, hstatus⟩, rule.port, hport, rfl⟩, ?_⟩
      rw [Agent.ofJson_portRule, ← hprotocol]

end Payload

/-! ## The ports -/

section Ports

variable {C : Controller.Libraries} {db : Database} {networkId : String} {row : ResourceRow}

theorem port_compiledRow (h : BoundsInRange row) : (compiledRow C db row).port =
    ControlPlane.derivedPort (row.portFrom.map receivedPort) (row.portTo.map receivedPort) := by
  have hreceived : (ControlPlane.receivedResource (Controller.policyResource C db row)).port =
      ControlPlane.derivedPort (row.portFrom.map receivedPort) (row.portTo.map receivedPort) :=
    ControlPlane.port_receivedResource h
  simpa only [compiledRow, ControlPlane.receivedResource] using hreceived

/-- The ports the connector lists for a row are those the row closes. -/
theorem mem_listedPorts_iff (h : BoundsInRange row) (port : UInt16) :
    port.toNat ∈ listedPorts (compiledRow C db row) ↔ ClosesPort row port := by
  have hfrom : (compiledRow C db row).portFrom = row.portFrom.map receivedPort := rfl
  have hto : (compiledRow C db row).portTo = row.portTo.map receivedPort := rfl
  have hport : (compiledRow C db row).port =
      ControlPlane.derivedPort (row.portFrom.map receivedPort) (row.portTo.map receivedPort) :=
    port_compiledRow h
  unfold ClosesPort
  cases hf : row.portFrom with
  | none =>
      rw [hf, Option.map_none] at hfrom hport
      rw [ControlPlane.mem_listedPorts_single (Or.inl hfrom), hport]
      cases ht : row.portTo <;> simp [ControlPlane.derivedPort]
  | some first =>
      have hfirst := h.portFrom first hf
      cases ht : row.portTo with
      | none =>
          rw [ht, Option.map_none] at hto
          rw [hf, ht] at hport
          rw [ControlPlane.mem_listedPorts_single (Or.inr hto), hport]
          have hderived : ControlPlane.derivedPort ((some first).map receivedPort)
              (Option.map receivedPort none) = receivedPort first := rfl
          have hzero : 0 < receivedPort first ↔ first ≠ 0 := by
            rw [UInt16.pos_iff_ne_zero, ne_eq, receivedPort_eq_zero hfirst]
          rw [hderived, hzero, UInt16.toNat_inj, eq_receivedPort hfirst]
      | some last =>
          have hlast := h.portTo last ht
          rw [hf, Option.map_some] at hfrom
          rw [ht, Option.map_some] at hto
          rw [ControlPlane.mem_listedPorts_range hfrom hto]
          dsimp only
          rw [← ControlPlane.toNat_receivedPort hfirst, ← ControlPlane.toNat_receivedPort hlast,
            Int.ofNat_le, Int.ofNat_le]

theorem protected_compiledRow :
    (compiledRow C db row).firewallStatus = "protected" ↔ row.firewallStatus = "protected" := by
  have hstatus : (compiledRow C db row).firewallStatus =
      if row.firewallStatus ≠ "" then row.firewallStatus else "unprotected" := rfl
  rw [hstatus]
  split
  · rfl
  next h =>
    rw [not_not.mp h]
    decide

/-- The rules of a compiled snapshot are those of the rows. -/
theorem closes_iff (hbounds : ∀ row, InNetwork db networkId row → BoundsInRange row)
    {rules : List PortRule}
    (hrules : ∀ rule : PortRule, rule ∈ rules ↔
      ∃ r ∈ (Controller.compiledResources C db networkId).map ControlPlane.receivedResource,
        r.firewallStatus = "protected" ∧ rule.port.toNat ∈ listedPorts r ∧
        rule.protocol = r.protocol) (lower : String → String) (port : UInt16) (proto : String) :
    (∃ rule ∈ rules, rule.port = port ∧ lower rule.protocol = proto) ↔
      Closes db networkId lower port proto := by
  constructor
  · rintro ⟨rule, hrule, rfl, rfl⟩
    obtain ⟨r, hr, hstatus, hport, hprotocol⟩ := (hrules rule).mp hrule
    obtain ⟨row, hrow, rfl⟩ := mem_received.mp hr
    exact ⟨row, hrow, protected_compiledRow.mp hstatus,
      (mem_listedPorts_iff (hbounds row hrow) _).mp hport, congrArg lower hprotocol.symm⟩
  · rintro ⟨row, hrow, hstatus, hport, rfl⟩
    refine ⟨⟨port, rowProtocol row⟩, (hrules _).mpr ⟨compiledRow C db row, mem_received.mpr
      ⟨row, hrow, rfl⟩, protected_compiledRow.mpr hstatus, ?_, rfl⟩, rfl, rfl⟩
    exact (mem_listedPorts_iff (hbounds row hrow) _).mpr hport

end Ports

/-! ## The chain -/

/-- After a policy the chain drops what its rules close, and what was left behind. -/
theorem dropped_after_policy {env : Environment} (hok : ∀ n, env.fails n = false)
    {tunName : String} {protoOf : UInt16 → String} {events : List Agent.Event} {h : Host}
    (hrun : run (Host.step env) (.initial tunName) events = some h) (hup : h.up = true)
    {rules : List PortRule} (hsame : SameProtocol env protoOf events)
    (hrules : ∀ r ∈ rules, env.unicode.toLowercase r.protocol = protoOf r.port) {p : Packet}
    (hlo : p.iif ≠ "lo") (htun : p.iif ≠ tunName) :
    (h.handleFirewallPolicy env ⟨"sync", rules⟩).enforcer.kernel.verdict p = .drop ↔
      (∃ r ∈ rules, r.port = p.dport ∧ env.unicode.toLowercase r.protocol = p.proto) ∨
        (LeftBehind events p.dport ∧ protoOf p.dport = p.proto) := by
  have hk := Agent.kept_sync hok (Agent.kept_run hok hsame hrun) hup
    (p := ⟨"sync", rules⟩) rfl hrules
  obtain ⟨base, entries, hlaid, -⟩ := hk.laid
  have hup' : (h.handleFirewallPolicy env ⟨"sync", rules⟩).up = true := by
    rw [Host.handleFirewallPolicy, if_pos rfl]
    exact hup
  have hlast : Agent.lastDesired (events ++ [.policy ⟨"sync", rules⟩]) = rules := by
    simp [Agent.lastDesired_concat, Agent.Event.desired?]
  have hleft : LeftBehind (events ++ [.policy ⟨"sync", rules⟩]) p.dport ↔
      LeftBehind events p.dport := by
    rw [Agent.leftBehind_concat]
    simp
  have hchain := hk.chain hlo htun
  rw [hleft, hlast, hup'] at hchain
  rw [Agent.dropped_iff_applies hlaid.guarded hlo (hk.tun ▸ htun)]
  refine hchain.trans ?_
  rw [or_and_right, or_comm]
  refine or_congr_left ?_
  constructor
  · rintro ⟨⟨-, r, hr, hport⟩, hproto⟩
    exact ⟨r, hr, hport, (hrules r hr).trans (hport ▸ hproto)⟩
  · rintro ⟨r, hr, hport, hproto⟩
    exact ⟨⟨rfl, r, hr, hport⟩, hport ▸ (hrules r hr).symm.trans hproto⟩

section Protected

open ControlPlane.PolicyPush (granted grantTime)

/-- The database of one granted resource, protected now. -/
def protectedDatabase : Database :=
  { granted with
    resources := ⟨[{
      id := "res_1"
      type := "dns"
      address := "db.internal"
      protocol := "TCP"
      portFrom := some 443
      portTo := some 443
      remoteNetworkId := "net_1"
      firewallStatus := "protected" }], List.nodup_singleton _⟩ }

/-- SHA-256 of its resources. -/
def protectedSha256 (_data : ByteArray) : List UInt8 :=
  [178, 207, 217, 145, 19, 179, 179, 235, 240, 223, 44, 209, 170, 62, 145, 173,
    45, 141, 187, 202, 66, 190, 183, 186, 169, 67, 79, 60, 148, 157, 201, 91]

/-- HMAC-SHA256 of its snapshot under the key `k`. -/
def protectedHmac (_key : List UInt8) (_data : ByteArray) : List UInt8 :=
  [157, 164, 217, 167, 17, 164, 13, 97, 98, 152, 254, 247, 110, 158, 175, 114,
    97, 246, 255, 203, 52, 232, 145, 237, 100, 198, 236, 178, 208, 130, 88, 138]

def protectedSettings : Settings :=
  { grantSettings with
    C := { grantSettings.C with sha256 := protectedSha256, hmacSha256 := protectedHmac } }

def protectedConnector :
    HandlerState { Connector.Libraries.recorded [] with hmacSha256 := protectedHmac } where
  allowlist := ∅
  acl := .new _ [107] (300 * nanosPerSec)
  latestFwPolicy := none
  firewallTx := []

theorem sendable_protected : Sendable protectedDatabase "con_1" "net_1" where
  connectorId := by decide
  rows row hrow := by
    obtain rfl := List.mem_singleton.mp hrow.1
    exact ⟨by decide, by decide, by decide, by decide⟩
  bounds row hrow := by
    obtain rfl := List.mem_singleton.mp hrow.1
    have h443 : PortInRange 443 := by decide
    exact ⟨fun p hp => Option.some.inj hp ▸ h443, fun p hp => Option.some.inj hp ▸ h443⟩
  identities u hu i hi := by
    obtain rfl := List.mem_singleton.mp hu
    obtain rfl := Option.some.inj hi
    exact ⟨by decide, by decide⟩

end Protected

end ZeroTrust.System.FirewallPath
