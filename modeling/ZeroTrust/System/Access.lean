/-
# `ZeroTrust.System.Access` — from the tables to the answer

An administrator writes rows; a connector answers requests.  Between them the rows are
compiled, ordered, signed, written as JSON, sent, decoded, verified and indexed:

    tables ──compile──▶ snapshot ──marshal──▶ payload ──decode, verify──▶ indexes ──▶ answer

What the administrator means is said here on the rows alone (`Permits`): a resource row
leads to a destination, in one of three tiers; it admits the protocol and the port; and a
chain of rule, group, membership and active user grants it to the identity.

    `mem_received`           the resources that arrive are the rows of the network
    `leadsTo_iff`            their tiers are those of the rows
    `portAdmits_compiledRow` their bounds are those of the rows
    `granted_iff_permits`    so they grant what the rows permit
    `answers_tables`         and the answer is yes iff a row permits the request

`Sendable` is what the trip needs of the rows: bounds that fit 16 bits, texts without the
characters that only the controller's JSON library escapes, and identities that a joined
key does not confuse.
-/
import ZeroTrust.Admin.Removals
import ZeroTrust.ControlPlane.PortRules
import ZeroTrust.ControlPlane.SnapshotExpiry

namespace ZeroTrust.System

open Lib
open Controller (Database ResourceRow normalizeResourceType htmlSpecial)
open Connector (HandlerState PolicyCache PlainIdentity GrantedBy candidates
  handlePolicySnapshot fromSlice)
open Admin.Removals (Chain)
open ControlPlane (received receivedResource receivedPort PortInRange)
open ControlPlane.Replacement (BoundsInRange)
open ControlPlane.SnapshotExpiry (Settings validUntil)

/-! ## What the rows permit -/

/-- What a resource stands for. -/
inductive Kind where
  | host
  | network
  | internet
  deriving DecidableEq

def kind (C : Controller.Libraries) (row : ResourceRow) : Kind :=
  let type := normalizeResourceType C row.type row.address
  if type = "internet" then .internet else if type = "cidr" then .network else .host

/-- What a connector is asked.  The identity is the SPIFFE ID of the agent that asks, as the
connector verified it; the policy compares it to the identities of users. -/
structure Query where
  identity : String
  dest : String
  protocol : String
  port : UInt16

section Rows

variable (C : Controller.Libraries) (L : Connector.Libraries)

/-- The destination is an address: the row's, or one within its network. -/
def ReachedByAddress (dest : String) (row : ResourceRow) : Prop :=
  ∃ ip, L.parseIpAddr (Connector.normalize L dest) = some ip ∧
    match kind C row with
    | .host => L.parseIpAddr (Connector.normalize L row.address) = some ip
    | .network => ∃ net, L.parseIpNet (Connector.normalize L row.address) = some net ∧
        L.contains net ip = true
    | .internet => False

/-- The destination is the name the row gives. -/
def ReachedByName (dest : String) (row : ResourceRow) : Prop :=
  Connector.normalize L dest ≠ "" ∧ kind C row = .host ∧
    Connector.normalize L row.address = Connector.normalize L dest

/-- A row of the network leads to the destination by its address; by its name, if no row
does by its address; or because it is the internet, if no row does otherwise. -/
inductive LeadsTo (rows : ResourceRow → Prop) (dest : String) (row : ResourceRow) : Prop
  | address (h : ReachedByAddress C L dest row)
  | name (hnone : ∀ r, rows r → ¬ ReachedByAddress C L dest r) (h : ReachedByName C L dest row)
  | internet (hnone : ∀ r, rows r → ¬ ReachedByAddress C L dest r ∧ ¬ ReachedByName C L dest r)
      (h : kind C row = .internet)

/-- An empty protocol column means TCP; a request without a protocol asks for any. -/
def AdmitsProtocol (row : ResourceRow) (protocol : String) : Prop :=
  protocol = "" ∨
    eqIgnoreAsciiCase (if row.protocol ≠ "" then row.protocol else "TCP") protocol = true

/-- A missing or zero bound is no bound, but a lower bound alone is that port. -/
def AdmitsPort (row : ResourceRow) (port : UInt16) : Prop :=
  match row.portFrom, row.portTo with
  | none, none => True
  | some first, none => first = 0 ∨ (port.toNat : Int) = first.toInt
  | none, some last => last = 0 ∨ (port.toNat : Int) ≤ last.toInt
  | some first, some last => (first = 0 ∧ last = 0) ∨
      if last = 0 then (port.toNat : Int) = first.toInt
      else first.toInt ≤ port.toNat ∧ (port.toNat : Int) ≤ last.toInt

/-- A row of the network's. -/
def InNetwork (db : Database) (networkId : String) (row : ResourceRow) : Prop :=
  row ∈ db.resources.rows ∧ row.remoteNetworkId = networkId

/-- The tables permit the request through this row. -/
structure Permits (db : Database) (networkId : String) (q : Query) (row : ResourceRow) :
    Prop where
  inNetwork : InNetwork db networkId row
  leadsTo : LeadsTo C L (InNetwork db networkId) q.dest row
  protocol : AdmitsProtocol row q.protocol
  port : AdmitsPort row q.port
  granted : ∃ c : Chain, c.Grants C db row.id q.identity

end Rows

/-! ## The resource a row becomes -/

section CompiledRow

variable {C : Controller.Libraries} {L : Connector.Libraries} {db : Database}
  {networkId : String} {row : ResourceRow} {dest : String}

/-- The connector's resource of a row. -/
def compiledRow (C : Controller.Libraries) (db : Database) (row : ResourceRow) :
    Connector.PolicyResource :=
  receivedResource { Controller.policyResource C db row with
    allowedIdentities :=
      (Controller.policyResource C db row).allowedIdentities.insertionSort (· ≤ ·) }

/-- What arrives is the rows of the network, in some order. -/
theorem received_perm :
    ((Controller.compiledResources C db networkId).map receivedResource).Perm
      ((db.resources.rows.filter fun row => row.remoteNetworkId = networkId).map
        (compiledRow C db)) := by
  have hsorted : (Controller.policyResources C db networkId).Perm
      ((db.resources.rows.filter fun row => row.remoteNetworkId = networkId).map
        (Controller.policyResource C db)) := (List.perm_insertionSort _ _).map _
  have hnormal := (List.perm_insertionSort
    (fun a b : Controller.PolicyResource => a.resourceId ≤ b.resourceId) _).trans hsorted
  have hboth := (hnormal.map fun r : Controller.PolicyResource =>
    { r with allowedIdentities := r.allowedIdentities.insertionSort (· ≤ ·) }).map receivedResource
  have hrows : (((db.resources.rows.filter fun row => row.remoteNetworkId = networkId).map
      (Controller.policyResource C db)).map fun r : Controller.PolicyResource =>
        { r with allowedIdentities := r.allowedIdentities.insertionSort (· ≤ ·) }).map
          receivedResource =
      (db.resources.rows.filter fun row => row.remoteNetworkId = networkId).map
        (compiledRow C db) := by
    rw [List.map_map, List.map_map]
    rfl
  exact hrows ▸ hboth

theorem mem_received {r : Connector.PolicyResource} :
    r ∈ (Controller.compiledResources C db networkId).map receivedResource ↔
      ∃ row, InNetwork db networkId row ∧ compiledRow C db row = r := by
  simp only [received_perm.mem_iff, List.mem_map, List.mem_filter, decide_eq_true_eq, InNetwork]

/-- The ids of a table's rows are distinct. -/
theorem nodup_received :
    (((Controller.compiledResources C db networkId).map receivedResource).map
      Connector.PolicyResource.resourceId).Nodup := by
  rw [(received_perm.map _).nodup_iff, List.map_map]
  exact (db.resources.filter fun row => row.remoteNetworkId = networkId).keys_nodup

theorem normalizeResourceType_cases (type address : String) :
    normalizeResourceType C type address = "cidr" ∨ normalizeResourceType C type address = "dns" ∨
      normalizeResourceType C type address = "internet" := by
  unfold normalizeResourceType
  simp only
  split
  next h => exact h
  split
  · exact Or.inr (Or.inl rfl)
  split
  · exact Or.inr (Or.inr rfl)
  split
  · exact Or.inl rfl
  · exact Or.inr (Or.inl rfl)

/-- The connector compares types without case and blanks; the controller writes none. -/
theorem normalize_type (type address : String) :
    Connector.normalize L (normalizeResourceType C type address) =
      normalizeResourceType C type address := by
  have hkeyword : ∀ t ∈ ["cidr", "dns", "internet"], Connector.normalize L t = t := by
    intro t ht
    have hplain : ∀ t ∈ ["cidr", "dns", "internet"],
        trim t = t ∧ LowerAscii t ∧ eqIgnoreAsciiCase t t = true := by decide
    obtain ⟨htrim, hlower, hsame⟩ := hplain t ht
    rw [Connector.normalize, htrim]
    exact L.unicode.toLowercase_spelling hlower hsame
  rcases normalizeResourceType_cases (C := C) type address with h | h | h <;>
    (rw [h]; exact hkeyword _ (by decide))

theorem resourceType_compiledRow : (compiledRow C db row).resourceType =
    normalizeResourceType C row.type row.address := by
  simp only [compiledRow, receivedResource, Controller.policyResource]

theorem isInternet_compiledRow :
    Connector.IsInternet L (compiledRow C db row) ↔ kind C row = .internet := by
  rw [Connector.IsInternet, resourceType_compiledRow, normalize_type, kind]
  rcases normalizeResourceType_cases (C := C) row.type row.address with h | h | h <;>
    simp [h]

theorem isCidr_compiledRow :
    Connector.IsCidr L (compiledRow C db row) ↔ kind C row = .network := by
  rw [Connector.IsCidr, resourceType_compiledRow, normalize_type, kind]
  rcases normalizeResourceType_cases (C := C) row.type row.address with h | h | h <;>
    simp [h]

theorem isHost_compiledRow :
    Connector.IsHost L (compiledRow C db row) ↔ kind C row = .host := by
  rw [Connector.IsHost, isInternet_compiledRow, isCidr_compiledRow]
  cases kind C row <;> simp

/-! ## Its tier -/

theorem mem_candidatesByAddress {resources : List Connector.PolicyResource}
    {r : Connector.PolicyResource} :
    r ∈ Connector.candidatesByAddress L resources dest ↔ r ∈ resources ∧
      ∃ ip, L.parseIpAddr (Connector.normalize L dest) = some ip ∧
        (Connector.IsHost L r ∧ L.parseIpAddr (Connector.normalize L r.address) = some ip ∨
          Connector.IsCidr L r ∧ Connector.NetworkContains L ip r) := by
  unfold Connector.candidatesByAddress
  cases L.parseIpAddr (Connector.normalize L dest) with
  | none => simp
  | some ip =>
      simp only [List.mem_append, List.mem_filter, decide_eq_true_eq, Option.some.injEq,
        exists_eq_left']
      tauto

theorem compiledRow_byAddress (hrow : InNetwork db networkId row) :
    compiledRow C db row ∈ Connector.candidatesByAddress L
        ((Controller.compiledResources C db networkId).map receivedResource) dest ↔
      ReachedByAddress C L dest row := by
  rw [mem_candidatesByAddress, ReachedByAddress]
  have hmem := mem_received (C := C).mpr ⟨row, hrow, rfl⟩
  simp only [hmem, true_and, isHost_compiledRow, isCidr_compiledRow]
  refine exists_congr fun ip => and_congr_right fun _ => ?_
  have hnetwork : Connector.NetworkContains L ip (compiledRow C db row) ↔
      ∃ net, L.parseIpNet (Connector.normalize L row.address) = some net ∧
        L.contains net ip = true :=
    Iff.rfl
  cases kind C row with
  | host => simp [compiledRow, receivedResource, Controller.policyResource]
  | network => simp [hnetwork]
  | internet => simp

theorem compiledRow_byName (hrow : InNetwork db networkId row) :
    compiledRow C db row ∈ Connector.candidatesByName L
        ((Controller.compiledResources C db networkId).map receivedResource) dest ↔
      ReachedByName C L dest row := by
  have hmem := mem_received (C := C).mpr ⟨row, hrow, rfl⟩
  unfold Connector.candidatesByName ReachedByName
  split
  next hempty => simp [hempty]
  next hne =>
    simp only [List.mem_filter, hmem, true_and, decide_eq_true_eq, isHost_compiledRow, ne_eq, hne,
      not_false_eq_true]
    rfl

theorem compiledRow_internet (hrow : InNetwork db networkId row) :
    compiledRow C db row ∈ Connector.candidatesInternet L
        ((Controller.compiledResources C db networkId).map receivedResource) ↔
      kind C row = .internet := by
  have hmem := mem_received (C := C).mpr ⟨row, hrow, rfl⟩
  simp only [Connector.candidatesInternet, List.mem_filter, hmem, true_and, decide_eq_true_eq,
    isInternet_compiledRow]

theorem byAddress_eq_nil : Connector.candidatesByAddress L
      ((Controller.compiledResources C db networkId).map receivedResource) dest = [] ↔
    ∀ r, InNetwork db networkId r → ¬ ReachedByAddress C L dest r := by
  rw [List.eq_nil_iff_forall_not_mem]
  constructor
  · intro hnone r hr hreached
    exact hnone _ ((compiledRow_byAddress hr).mpr hreached)
  · intro hnone r hr
    obtain ⟨row, hrow, rfl⟩ := mem_received.mp (mem_candidatesByAddress.mp hr).1
    exact hnone row hrow ((compiledRow_byAddress hrow).mp hr)

theorem byName_eq_nil : Connector.candidatesByName L
      ((Controller.compiledResources C db networkId).map receivedResource) dest = [] ↔
    ∀ r, InNetwork db networkId r → ¬ ReachedByName C L dest r := by
  rw [List.eq_nil_iff_forall_not_mem]
  constructor
  · intro hnone r hr hreached
    exact hnone _ ((compiledRow_byName hr).mpr hreached)
  · intro hnone r hr
    have hmem : r ∈ (Controller.compiledResources C db networkId).map receivedResource := by
      unfold Connector.candidatesByName at hr
      split at hr
      · exact absurd hr List.not_mem_nil
      · exact List.mem_of_mem_filter hr
    obtain ⟨row, hrow, rfl⟩ := mem_received.mp hmem
    exact hnone row hrow ((compiledRow_byName hrow).mp hr)

/-- The candidates of the connector are the rows that lead to the destination. -/
theorem leadsTo_iff (hrow : InNetwork db networkId row) :
    compiledRow C db row ∈ candidates L
        ((Controller.compiledResources C db networkId).map receivedResource) dest ↔
      LeadsTo C L (InNetwork db networkId) dest row := by
  unfold candidates
  by_cases haddress : ∀ r, InNetwork db networkId r → ¬ ReachedByAddress C L dest r
  · rw [if_neg (not_not.mpr (byAddress_eq_nil.mpr haddress))]
    by_cases hname : ∀ r, InNetwork db networkId r → ¬ ReachedByName C L dest r
    · rw [if_neg (not_not.mpr (byName_eq_nil.mpr hname)), compiledRow_internet hrow]
      constructor
      · exact fun h => .internet (fun r hr => ⟨haddress r hr, hname r hr⟩) h
      · rintro (h | ⟨-, h⟩ | ⟨-, h⟩)
        · exact absurd h (haddress row hrow)
        · exact absurd h (hname row hrow)
        · exact h
    · rw [if_pos fun h => hname (byName_eq_nil.mp h), compiledRow_byName hrow]
      constructor
      · exact fun h => .name haddress h
      · rintro (h | ⟨-, h⟩ | ⟨hnone, -⟩)
        · exact absurd h (haddress row hrow)
        · exact h
        · exact absurd (fun r hr => (hnone r hr).2) hname
  · rw [if_pos fun h => haddress (byAddress_eq_nil.mp h), compiledRow_byAddress hrow]
    constructor
    · exact fun h => .address h
    · rintro (h | ⟨hnone, -⟩ | ⟨hnone, -⟩)
      · exact h
      · exact absurd hnone haddress
      · exact absurd (fun r hr => (hnone r hr).1) haddress

/-! ## Its protocol, ports and identities -/

theorem protocolAdmits_compiledRow {protocol : String} :
    Connector.ProtocolAdmits (compiledRow C db row) protocol ↔ AdmitsProtocol row protocol := by
  have hprotocol : (compiledRow C db row).protocol =
      if row.protocol ≠ "" then row.protocol else "TCP" := rfl
  have hne : (compiledRow C db row).protocol ≠ "" := by
    rw [hprotocol]
    split
    next h => exact h
    · decide
  rw [Connector.ProtocolAdmits, or_iff_right hne, AdmitsProtocol, eqIgnoreAsciiCase,
    decide_eq_true_eq, hprotocol]

theorem receivedPort_eq_zero {p : Int64} (h : PortInRange p) : receivedPort p = 0 ↔ p = 0 :=
  ControlPlane.receivedPort_inj (q := 0) h ControlPlane.Replacement.portInRange_zero

theorem eq_receivedPort {p : Int64} (h : PortInRange p) (port : UInt16) :
    port = receivedPort p ↔ (port.toNat : Int) = p.toInt := by
  rw [← ControlPlane.toNat_receivedPort h, ← UInt16.toNat_inj, Int.natCast_inj]

theorem portAdmits_compiledRow (h : BoundsInRange row) (port : UInt16) :
    Connector.PortAdmits (compiledRow C db row) port ↔ AdmitsPort row port := by
  have hfrom : (compiledRow C db row).portFrom = row.portFrom.map receivedPort := rfl
  have hto : (compiledRow C db row).portTo = row.portTo.map receivedPort := rfl
  unfold Connector.PortAdmits AdmitsPort
  rw [hfrom, hto]
  cases hf : row.portFrom with
  | none =>
      cases ht : row.portTo with
      | none =>
          have hport : (compiledRow C db row).port = 0 := by
            have hzero : receivedPort 0 = 0 := rfl
            simp [compiledRow, receivedResource, Controller.policyResource, hf, ht, hzero]
          simp [hport]
      | some last =>
          have hlast := h.portTo last ht
          simp only [Option.map_none, Option.map_some, receivedPort_eq_zero hlast,
            UInt16.le_iff_toNat_le]
          rw [← ControlPlane.toNat_receivedPort hlast, Int.ofNat_le]
  | some first =>
      have hfirst := h.portFrom first hf
      cases ht : row.portTo with
      | none =>
          simp only [Option.map_none, Option.map_some, receivedPort_eq_zero hfirst,
            eq_receivedPort hfirst]
      | some last =>
          have hlast := h.portTo last ht
          simp only [Option.map_some, receivedPort_eq_zero hfirst, receivedPort_eq_zero hlast,
            eq_receivedPort hfirst, UInt16.le_iff_toNat_le]
          rw [← ControlPlane.toNat_receivedPort hfirst, ← ControlPlane.toNat_receivedPort hlast,
            Int.ofNat_le, Int.ofNat_le]

theorem mem_identities_compiledRow {identity : String} :
    identity ∈ (compiledRow C db row).allowedIdentities ↔
      identity ≠ "" ∧ ∃ c : Chain, c.Grants C db row.id identity := by
  have hidentities : (compiledRow C db row).allowedIdentities =
      (Controller.resourceIdentities C db row.id).insertionSort (· ≤ ·) := rfl
  rw [hidentities, List.mem_insertionSort]
  exact Admin.Removals.mem_resourceIdentities_iff_chain

/-- **Meaning theorem.**  What the resources that arrive grant is what the rows permit. -/
theorem granted_iff_permits
    (hbounds : ∀ row, InNetwork db networkId row → BoundsInRange row) {q : Query}
    (hidentity : q.identity ≠ "") (rid : String) :
    (∃ r ∈ candidates L ((Controller.compiledResources C db networkId).map receivedResource) q.dest,
        GrantedBy r q.identity q.protocol q.port ∧ r.resourceId = rid) ↔
      ∃ row, Permits C L db networkId q row ∧ row.id = rid := by
  constructor
  · rintro ⟨r, hr, hgranted, rfl⟩
    obtain ⟨row, hrow, rfl⟩ :=
      mem_received.mp (PolicyCache.candidates_subset _ _ r hr)
    refine ⟨row, ⟨hrow, (leadsTo_iff hrow).mp hr, ?_, ?_, ?_⟩, rfl⟩
    · exact protocolAdmits_compiledRow.mp hgranted.protocol
    · exact (portAdmits_compiledRow (hbounds row hrow) _).mp hgranted.port
    · exact (mem_identities_compiledRow.mp hgranted.identity).2
  · rintro ⟨row, h, rfl⟩
    refine ⟨compiledRow C db row, (leadsTo_iff h.inNetwork).mpr h.leadsTo, ⟨?_, ?_, ?_⟩, rfl⟩
    · exact protocolAdmits_compiledRow.mpr h.protocol
    · exact (portAdmits_compiledRow (hbounds row h.inNetwork) _).mpr h.port
    · exact mem_identities_compiledRow.mpr ⟨hidentity, h.granted⟩

end CompiledRow

/-! ## The trip -/

/-- No character that only the controller's JSON library escapes. -/
def PlainText (s : String) : Prop := ∀ c ∈ s.toList, htmlSpecial c = false

instance (s : String) : Decidable (PlainText s) :=
  decidable_of_iff (s.toList.all fun c => !htmlSpecial c) (by simp [PlainText])

structure PlainRow (row : ResourceRow) : Prop where
  id : PlainText row.id
  address : PlainText row.address
  protocol : PlainText row.protocol
  firewallStatus : PlainText row.firewallStatus

/-- The rows survive the trip. -/
structure Sendable (db : Database) (connectorId networkId : String) : Prop where
  connectorId : PlainText connectorId
  rows : ∀ row, InNetwork db networkId row → PlainRow row
  bounds : ∀ row, InNetwork db networkId row → BoundsInRange row
  identities : ∀ u ∈ db.users.rows, ∀ i ∈ u.certificateIdentity, PlainText i ∧ PlainIdentity i

theorem plain_formatRfc3339 (t : SystemTime) : PlainText (formatRfc3339 t) := by
  have htime : ∀ c, TimeChar c → htmlSpecial c = false := by
    intro c hc
    by_contra hspecial
    rcases Controller.htmlSpecial_cases (Bool.not_eq_false _ ▸ hspecial) with
      rfl | rfl | rfl | rfl | rfl <;> exact absurd hc (by decide)
  intro c hc
  rw [formatRfc3339_eq, dateTimeText, String.toList_ofList] at hc
  simp only [List.append_assoc, List.cons_append, List.mem_append, List.mem_cons,
    List.not_mem_nil, or_false] at hc
  rcases hc with hc | hc | rfl | hc | rfl
  · split at hc
    · obtain rfl := List.mem_singleton.mp hc
      decide
    · exact absurd hc List.not_mem_nil
  · exact htime c (timeChar_of_mem_threeParts (by decide) hc)
  · decide
  · exact htime c (timeChar_of_mem_threeParts (by decide) hc)
  · decide

section Trip

variable {C : Controller.Libraries} {L : Connector.Libraries} {cfg : Settings} {db : Database}
  {networkId : String} {row : ResourceRow} {key : List UInt8} {compiledAt : SystemTime}

theorem plainIdentity_of_mem {connectorId : String} (h : Sendable db connectorId networkId)
    {identity : String} (hmem : identity ∈ (compiledRow C db row).allowedIdentities) :
    PlainText identity ∧ PlainIdentity identity := by
  obtain ⟨-, c, hc⟩ := mem_identities_compiledRow.mp hmem
  exact h.identities c.user hc.user identity hc.identity

/-- The texts of the resource that is sent for a row. -/
theorem plain_resource {connectorId : String} (h : Sendable db connectorId networkId)
    {r : Controller.PolicyResource} (hr : r ∈ Controller.compiledResources C db networkId) :
    ∀ t ∈ ControlPlane.resourceStrings r, PlainText t := by
  obtain ⟨row, hrow, heq⟩ := (mem_received (C := C)).mp (List.mem_map_of_mem hr)
  have hplain := h.rows row hrow
  have hid : row.id = r.resourceId := congrArg Connector.PolicyResource.resourceId heq
  have htype : normalizeResourceType C row.type row.address = r.type :=
    resourceType_compiledRow.symm.trans (congrArg Connector.PolicyResource.resourceType heq)
  have haddress : row.address = r.address := congrArg Connector.PolicyResource.address heq
  have hprotocol : (if row.protocol ≠ "" then row.protocol else "TCP") = r.protocol :=
    congrArg Connector.PolicyResource.protocol heq
  have hstatus : (if row.firewallStatus ≠ "" then row.firewallStatus else "unprotected") =
      r.firewallStatus := congrArg Connector.PolicyResource.firewallStatus heq
  have hidentities : (compiledRow C db row).allowedIdentities = r.allowedIdentities :=
    congrArg Connector.PolicyResource.allowedIdentities heq
  intro t ht
  rcases List.mem_append.mp ht with ht | ht
  · simp only [List.mem_cons, List.not_mem_nil, or_false] at ht
    rcases ht with rfl | rfl | rfl | rfl | rfl
    · exact hid ▸ hplain.id
    · rw [← htype]
      rcases normalizeResourceType_cases (C := C) row.type row.address with h | h | h <;>
        (rw [h]; decide)
    · exact haddress ▸ hplain.address
    · rw [← hprotocol]
      split
      · exact hplain.protocol
      · decide
    · rw [← hstatus]
      split
      · exact hplain.firewallStatus
      · decide
  · exact (plainIdentity_of_mem h (hidentities ▸ ht)).1

theorem noSpecial_unsigned (h : Sendable db cfg.connectorId networkId) :
    ControlPlane.NoSpecial
      (ControlPlane.PolicyPush.unsignedSnapshot (cfg.client key) db networkId compiledAt) := by
  intro t ht
  rcases List.mem_append.mp ht with ht | ht
  · simp only [List.mem_cons, List.not_mem_nil, or_false] at ht
    rcases ht with rfl | rfl | rfl
    · exact h.connectorId
    · exact plain_formatRfc3339 compiledAt
    · exact plain_formatRfc3339 (compiledAt + cfg.snapshotTTL)
  · obtain ⟨r, hr, ht⟩ := List.mem_flatMap.mp ht
    exact plain_resource h hr t ht

/-- The date of the snapshot can be written, sent and added to, and is not past when it
arrives. -/
structure InTime (cfg : Settings) (compiledAt arrival : SystemTime) : Prop where
  sinceEpoch : 0 ≤ compiledAt + cfg.snapshotTTL
  fits : validUntil cfg compiledAt + cfg.staleGrace < 2 ^ 63 * nanosPerSec
  current : arrival ≤ validUntil cfg compiledAt + cfg.staleGrace

theorem seconds_lt {t : Int} {grace : Nat}
    (h : t / nanosPerSec * nanosPerSec + grace < 2 ^ 63 * nanosPerSec) :
    t / nanosPerSec < 2 ^ 63 := by
  unfold nanosPerSec at *
  omega

theorem InTime.parsed {arrival : SystemTime} (h : InTime cfg compiledAt arrival) :
    parseRfc3339 (formatRfc3339 (compiledAt + cfg.snapshotTTL)) =
      some (validUntil cfg compiledAt) := by
  rw [parseRfc3339_formatRfc3339 (seconds_lt h.fits), if_neg (Int.not_lt.mpr h.sinceEpoch)]
  rfl

/-- A snapshot of sendable rows that arrives in time is accepted under its key. -/
theorem accepts_signedSnapshot {arrival : SystemTime} {c : PolicyCache L}
    (hmac : L.hmacSha256 = cfg.C.hmacSha256) (hkey : key ≠ []) (hkeys : c.signingKey = key)
    (hgrace : c.staleGrace = cfg.staleGrace) (hsend : Sendable db cfg.connectorId networkId)
    (htime : InTime cfg compiledAt arrival) :
    fromSlice (ControlPlane.PolicyPush.signedSnapshot (cfg.client key) db networkId
        compiledAt).marshal =
      some (received (ControlPlane.PolicyPush.signedSnapshot (cfg.client key) db networkId
        compiledAt)) ∧
    c.Accepts (received (ControlPlane.PolicyPush.signedSnapshot (cfg.client key) db networkId
      compiledAt)) arrival (validUntil cfg compiledAt) := by
  have hports : ∀ r ∈ Controller.compiledResources cfg.C db networkId,
      ControlPlane.PortsInRange r :=
    ControlPlane.Replacement.portsInRange_compiled.mpr fun row hrow hnetwork =>
      hsend.bounds row ⟨hrow, hnetwork⟩
  refine ⟨ControlPlane.decode_marshal hports, ?_⟩
  refine ControlPlane.accepts_received (s := ControlPlane.PolicyPush.unsignedSnapshot
    (cfg.client key) db networkId compiledAt) ?_ hports (noSpecial_unsigned hsend)
    hkeys htime.parsed ?_ ?_
  · have hlen : ¬ key.length = 0 := fun h => hkey (List.length_eq_zero_iff.mp h)
    rw [Controller.signSnapshot, if_neg hlen, hmac]
    rfl
  · rw [hgrace, addDuration, if_pos htime.fits]
  · rw [hgrace]
    exact htime.current

/-- What the indexes of a sendable snapshot answer. -/
theorem answers_signedSnapshot {c : PolicyCache L} (hsend : Sendable db cfg.connectorId networkId)
    (hinner : c.inner = PolicyCache.indexSnapshot L (received
      (ControlPlane.PolicyPush.signedSnapshot (cfg.client key) db networkId compiledAt))
      (validUntil cfg compiledAt))
    (hfits : addDuration (validUntil cfg compiledAt) c.staleGrace =
      some (validUntil cfg compiledAt + c.staleGrace))
    {q : Query} (hidentity : q.identity ≠ "") (hplain : PlainIdentity q.identity)
    (now : SystemTime) :
    (now ≤ validUntil cfg compiledAt + c.staleGrace →
      ∃ ok rid reason,
        c.allowed q.identity q.dest q.protocol q.port now = some (ok, rid, reason) ∧
        (ok = true ↔ ∃ row, Permits cfg.C L db networkId q row) ∧
        (ok = true → ∃ row, Permits cfg.C L db networkId q row ∧ row.id = rid)) ∧
    (validUntil cfg compiledAt + c.staleGrace < now →
      c.allowed q.identity q.dest q.protocol q.port now =
        some (false, "", "snapshot_expired")) := by
  constructor
  · intro hnow
    rcases hdecision : PolicyCache.decideOn c.inner q.identity q.dest q.protocol q.port with
      ⟨ok, rid, reason⟩
    refine ⟨ok, rid, reason, ?_, ?_⟩
    · rw [hinner] at hdecision
      simp only [PolicyCache.allowed, hinner, PolicyCache.hasSnapshot_indexSnapshot,
        PolicyCache.validUntil_indexSnapshot, hfits, if_neg (Int.not_lt.mpr hnow), hdecision,
        Bool.not_true, Bool.false_eq_true, if_false]
    · rw [hinner] at hdecision
      have hindex := PolicyCache.decideOn_index _ (validUntil cfg compiledAt) nodup_received
        (fun r hr i hi => by
          obtain ⟨row, -, rfl⟩ := mem_received.mp hr
          exact (plainIdentity_of_mem hsend hi).2) hidentity hplain q.dest q.protocol q.port
        hdecision
      have hmeaning := granted_iff_permits (L := L) (C := cfg.C) hsend.bounds hidentity
      refine ⟨hindex.1.trans ⟨?_, ?_⟩, fun hok => (hmeaning rid).mp (hindex.2 hok)⟩
      · rintro ⟨r, hr, hgranted⟩
        obtain ⟨row, hpermits, -⟩ := (hmeaning r.resourceId).mp ⟨r, hr, hgranted, rfl⟩
        exact ⟨row, hpermits⟩
      · rintro ⟨row, hpermits⟩
        obtain ⟨r, hr, hgranted, -⟩ := (hmeaning row.id).mpr ⟨row, hpermits, rfl⟩
        exact ⟨r, hr, hgranted⟩
  · intro hlate
    simp only [PolicyCache.allowed, hinner, PolicyCache.hasSnapshot_indexSnapshot,
      PolicyCache.validUntil_indexSnapshot, hfits, if_pos hlate, Bool.not_true,
      Bool.false_eq_true, if_false]

/-- **Access theorem.**  Take a connector with a network, under the key that both sides
derived, and any tables whose rows of that network are sendable.  The controller compiles a
snapshot, the connector applies it when it arrives in time, whatever it held before, and
from then on answers every request of a plain identity: until the snapshot's date and the
grace are past, yes if and only if the tables permit the request, naming a row that does;
after that, that the snapshot has expired. -/
theorem answers_tables (cfg : Settings) (db : Database) (networkId : String) (key : List UInt8)
    (compiledAt arrival : SystemTime) (s : HandlerState L)
    (hmac : L.hmacSha256 = cfg.C.hmacSha256) (hid : cfg.connectorId ≠ "") (hkey : key ≠ [])
    (hkeys : s.acl.signingKey = key) (hgrace : s.acl.staleGrace = cfg.staleGrace)
    (hnetwork : Controller.lookupConnectorNetwork db cfg.connectorId = .ok networkId)
    (hsend : Sendable db cfg.connectorId networkId) (htime : InTime cfg compiledAt arrival) :
    ∃ snap s', (ControlPlane.PolicyPush.prepare (cfg.client key) db compiledAt).2 = some snap ∧
      Connector.handleControlMessage s ⟨"policy_snapshot", snap.marshal⟩ arrival = some s' ∧
      ∀ (q : Query) (now : SystemTime), q.identity ≠ "" → PlainIdentity q.identity →
        (now ≤ validUntil cfg compiledAt + cfg.staleGrace →
          ∃ ok rid reason,
            s'.acl.allowed q.identity q.dest q.protocol q.port now = some (ok, rid, reason) ∧
            (ok = true ↔ ∃ row, Permits cfg.C L db networkId q row) ∧
            (ok = true → ∃ row, Permits cfg.C L db networkId q row ∧ row.id = rid)) ∧
        (validUntil cfg compiledAt + cfg.staleGrace < now →
          s'.acl.allowed q.identity q.dest q.protocol q.port now =
            some (false, "", "snapshot_expired")) := by
  obtain ⟨hdecode, haccepts⟩ :=
    accepts_signedSnapshot (c := s.acl) hmac hkey hkeys hgrace hsend htime
  obtain ⟨s', hhandle, hacl⟩ := Connector.handlePolicySnapshot_of_accepts hdecode haccepts
  refine ⟨_, s', ?_, (ControlPlane.Replacement.handleControlMessage_policySnapshot ..).trans
    hhandle, ?_⟩
  · rw [ControlPlane.PolicyPush.prepare_eq compiledAt hid hkey hnetwork]
  intro q now hidentity hplain
  have hfits : addDuration (validUntil cfg compiledAt) s'.acl.staleGrace =
      some (validUntil cfg compiledAt + s'.acl.staleGrace) := by
    rw [hacl]
    exact haccepts.fits
  have hgrace' : s'.acl.staleGrace = cfg.staleGrace := by rw [hacl, ← hgrace]
  rw [← hgrace']
  exact answers_signedSnapshot hsend (by rw [hacl]) hfits hidentity hplain now

end Trip

/-! ## One rule -/

section Granted

open ControlPlane.PolicyPush (grantClient grantLibraries grantConnector granted grantTime)

def grantSettings : Settings where
  C := grantClient.C
  connectorId := "con_1"
  snapshotTTL := 600 * nanosPerSec
  staleGrace := 300 * nanosPerSec

theorem sendable_granted : Sendable granted "con_1" "net_1" where
  connectorId := by decide
  rows row hrow := by
    obtain rfl := List.mem_singleton.mp hrow.1
    exact ⟨by decide, by decide, by decide, by decide⟩
  bounds row hrow := by
    obtain rfl := List.mem_singleton.mp hrow.1
    have h443 : PortInRange 443 := by decide
    exact ⟨fun p hp => Option.some.inj hp ▸ h443, fun p hp => Option.some.inj hp ▸ h443⟩
  identities u hu i hi := by
    obtain rfl := List.mem_singleton.mp hu
    obtain rfl := Option.some.inj hi
    exact ⟨by decide, by decide⟩

/-- The request of the one user for the one resource, in other letters. -/
def grantQuery : Query := ⟨"identity-1", " DB.internal", "tcp", 443⟩

theorem permits_granted : ∃ row,
    Permits grantSettings.C grantLibraries granted "net_1" grantQuery row := by
  have hactive : grantSettings.C.sqlLower (Controller.sqlTrim "Active") = "active" := by decide
  refine ⟨_, ⟨List.mem_singleton_self _, rfl⟩, .name ?_ ?_, Or.inr (by decide), ?_,
    ⟨⟨"rule_1", "res_1", 1⟩, ⟨"rule_1", "grp_1"⟩, ⟨"usr_1", "grp_1"⟩,
      ⟨"usr_1", "Active", some "identity-1"⟩⟩, ?_⟩
  · rintro r - ⟨ip, hip, -⟩
    cases hip
  · exact ⟨by decide, by decide, by decide⟩
  · exact Or.inr (by decide)
  · exact {
      rule := List.mem_singleton_self _
      ruleGroup := List.mem_singleton_self _
      member := List.mem_singleton_self _
      user := List.mem_singleton_self _
      resource := rfl
      enabled := rfl
      ofRule := rfl
      ofGroup := rfl
      ofUser := rfl
      active := hactive
      identity := rfl }

/-- From the rows of `granted` to a yes. -/
theorem granted_answers_yes :
    ∃ snap s', (ControlPlane.PolicyPush.prepare (grantSettings.client [107]) granted
        grantTime).2 = some snap ∧
      Connector.handleControlMessage grantConnector ⟨"policy_snapshot", snap.marshal⟩ grantTime =
        some s' ∧
      ∃ rid reason, s'.acl.allowed "identity-1" " DB.internal" "tcp" 443 grantTime =
        some (true, rid, reason) := by
  obtain ⟨snap, s', hprepare, hhandle, hanswers⟩ :=
    answers_tables grantSettings granted "net_1" [107] grantTime grantTime grantConnector rfl
      (by decide) (by decide) rfl rfl rfl sendable_granted
      ⟨by decide, by decide, by decide⟩
  obtain ⟨hcurrent, -⟩ := hanswers grantQuery grantTime (by decide) (by decide)
  obtain ⟨ok, rid, reason, hanswer, hiff, -⟩ := hcurrent (by decide)
  obtain rfl := hiff.mpr permits_granted
  exact ⟨snap, s', hprepare, hhandle, rid, reason, hanswer⟩

end Granted

end ZeroTrust.System
