/-
# `ZeroTrust.Controller.PolicySnapshot` — the policy compiler

`api/policy_snapshot.go`: from the database to the signed snapshot that is pushed
to a connector.

    resources, access rules, groups, users     the tables read (`Database`)
      → the resources of a network, each with the identities allowed on it
                                                (`policyResources`)
      → ordered, versioned, dated               (`compilePolicySnapshot`)
      → HMAC-SHA256 of its JSON, in hex         (`signSnapshot`)

A table keeps the columns the compiler reads, with the types the schema gives
them: a column that is `NOT NULL` is not optional.  Go's `int` is 64 bits wide.
The queries are read as PostgreSQL reads them; without `ORDER BY` rows come in
table order.
-/
import Mathlib.Data.List.Sort
import Mathlib.Data.List.Dedup
import ZeroTrust.Lib.Table
import ZeroTrust.Lib.Json
import ZeroTrust.Clock

namespace ZeroTrust.Controller

open Lib

/-! ## The types -/

structure SnapshotMeta where
  connectorId : String
  policyVersion : Int64
  compiledAt : String
  validUntil : String
  signature : String
  deriving DecidableEq

structure PolicyResource where
  resourceId : String
  type : String
  address : String
  port : Int64
  protocol : String
  portFrom : Option Int64
  portTo : Option Int64
  allowedIdentities : List String
  firewallStatus : String
  deriving DecidableEq

structure PolicySnapshot where
  snapshotMeta : SnapshotMeta
  resources : List PolicyResource
  deriving DecidableEq

/-! ## `json.Marshal` -/

/-- The characters that `encoding/json` escapes so that its output can stand in
HTML and in JavaScript. -/
def htmlSpecial (c : Char) : Bool :=
  c ∈ ['<', '>', '&', Char.ofNat 0x2028, Char.ofNat 0x2029]

def goEscape : Char → List Char := Json.escapeWith htmlSpecial

theorem htmlSpecial_cases {c : Char} (h : htmlSpecial c = true) :
    c = '<' ∨ c = '>' ∨ c = '&' ∨ c = Char.ofNat 0x2028 ∨ c = Char.ofNat 0x2029 := by
  simpa [htmlSpecial] using h

theorem escapes_goEscape : Json.Escapes goEscape := by
  refine Json.escapes_escapeWith fun c hc => ?_
  rcases htmlSpecial_cases hc with rfl | rfl | rfl | rfl | rfl <;> decide

def marshal (j : Json) : ByteArray := (String.ofList (Json.render goEscape j)).toUTF8

/-- A pointer field with `omitempty`. -/
def omitEmpty (name : String) : Option Int64 → List (String × Json)
  | none => []
  | some v => [(name, .num v.toInt)]

def SnapshotMeta.toJson (m : SnapshotMeta) : Json :=
  .obj [("connector_id", .str m.connectorId), ("policy_version", .num m.policyVersion.toInt),
    ("compiled_at", .str m.compiledAt), ("valid_until", .str m.validUntil),
    ("signature", .str m.signature)]

def PolicyResource.toJson (r : PolicyResource) : Json :=
  .obj ([("resource_id", .str r.resourceId), ("type", .str r.type),
      ("address", .str r.address), ("port", .num r.port.toInt), ("protocol", .str r.protocol)] ++
    omitEmpty "port_from" r.portFrom ++ omitEmpty "port_to" r.portTo ++
    [("allowed_identities", .arr (r.allowedIdentities.map .str)),
      ("firewall_status", .str r.firewallStatus)])

def PolicySnapshot.toJson (s : PolicySnapshot) : Json :=
  .obj [("snapshot_meta", s.snapshotMeta.toJson),
    ("resources", .arr (s.resources.map PolicyResource.toJson))]

/-- `json.Marshal(snap)`. -/
def PolicySnapshot.marshal (s : PolicySnapshot) : ByteArray := Controller.marshal s.toJson

/-! ## The tables -/

structure ConnectorRow where
  id : String
  remoteNetworkId : String
  deriving DecidableEq

structure RemoteNetworkConnectorRow where
  networkId : String
  connectorId : String
  deriving DecidableEq

structure ResourceRow where
  id : String
  type : String
  address : String
  protocol : String
  portFrom : Option Int64
  portTo : Option Int64
  remoteNetworkId : String
  firewallStatus : String
  deriving DecidableEq

structure AccessRuleRow where
  id : String
  resourceId : String
  enabled : Int64
  deriving DecidableEq

structure AccessRuleGroupRow where
  ruleId : String
  groupId : String
  deriving DecidableEq

structure UserGroupMemberRow where
  userId : String
  groupId : String
  deriving DecidableEq

structure UserRow where
  id : String
  status : String
  certificateIdentity : Option String
  deriving DecidableEq

structure PolicyVersionRow where
  connectorId : String
  version : Int64
  compiledAt : String
  policyHash : String
  deriving DecidableEq

structure Database where
  connectors : Table ConnectorRow.id
  remoteNetworkConnectors : Table (id : RemoteNetworkConnectorRow → RemoteNetworkConnectorRow)
  resources : Table ResourceRow.id
  accessRules : Table AccessRuleRow.id
  accessRuleGroups : Table (id : AccessRuleGroupRow → AccessRuleGroupRow)
  userGroupMembers : Table (id : UserGroupMemberRow → UserGroupMemberRow)
  users : Table UserRow.id
  connectorPolicyVersions : Table PolicyVersionRow.connectorId

/-- What the compiler uses and the repository does not hold. -/
structure Libraries where
  unicode : UnicodeData
  /-- The database's collation: `a` comes no later than `b`. -/
  collate : String → String → Bool
  /-- SQL `LOWER`. -/
  sqlLower : String → String
  /-- `net.ParseCIDR` succeeds. -/
  parseCIDR : String → Bool
  sha256 : ByteArray → List UInt8
  hmacSha256 : List UInt8 → ByteArray → List UInt8

/-! ## Compiling -/

section Compile

variable (C : Libraries)

/-- SQL `TRIM`: spaces, and only spaces. -/
def sqlTrim (s : String) : String :=
  String.ofList (((s.toList.dropWhile (· = ' ')).reverse.dropWhile (· = ' ')).reverse)

def lookupConnectorNetwork (db : Database) (connectorId : String) : Except String String :=
  match db.connectors.get connectorId with
  | none => .error "sql: no rows in result set"
  | some row =>
      if trim row.remoteNetworkId ≠ "" then .ok row.remoteNetworkId
      else
        -- Fallback: check the remote_network_connectors junction table
        match db.remoteNetworkConnectors.rows.find? fun r => r.connectorId = connectorId with
        | some assigned =>
            if trim assigned.networkId ≠ "" then .ok assigned.networkId
            else .error ("connector " ++ connectorId ++ " has no network")
        | none => .error ("connector " ++ connectorId ++ " has no network")

/-- A non-empty ASCII substring test, as `strings.Contains(addr, "/")`. -/
def containsSlash (s : String) : Bool := s.toList.contains '/'

def normalizeResourceType (resType address : String) : String :=
  let t := C.unicode.stringsToLower (trim resType)
  if t = "cidr" ∨ t = "dns" ∨ t = "internet" then t
  else if address = "" then "dns"
  else
    let addr := C.unicode.stringsToLower (trim address)
    if addr = "*" ∨ addr = "internet" then "internet"
    else if containsSlash addr && C.parseCIDR addr then "cidr"
    else "dns"

/-- The users who reach a resource through an enabled rule and one of its groups. -/
def usersGranted (db : Database) (resourceId : String) : List UserRow :=
  (db.accessRules.rows.filter fun ar => ar.resourceId = resourceId ∧ ar.enabled = 1).flatMap
    fun ar => (db.accessRuleGroups.rows.filter fun arg => arg.ruleId = ar.id).flatMap
      fun arg => (db.userGroupMembers.rows.filter fun gm => gm.groupId = arg.groupId).flatMap
        fun gm => db.users.rows.filter fun u => u.id = gm.userId

/-- The identities of the active ones among them, distinct and in order. -/
def resourceIdentities (db : Database) (resourceId : String) : List String :=
  let active := (usersGranted db resourceId).filter fun u =>
    C.sqlLower (sqlTrim u.status) = "active"
  let identities := (active.filterMap UserRow.certificateIdentity).dedup
  (identities.insertionSort fun a b => C.collate a b = true).filter (· ≠ "")

def policyResource (db : Database) (row : ResourceRow) : PolicyResource :=
  let port : Int64 := row.portFrom.getD 0
  { resourceId := row.id
    type := normalizeResourceType C row.type row.address
    address := row.address
    port := match row.portTo with
      | some v => if port = 0 ∨ port ≠ v then 0 else port
      | none => port
    protocol := if row.protocol ≠ "" then row.protocol else "TCP"
    portFrom := row.portFrom
    portTo := row.portTo
    allowedIdentities := resourceIdentities C db row.id
    firewallStatus := if row.firewallStatus ≠ "" then row.firewallStatus else "unprotected" }

def policyResources (db : Database) (remoteNetworkId : String) : List PolicyResource :=
  ((db.resources.rows.filter fun row => row.remoteNetworkId = remoteNetworkId).insertionSort
    fun a b => C.collate a.id b.id = true).map (policyResource C db)

/-- `hex.EncodeToString`. -/
def encodeToString (bytes : List UInt8) : String := String.ofList (hexEncode bytes)

def policyHash (resources : List PolicyResource) : String :=
  encodeToString (C.sha256 (marshal
    (.obj [("resources", .arr (resources.map PolicyResource.toJson))])))

def policyVersion (db : Database) (connectorId policyHash compiledAt : String) :
    Database × Int64 :=
  let existing := db.connectorPolicyVersions.get connectorId
  let version := (existing.map PolicyVersionRow.version).getD 0
  let version :=
    if version = 0 ∨ existing.map PolicyVersionRow.policyHash ≠ some policyHash then version + 1
    else version
  ({ db with
      connectorPolicyVersions := db.connectorPolicyVersions.put
        { connectorId, version, compiledAt, policyHash } }, version)

def PolicySnapshot.withSignature (snap : PolicySnapshot) (sig : String) : PolicySnapshot :=
  { snap with snapshotMeta := { snap.snapshotMeta with signature := sig } }

def signSnapshot (hmacSha256 : List UInt8 → ByteArray → List UInt8) (key : List UInt8)
    (snap : PolicySnapshot) : Except String String :=
  if key.length = 0 then .error "signing key not configured"
  else .ok (encodeToString (hmacSha256 key (snap.withSignature "").marshal))

def normalizeResources (resources : List PolicyResource) : List PolicyResource :=
  (resources.insertionSort fun a b => a.resourceId ≤ b.resourceId).map
    fun r => { r with allowedIdentities := r.allowedIdentities.insertionSort (· ≤ ·) }

def normalizeSnapshot (snap : PolicySnapshot) : PolicySnapshot :=
  { snap with resources := normalizeResources snap.resources }

/-- `CompilePolicySnapshot` between the lookup of the network and the signature. -/
def compileUnsigned (db : Database) (connectorId networkId : String) (ttl : Duration)
    (now : SystemTime) : Database × PolicySnapshot :=
  let resources := policyResources C db networkId
  let compiledAt := formatRfc3339 now
  let validUntil := formatRfc3339 (now + ttl)
  let (db, version) := policyVersion db connectorId (policyHash C resources) compiledAt
  (db, normalizeSnapshot {
    snapshotMeta := {
      connectorId, policyVersion := version, compiledAt, validUntil, signature := "" }
    resources })

/-- The database comes back with the connector's policy version recorded. -/
def compilePolicySnapshot (db : Database) (connectorId : String) (ttl : Duration)
    (signingKey : List UInt8) (now : SystemTime) : Database × Except String PolicySnapshot :=
  if connectorId = "" then (db, .error "connector_id required")
  else
    match lookupConnectorNetwork db connectorId with
    | .error e => (db, .error e)
    | .ok networkId =>
        let (db, snap) := compileUnsigned C db connectorId networkId ttl now
        match signSnapshot C.hmacSha256 signingKey snap with
        | .error e => (db, .error e)
        | .ok sig => (db, .ok (snap.withSignature sig))

/-! ## What is compiled -/

/-- The policy of a network: the resources a snapshot of it carries. -/
def compiledResources (db : Database) (networkId : String) : List PolicyResource :=
  normalizeResources (policyResources C db networkId)

variable {C}

/-- Compiling succeeds for a connector with a network and a key. -/
theorem compilePolicySnapshot_eq {db : Database} {connectorId networkId : String} (ttl : Duration)
    {key : List UInt8} (now : SystemTime) (hid : connectorId ≠ "")
    (hnetwork : lookupConnectorNetwork db connectorId = .ok networkId) (hkey : key ≠ []) :
    compilePolicySnapshot C db connectorId ttl key now =
      ((compileUnsigned C db connectorId networkId ttl now).1,
        .ok ((compileUnsigned C db connectorId networkId ttl now).2.withSignature
          (encodeToString (C.hmacSha256 key
            ((compileUnsigned C db connectorId networkId ttl now).2.withSignature
              "").marshal)))) := by
  have hlen : ¬ key.length = 0 := fun h => hkey (List.length_eq_zero_iff.mp h)
  simp only [compilePolicySnapshot, if_neg hid, hnetwork, signSnapshot, if_neg hlen]

end Compile

end ZeroTrust.Controller
