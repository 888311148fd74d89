/-
# `ZeroTrust.ControlPlane.PolicyPush` — do policy pushes converge?

One connected connector, and any number of `sendPolicySnapshot` runs for it: the
one of its `Connect`, and one for each admin request that changes the policy.  A
run compiles the policy from the database, and later sends the message; only the
sending holds a lock (`sendMu`).  The stream delivers in order, and the connector
replaces its policy with every snapshot it accepts, whatever its version.

So a run that compiled before a change may send after a run that compiled after
it, and the connector is left with the older policy (`stale_push`).  If no run
sends out of order, pushes do converge:

    this state machine                  `ZeroTrust.Lib.Publish`
    the policy of the database          the source's value
    a `sendPolicySnapshot` run          a worker
    the messages sent                   the log

`abs_step` is the simulation; `policy_pushes_converge` reads the connector's
policy off the last message.

`writes` and `sent` are not in the program: they count the changes and remember
the messages, so that "compiled earlier" can be said.
-/
import ZeroTrust.Lib.Publish
import ZeroTrust.Connector.Handler
import ZeroTrust.ControlPlane.SignedBytes

namespace ZeroTrust.ControlPlane.PolicyPush

open Lib
open Controller (Database)
open Connector (HandlerState handlePolicySnapshot fromSlice)

/-- The controller's side of one stream: its `connectorClient` and the settings. -/
structure Client where
  C : Controller.Libraries
  connectorId : String
  signingKey : List UInt8
  snapshotTTL : Duration

/-- `sendPolicySnapshot` up to the sending: the snapshot to send, if there is one. -/
def prepare (cl : Client) (db : Database) (now : SystemTime) :
    Database × Option Controller.PolicySnapshot :=
  if cl.connectorId = "" ∨ cl.signingKey = [] then (db, none)
  else
    match Controller.lookupConnectorNetwork db cl.connectorId with
    | .error _ => (db, none)
    | .ok _ =>
        match Controller.compilePolicySnapshot cl.C db cl.connectorId cl.snapshotTTL cl.signingKey
          now with
        | (db, .error _) => (db, none)
        | (db, .ok snap) => (db, some snap)

/-- The policy of a database state: the resources a run would send now. -/
def policyOf (cl : Client) (db : Database) : Option (List Controller.PolicyResource) :=
  if cl.connectorId = "" ∨ cl.signingKey = [] then none
  else
    match Controller.lookupConnectorNetwork db cl.connectorId with
    | .error _ => none
    | .ok networkId => some (Controller.compiledResources cl.C db networkId)

section Prepare

variable (cl : Client) (db : Database) (networkId : String) (now : SystemTime)

/-- The snapshot compiled for the connector's network, before it is signed. -/
def unsignedSnapshot : Controller.PolicySnapshot :=
  (Controller.compileUnsigned cl.C db cl.connectorId networkId cl.snapshotTTL now).2

def signedSnapshot : Controller.PolicySnapshot :=
  (unsignedSnapshot cl db networkId now).withSignature (Controller.encodeToString
    (cl.C.hmacSha256 cl.signingKey
      ((unsignedSnapshot cl db networkId now).withSignature "").marshal))

variable {cl db networkId}

theorem prepare_eq (hid : cl.connectorId ≠ "") (hkey : cl.signingKey ≠ [])
    (hnetwork : Controller.lookupConnectorNetwork db cl.connectorId = .ok networkId) :
    prepare cl db now =
      ((Controller.compileUnsigned cl.C db cl.connectorId networkId cl.snapshotTTL now).1,
        some (signedSnapshot cl db networkId now)) := by
  have hsend : ¬ (cl.connectorId = "" ∨ cl.signingKey = []) := not_or.mpr ⟨hid, hkey⟩
  simp only [prepare, if_neg hsend, hnetwork, signedSnapshot, unsignedSnapshot,
    Controller.compilePolicySnapshot_eq cl.snapshotTTL now hid hnetwork hkey]

end Prepare

/-- A run prepares the policy of the database it sees, and leaves that policy as
it is. -/
theorem prepare_spec (cl : Client) (db : Database) (now : SystemTime) :
    (prepare cl db now).2.map Controller.PolicySnapshot.resources = policyOf cl db ∧
      policyOf cl (prepare cl db now).1 = policyOf cl db := by
  by_cases hskip : cl.connectorId = "" ∨ cl.signingKey = []
  · simp [prepare, policyOf, hskip]
  · obtain ⟨hid, hkey⟩ := not_or.mp hskip
    cases hnetwork : Controller.lookupConnectorNetwork db cl.connectorId with
    | error e => simp [prepare, policyOf, hskip, hnetwork]
    | ok networkId =>
        have hnetwork' : Controller.lookupConnectorNetwork
            (Controller.compileUnsigned cl.C db cl.connectorId networkId cl.snapshotTTL now).1
            cl.connectorId = .ok networkId := hnetwork
        simp only [prepare_eq now hid hkey hnetwork, policyOf, if_neg hskip, hnetwork, hnetwork']
        exact ⟨rfl, rfl⟩

/-! ## The state machine -/

/-- A run: not yet compiled, compiled after so many changes, or done. -/
inductive Run where
  | pending
  | compiled (asOf : Nat) (snap : Controller.PolicySnapshot)
  | finished

structure State (L : Connector.Libraries) where
  db : Database
  runs : List Run
  /-- The payloads on the stream, oldest first. -/
  wire : List ByteArray
  connector : HandlerState L
  writes : Nat
  sent : List (Nat × Controller.PolicySnapshot)

inductive Event where
  /-- An admin request changes the policy, and then broadcasts. -/
  | write (db : Database)
  /-- The database changes, but not the policy. -/
  | touch (db : Database)
  /-- Another run is triggered. -/
  | trigger
  | compile (i : Nat) (now : SystemTime)
  | send (i : Nat)
  | deliver (now : SystemTime)

variable {L : Connector.Libraries}

/-- The connector connects: its `Connect` has a run to do. -/
def State.connected (db : Database) (connector : HandlerState L) : State L where
  db := db
  runs := [.pending]
  wire := []
  connector := connector
  writes := 0
  sent := []

def step (cl : Client) (s : State L) : Event → Option (State L)
  | .write db =>
      some { s with db, writes := s.writes + 1, runs := s.runs ++ [.pending] }
  | .touch db => if policyOf cl db = policyOf cl s.db then some { s with db } else none
  | .trigger => some { s with runs := s.runs ++ [.pending] }
  | .compile i now =>
      match s.runs[i]? with
      | some .pending =>
          let (db, snap) := prepare cl s.db now
          some { s with db, runs := s.runs.set i (match snap with
            | some snap => .compiled s.writes snap
            | none => .finished) }
      | _ => none
  | .send i =>
      match s.runs[i]? with
      | some (.compiled asOf snap) =>
          some { s with
            runs := s.runs.set i .finished
            wire := s.wire ++ [snap.marshal]
            sent := s.sent ++ [(asOf, snap)] }
      | _ => none
  | .deliver now =>
      match s.wire with
      | payload :: wire =>
          (handlePolicySnapshot s.connector payload now).map fun connector =>
            { s with wire, connector }
      | [] => none

/-- What a step is. -/
theorem step_spec {cl : Client} {s s' : State L} {e : Event} (h : step cl s e = some s') :
    match e with
    | .write db => s' = { s with db, writes := s.writes + 1, runs := s.runs ++ [.pending] }
    | .touch db => policyOf cl db = policyOf cl s.db ∧ s' = { s with db }
    | .trigger => s' = { s with runs := s.runs ++ [.pending] }
    | .compile i now => s.runs[i]? = some .pending ∧
        s' = { s with
          db := (prepare cl s.db now).1
          runs := s.runs.set i (match (prepare cl s.db now).2 with
            | some snap => .compiled s.writes snap
            | none => .finished) }
    | .send i => ∃ asOf snap, s.runs[i]? = some (.compiled asOf snap) ∧
        s' = { s with
          runs := s.runs.set i .finished
          wire := s.wire ++ [snap.marshal]
          sent := s.sent ++ [(asOf, snap)] }
    | .deliver now => ∃ payload wire connector, s.wire = payload :: wire ∧
        handlePolicySnapshot s.connector payload now = some connector ∧
        s' = { s with wire, connector } := by
  cases e with
  | write db => exact (Option.some.inj h).symm
  | touch db =>
      simp only [step, Option.ite_none_right_eq_some, Option.some.injEq] at h
      exact ⟨h.1, h.2.symm⟩
  | trigger => exact (Option.some.inj h).symm
  | compile i now =>
      simp only [step] at h
      split at h
      next hi => exact ⟨hi, (Option.some.inj h).symm⟩
      · cases h
  | send i =>
      simp only [step] at h
      split at h
      next asOf snap hi => exact ⟨asOf, snap, hi, (Option.some.inj h).symm⟩
      · cases h
  | deliver now =>
      simp only [step] at h
      split at h
      next payload wire hwire =>
        obtain ⟨connector, hhandle, rfl⟩ := Option.map_eq_some_iff.mp h
        exact ⟨payload, wire, connector, hwire, hhandle, rfl⟩
      · cases h

/-! ## The simulation -/

def absRun : Run → Publish.Worker (List Controller.PolicyResource)
  | .pending => .waiting
  | .compiled asOf snap => .holding asOf snap.resources
  | .finished => .finished

def absSent (p : Nat × Controller.PolicySnapshot) : Nat × List Controller.PolicyResource :=
  (p.1, p.2.resources)

/-- Policies being published. -/
def abs (cl : Client) (s : State L) : Publish.State (List Controller.PolicyResource) where
  value := policyOf cl s.db
  stamp := s.writes
  workers := s.runs.map absRun
  log := s.sent.map absSent

/-- What an event is to the publishers; a delivery and a change beside the policy
are nothing to them. -/
def absEvent (cl : Client) : Event → Option (Publish.Event (List Controller.PolicyResource))
  | .write db => some (.change (policyOf cl db))
  | .touch _ => none
  | .trigger => some .start
  | .compile i _ => some (.read i)
  | .send i => some (.publish i)
  | .deliver _ => none

theorem abs_compile (cl : Client) (s : State L) (i : Nat) (now : SystemTime)
    (hi : s.runs[i]? = some .pending) (s' : State L)
    (h : step cl s (.compile i now) = some s') :
    Publish.step (abs cl s) (.read i) = some (abs cl s') := by
  obtain ⟨hresources, hpolicy⟩ := prepare_spec cl s.db now
  obtain ⟨-, rfl⟩ := step_spec h
  have hworker : (abs cl s).workers[i]? = some .waiting := by simp [abs, hi, absRun]
  have htake : (abs cl s).take = absRun (match (prepare cl s.db now).2 with
      | some snap => .compiled s.writes snap
      | none => .finished) := by
    simp only [Publish.State.take, abs, ← hresources]
    cases (prepare cl s.db now).2 <;> rfl
  simp only [Publish.step, hworker, htake]
  simp only [abs, List.map_set, hpolicy]

/-- **Simulation.**  A step is a step of the publishers, or nothing to them. -/
theorem abs_step (cl : Client) {s s' : State L} {e : Event} (h : step cl s e = some s') :
    match absEvent cl e with
    | some e' => Publish.step (abs cl s) e' = some (abs cl s')
    | none => abs cl s' = abs cl s := by
  have hspec := step_spec h
  cases e with
  | write db =>
      obtain rfl : s' = _ := hspec
      simp [absEvent, Publish.step, abs, absRun]
  | touch db =>
      obtain ⟨hsame, rfl⟩ := hspec
      simp [absEvent, abs, hsame]
  | trigger =>
      obtain rfl : s' = _ := hspec
      simp [absEvent, Publish.step, abs, absRun]
  | compile i now => exact abs_compile cl s i now hspec.1 s' h
  | send i =>
      obtain ⟨asOf, snap, hi, rfl⟩ := hspec
      simp [absEvent, Publish.step, abs, absRun, absSent, hi, List.map_set]
  | deliver now =>
      obtain ⟨payload, wire, connector, -, -, rfl⟩ := hspec
      rfl

/-! ## Convergence -/

/-- The connector enforces this snapshot of the controller's. -/
def Enforces (connector : HandlerState L) (snap : Controller.PolicySnapshot) : Prop :=
  ∃ r validUntil, fromSlice snap.marshal = some r ∧
    connector.acl.inner = Connector.PolicyCache.indexSnapshot L r validUntil

/-- A delivered snapshot is applied. -/
def Applies (s : State L) : Event → Prop
  | .deliver now => ∀ payload ∈ s.wire.head?, ∃ r acl, fromSlice payload = some r ∧
      s.connector.acl.replaceSnapshot r now = some (acl, true)
  | _ => True

/-- A run sends only if no run that compiled after a later change has sent before. -/
def InOrder (s : State L) : Event → Prop
  | .send i => ∀ asOf snap, s.runs[i]? = some (.compiled asOf snap) → ∀ p ∈ s.sent, p.1 ≤ asOf
  | _ => True

/-- The messages are those already applied, the last of which is enforced, and those
on the stream. -/
def Delivered (s : State L) : Prop :=
  ∃ applied inFlight, s.sent = applied ++ inFlight ∧
    s.wire = inFlight.map (fun p => p.2.marshal) ∧
    ∀ p ∈ applied.getLast?, Enforces s.connector p.2

structure Inv (cl : Client) (s : State L) : Prop where
  publish : Publish.Inv (abs cl s)
  delivered : Delivered s

theorem inOrder_abs (cl : Client) {s : State L} {e : Event} (h : InOrder s e)
    {e' : Publish.Event (List Controller.PolicyResource)} (he : absEvent cl e = some e') :
    Publish.InOrder (abs cl s) e' := by
  cases e with
  | send i =>
      obtain rfl := Option.some.inj he
      intro asOf resources hi p hp
      obtain ⟨q, hq, rfl⟩ := List.mem_map.mp hp
      simp only [abs, List.getElem?_map, Option.map_eq_some_iff] at hi
      obtain ⟨r, hr, habs⟩ := hi
      cases r with
      | compiled asOf' snap =>
          obtain ⟨rfl, -⟩ := Publish.Worker.holding.inj habs
          exact h asOf' snap hr q hq
      | pending => cases habs
      | finished => cases habs
  | write db => obtain rfl := Option.some.inj he; trivial
  | trigger => obtain rfl := Option.some.inj he; trivial
  | compile i now => obtain rfl := Option.some.inj he; trivial
  | touch db => cases he
  | deliver now => cases he

theorem publish_step (cl : Client) {s s' : State L} {e : Event} (hinv : Publish.Inv (abs cl s))
    (horder : InOrder s e) (h : step cl s e = some s') : Publish.Inv (abs cl s') := by
  have hsim := abs_step cl h
  split at hsim
  next e' he => exact Publish.inv_step hinv (inOrder_abs cl horder he) hsim
  · rw [hsim]
    exact hinv

theorem Delivered.frame {s s' : State L} (h : Delivered s) (hsent : s'.sent = s.sent)
    (hwire : s'.wire = s.wire) (hconnector : s'.connector = s.connector) : Delivered s' := by
  unfold Delivered
  rw [hsent, hwire, hconnector]
  exact h

/-- Only sending and delivering touch the stream and the connector. -/
theorem delivered_step (cl : Client) {s s' : State L} {e : Event} (hinv : Delivered s)
    (happlies : Applies s e) (h : step cl s e = some s') : Delivered s' := by
  have hspec := step_spec h
  cases e with
  | write db =>
      obtain rfl : s' = _ := hspec
      exact hinv.frame rfl rfl rfl
  | trigger =>
      obtain rfl : s' = _ := hspec
      exact hinv.frame rfl rfl rfl
  | touch db =>
      obtain ⟨-, rfl⟩ := hspec
      exact hinv.frame rfl rfl rfl
  | compile i now =>
      obtain ⟨-, rfl⟩ := hspec
      exact hinv.frame rfl rfl rfl
  | send i =>
      obtain ⟨applied, inFlight, hsent, hwire, hlast⟩ := hinv
      obtain ⟨asOf, snap, hi, rfl⟩ := hspec
      exact ⟨applied, inFlight ++ [(asOf, snap)], by simp [hsent], by simp [hwire], hlast⟩
  | deliver now =>
      obtain ⟨applied, inFlight, hsent, hmap, hlast⟩ := hinv
      obtain ⟨payload, wire, connector, hwire, hhandle, rfl⟩ := hspec
      rw [hwire] at hmap
      match inFlight, hsent, hmap with
      | [], _, hmap => cases hmap
      | p :: inFlight, hsent, hmap =>
          rw [List.map_cons, List.cons.injEq] at hmap
          obtain ⟨rfl, rfl⟩ := hmap
          refine ⟨applied ++ [p], inFlight, by simp [hsent], rfl, ?_⟩
          intro q hq
          obtain rfl : p = q := by simpa using hq
          obtain ⟨r, acl, hdecode, haccepted⟩ := happlies p.2.marshal (by simp [hwire])
          have hacl := Connector.handlePolicySnapshot_accepted hdecode haccepted hhandle
          rcases Connector.PolicyCache.replaceSnapshot_cases haccepted with ⟨hfalse, -⟩ |
            ⟨-, validUntil, -, heq⟩
          · cases hfalse
          · exact ⟨r, validUntil, hdecode, by rw [hacl, heq]⟩

theorem inv_connected (cl : Client) (db : Database) (connector : HandlerState L) :
    Inv cl (State.connected db connector) where
  publish := {
    held := by simp [abs, State.connected, absRun]
    logged := by simp [abs, State.connected]
    ordered := by simp [abs, State.connected]
    current := Or.inr (Or.inl (by simp [abs, State.connected, absRun])) }
  delivered := ⟨[], [], rfl, rfl, by simp⟩

/-- **Convergence theorem.**  From a connector's `Connect` on, take any interleaving of
policy changes, runs and deliveries in which every delivered snapshot is applied and
no run sends out of order.  Once all runs are done and all messages are delivered,
the connector enforces the policy of the database as it then is, if there is one. -/
theorem policy_pushes_converge (cl : Client) (db : Database) (connector : HandlerState L)
    (es : List Event) (s : State L)
    (hrun : run (step cl) (State.connected db connector) es = some s)
    (happlies : Meets (step cl) Applies (State.connected db connector) es)
    (horder : Meets (step cl) InOrder (State.connected db connector) es)
    (hdone : ∀ r ∈ s.runs, r = .finished) (hwire : s.wire = [])
    (resources : List Controller.PolicyResource) (hpolicy : policyOf cl s.db = some resources) :
    ∃ snap, snap.resources = resources ∧ Enforces s.connector snap := by
  have hinv : Inv cl s := by
    refine run_invariant_of_meets ?_ (inv_connected cl db connector)
      (meets_and happlies horder) hrun
    intro s e s' hinv hok hstep
    exact ⟨publish_step cl hinv.publish hok.2 hstep, delivered_step cl hinv.delivered hok.1 hstep⟩
  have hlast : (s.sent.map absSent).getLast? = some (s.writes, resources) := by
    refine Publish.getLast?_log hinv.publish ?_ hpolicy
    intro w hw
    obtain ⟨r, hr, rfl⟩ := List.mem_map.mp hw
    rw [hdone r hr]
    rfl
  obtain ⟨applied, inFlight, hsent, hempty, henforced⟩ := hinv.delivered
  obtain rfl : inFlight = [] := List.map_eq_nil_iff.mp (hempty.symm.trans hwire)
  rw [List.append_nil] at hsent
  rw [List.getLast?_map, Option.map_eq_some_iff] at hlast
  obtain ⟨p, hp, habs⟩ := hlast
  exact ⟨p.2, congrArg Prod.snd habs, henforced p (hsent ▸ hp)⟩

/-! ## One overtaken run -/

section Overtaken

/-- One resource, listing these identities. -/
def grantSnapshot (version : Int64) (identities : List String) : Controller.PolicySnapshot where
  snapshotMeta := {
    connectorId := "con_1"
    policyVersion := version
    compiledAt := "2025-01-01T00:00:00Z"
    validUntil := "2025-01-01T00:10:00Z"
    signature := "" }
  resources := [{
    resourceId := "res_1"
    type := "dns"
    address := "db.internal"
    port := 443
    protocol := "TCP"
    portFrom := some 443
    portTo := some 443
    allowedIdentities := identities
    firewallStatus := "unprotected" }]

def grantRules : Table Controller.AccessRuleRow.id :=
  ⟨[{ id := "rule_1", resourceId := "res_1", enabled := 1 }], List.nodup_singleton _⟩

/-- One resource, with or without a rule for it. -/
def grantDatabase (accessRules : Table Controller.AccessRuleRow.id) : Database where
  connectors := ⟨[{ id := "con_1", remoteNetworkId := "net_1" }], List.nodup_singleton _⟩
  remoteNetworkConnectors := ∅
  resources := ⟨[{
    id := "res_1"
    type := "dns"
    address := "db.internal"
    protocol := "TCP"
    portFrom := some 443
    portTo := some 443
    remoteNetworkId := "net_1"
    firewallStatus := "unprotected" }], List.nodup_singleton _⟩
  accessRules := accessRules
  accessRuleGroups := ⟨[{ ruleId := "rule_1", groupId := "grp_1" }], List.nodup_singleton _⟩
  userGroupMembers := ⟨[{ userId := "usr_1", groupId := "grp_1" }], List.nodup_singleton _⟩
  users := ⟨[{ id := "usr_1", status := "Active", certificateIdentity := some "identity-1" }],
    List.nodup_singleton _⟩
  connectorPolicyVersions := ∅

/-- SHA-256 of the two lists of resources. -/
def grantSha256 (data : ByteArray) : List UInt8 :=
  if data = Controller.marshal (.obj [("resources",
      .arr ((grantSnapshot 1 ["identity-1"]).resources.map Controller.PolicyResource.toJson))]) then
    [244, 115, 175, 40, 22, 22, 3, 200, 8, 248, 188, 215, 84, 112, 85, 255,
      158, 88, 41, 100, 88, 71, 143, 125, 53, 173, 186, 130, 237, 84, 215, 220]
  else
    [105, 191, 59, 113, 108, 12, 78, 53, 134, 249, 43, 43, 45, 148, 18, 155,
      73, 97, 116, 17, 201, 193, 111, 83, 25, 178, 159, 57, 67, 209, 4, 35]

/-- HMAC-SHA256 of the two snapshots under the key `k`. -/
def grantHmac (_key : List UInt8) (data : ByteArray) : List UInt8 :=
  if data = (grantSnapshot 1 ["identity-1"]).marshal then
    [252, 242, 189, 125, 48, 233, 24, 92, 58, 244, 105, 123, 22, 195, 194, 26,
      113, 49, 239, 36, 249, 59, 204, 60, 253, 41, 142, 105, 214, 54, 50, 195]
  else
    [105, 161, 195, 101, 244, 136, 79, 16, 48, 1, 47, 248, 124, 49, 84, 24,
      165, 29, 250, 214, 198, 19, 136, 30, 138, 198, 28, 96, 138, 109, 166, 28]

def grantClient : Client where
  C := {
    unicode := .ascii
    collate := fun a b => a ≤ b
    sqlLower := UnicodeData.ascii.stringsToLower
    parseCIDR := fun _ => false
    sha256 := grantSha256
    hmacSha256 := grantHmac }
  connectorId := "con_1"
  signingKey := [107]
  snapshotTTL := 600 * nanosPerSec

def grantLibraries : Connector.Libraries :=
  { Connector.Libraries.recorded [] with hmacSha256 := grantHmac }

/-- A connector that has just connected. -/
def grantConnector : HandlerState grantLibraries where
  allowlist := ∅
  acl := .new _ [107] (300 * nanosPerSec)
  latestFwPolicy := none
  firewallTx := []

def grantTime : SystemTime := 1735689600 * nanosPerSec

def granted : Database := grantDatabase grantRules

/-- The rule was deleted after the first run had compiled. -/
def revoked : Database :=
  { grantDatabase ∅ with
    connectorPolicyVersions := (prepare grantClient granted grantTime).1.connectorPolicyVersions }

theorem prepare_granted : (prepare grantClient granted grantTime).2 =
    some (signedSnapshot grantClient granted "net_1" grantTime) := by
  rw [prepare_eq grantTime (by decide) (by decide)
    (show Controller.lookupConnectorNetwork granted "con_1" = .ok "net_1" from rfl)]

theorem prepare_revoked : (prepare grantClient revoked grantTime).2 =
    some (signedSnapshot grantClient revoked "net_1" grantTime) := by
  rw [prepare_eq grantTime (by decide) (by decide)
    (show Controller.lookupConnectorNetwork revoked "con_1" = .ok "net_1" from rfl)]

theorem validUntil_compiled (db : Database) : parseRfc3339
    (unsignedSnapshot grantClient db "net_1" grantTime).snapshotMeta.validUntil =
      some (1735690200 * nanosPerSec) := by
  show parseRfc3339 (formatRfc3339 (grantTime + ↑(600 * nanosPerSec))) = _
  decide

theorem grant_portsInRange (identities : List String) :
    ∀ r ∈ (grantSnapshot 1 identities).resources, PortsInRange r := by
  intro r hr
  obtain rfl := List.mem_singleton.mp hr
  have h443 : PortInRange 443 := by decide
  exact ⟨h443, fun p hp => Option.some.inj hp ▸ h443, fun p hp => Option.some.inj hp ▸ h443⟩

/-- A database from which this list of identities is compiled, and nothing special. -/
structure Compiles (db : Database) (identities : List String) : Prop where
  resources : (unsignedSnapshot grantClient db "net_1" grantTime).resources =
    (grantSnapshot 1 identities).resources
  plain : NoSpecial (unsignedSnapshot grantClient db "net_1" grantTime)

theorem compiles_granted : Compiles granted ["identity-1"] := ⟨rfl, by decide⟩

theorem compiles_revoked : Compiles revoked [] := ⟨rfl, by decide⟩

variable {db : Database} {identities : List String}

theorem decode_compiled (h : Compiles db identities) :
    fromSlice (signedSnapshot grantClient db "net_1" grantTime).marshal =
      some (received (signedSnapshot grantClient db "net_1" grantTime)) := by
  refine decode_marshal ?_
  show ∀ r ∈ (unsignedSnapshot grantClient db "net_1" grantTime).resources, PortsInRange r
  rw [h.resources]
  exact grant_portsInRange identities

/-- The snapshot is applied when it arrives. -/
theorem accepts_compiled (h : Compiles db identities) {acl : Connector.PolicyCache grantLibraries}
    (hkey : acl.signingKey = [107]) (hgrace : acl.staleGrace = 300 * nanosPerSec) :
    acl.Accepts (received (signedSnapshot grantClient db "net_1" grantTime)) grantTime
      (1735690200 * nanosPerSec) := by
  refine accepts_received (L := grantLibraries)
    (s := unsignedSnapshot grantClient db "net_1" grantTime)
    rfl ?_ h.plain hkey (validUntil_compiled db) ?_ ?_
  · rw [h.resources]
    exact grant_portsInRange identities
  · rw [hgrace]
    decide
  · rw [hgrace]
    decide

/-- The step that delivers such a snapshot. -/
theorem deliver_compiled (h : Compiles db identities) (s : State grantLibraries)
    (wire : List ByteArray)
    (hwire : s.wire = (signedSnapshot grantClient db "net_1" grantTime).marshal :: wire)
    (hkey : s.connector.acl.signingKey = [107])
    (hgrace : s.connector.acl.staleGrace = 300 * nanosPerSec) :
    Applies s (.deliver grantTime) ∧
      ∃ c', step grantClient s (.deliver grantTime) = some { s with wire, connector := c' } ∧
        c'.acl = { s.connector.acl with
          inner := Connector.PolicyCache.indexSnapshot grantLibraries
            (received (signedSnapshot grantClient db "net_1" grantTime))
            (1735690200 * nanosPerSec) } := by
  have haccepts := accepts_compiled h hkey hgrace
  obtain ⟨c', hhandle, hacl⟩ :=
    Connector.handlePolicySnapshot_of_accepts (decode_compiled h) haccepts
  refine ⟨?_, c', by simp only [step, hwire, hhandle, Option.map_some], hacl⟩
  intro payload hpayload
  obtain rfl : (signedSnapshot grantClient db "net_1" grantTime).marshal = payload := by
    simpa [hwire] using hpayload
  exact ⟨_, _, decode_compiled h, Connector.PolicyCache.replaceSnapshot_of_accepts haccepts⟩

/-- A connector that enforces a policy listing an identity does not enforce the one
that lists none. -/
theorem not_enforces_revoked {c : HandlerState grantLibraries} {validUntil : SystemTime}
    (h : c.acl.inner = Connector.PolicyCache.indexSnapshot grantLibraries
      (received (signedSnapshot grantClient granted "net_1" grantTime)) validUntil) :
    ¬ ∃ snap, snap.resources = (grantSnapshot 1 []).resources ∧ Enforces c snap := by
  rintro ⟨snap, hresources, r, validUntil', hdecode, hinner⟩
  have hports : ∀ r ∈ snap.resources, PortsInRange r := hresources ▸ grant_portsInRange []
  obtain rfl : received snap = r := Option.some.inj ((decode_marshal hports).symm.trans hdecode)
  have hlisted : Connector.PolicyCache.aclKey "identity-1" "res_1" ∈ c.acl.inner.aclTable := by
    rw [h, Connector.PolicyCache.indexSnapshot, Connector.PolicyCache.mem_aclTable_index]
    exact Or.inr ⟨_, List.mem_singleton.mpr rfl, "identity-1", List.mem_singleton.mpr rfl,
      by decide, rfl⟩
  rw [hinner, Connector.PolicyCache.indexSnapshot, Connector.PolicyCache.mem_aclTable_index]
    at hlisted
  rcases hlisted with hempty | ⟨r, hr, i, hi, -⟩
  · exact absurd hempty (Finset.notMem_empty _)
  · have hreceived : (received snap).resources = (received (grantSnapshot 1 [])).resources := by
      simp only [received, hresources]
    rw [hreceived] at hr
    obtain rfl := List.mem_singleton.mp hr
    exact absurd hi List.not_mem_nil

/-- The state after both runs have sent, the second one first. -/
def overtaken : State grantLibraries where
  db := (prepare grantClient revoked grantTime).1
  runs := [.finished, .finished]
  wire := [(signedSnapshot grantClient revoked "net_1" grantTime).marshal,
    (signedSnapshot grantClient granted "net_1" grantTime).marshal]
  connector := grantConnector
  writes := 1
  sent := [(1, signedSnapshot grantClient revoked "net_1" grantTime),
    (0, signedSnapshot grantClient granted "net_1" grantTime)]

/-- The first run compiles, the rule is deleted, the second run compiles and sends,
and then the first run sends. -/
def overtaking : List Event :=
  [.compile 0 grantTime, .write revoked, .compile 1 grantTime, .send 1, .send 0]

theorem run_overtaking :
    run (step grantClient) (State.connected granted grantConnector) overtaking =
      some overtaken := by
  simp [overtaking, run, step, State.connected, prepare_granted, prepare_revoked, overtaken]

/-- Every write had its broadcast, every run is done, every snapshot was applied; the
rule is deleted from the database and in force on the connector. -/
theorem stale_push :
    ∃ es s, run (step grantClient) (State.connected granted grantConnector) es = some s ∧
      Meets (step grantClient) Applies (State.connected granted grantConnector) es ∧
      (∀ r ∈ s.runs, r = .finished) ∧ s.wire = [] ∧
      ∃ resources, policyOf grantClient s.db = some resources ∧
        ¬ ∃ snap, snap.resources = resources ∧ Enforces s.connector snap := by
  let second := [(signedSnapshot grantClient granted "net_1" grantTime).marshal]
  obtain ⟨happlies₁, c₁, hstep₁, hacl₁⟩ :=
    deliver_compiled compiles_revoked overtaken second rfl rfl rfl
  have hkey : c₁.acl.signingKey = [107] := by rw [hacl₁]; rfl
  have hgrace : c₁.acl.staleGrace = 300 * nanosPerSec := by rw [hacl₁]; rfl
  obtain ⟨happlies₂, c₂, hstep₂, hacl₂⟩ :=
    deliver_compiled compiles_granted { overtaken with wire := second, connector := c₁ } [] rfl
      hkey hgrace
  refine ⟨overtaking ++ [.deliver grantTime, .deliver grantTime],
    { overtaken with wire := [], connector := c₂ }, ?_, ?_, ?_, rfl, ?_⟩
  · exact run_append.mpr ⟨overtaken, run_overtaking,
      run_cons.mpr ⟨_, hstep₁, run_cons.mpr ⟨_, hstep₂, rfl⟩⟩⟩
  · refine meets_append.mpr ⟨meets_of_forall ?_, fun t ht => ?_⟩
    · simp [overtaking, Applies]
    · obtain rfl : overtaken = t := Option.some.inj (run_overtaking.symm.trans ht)
      exact meets_cons happlies₁ hstep₁ (meets_cons happlies₂ hstep₂ trivial)
  · simp [overtaken]
  · have hinner := congrArg Connector.PolicyCache.inner hacl₂
    refine ⟨(grantSnapshot 1 []).resources, ?_, not_enforces_revoked hinner⟩
    exact (prepare_spec grantClient revoked grantTime).2

/-- The state after the first run alone has sent. -/
def pushed : State grantLibraries where
  db := (prepare grantClient granted grantTime).1
  runs := [.finished]
  wire := [(signedSnapshot grantClient granted "net_1" grantTime).marshal]
  connector := grantConnector
  writes := 0
  sent := [(0, signedSnapshot grantClient granted "net_1" grantTime)]

theorem run_pushing : run (step grantClient) (State.connected granted grantConnector)
    [.compile 0 grantTime, .send 0] = some pushed := by
  simp [run, step, State.connected, prepare_granted, pushed]

/-- With one run there is nothing to overtake, and its policy arrives. -/
theorem push_arrives :
    ∃ s, run (step grantClient) (State.connected granted grantConnector)
        [.compile 0 grantTime, .send 0, .deliver grantTime] = some s ∧
      ∃ snap, snap.resources = (grantSnapshot 1 ["identity-1"]).resources ∧
        Enforces s.connector snap := by
  obtain ⟨happlies, c, hstep, -⟩ := deliver_compiled compiles_granted pushed [] rfl rfl rfl
  have hrun : run (step grantClient) (State.connected granted grantConnector)
      ([.compile 0 grantTime, .send 0] ++ [.deliver grantTime]) =
        some { pushed with wire := [], connector := c } :=
    run_concat.mpr ⟨pushed, run_pushing, hstep⟩
  refine ⟨_, hrun, policy_pushes_converge grantClient granted grantConnector _ _ hrun ?_ ?_ ?_ rfl
    (grantSnapshot 1 ["identity-1"]).resources (prepare_spec grantClient granted grantTime).2⟩
  · refine meets_append.mpr ⟨meets_of_forall (by simp [Applies]), ?_⟩
    intro t ht
    obtain rfl : pushed = t := Option.some.inj (run_pushing.symm.trans ht)
    exact meets_cons happlies hstep trivial
  · simp [Meets, InOrder, step, State.connected, prepare_granted]
  · simp [pushed]

end Overtaken

end ZeroTrust.ControlPlane.PolicyPush
