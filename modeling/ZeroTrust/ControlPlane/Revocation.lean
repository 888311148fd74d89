/-
# `ZeroTrust.ControlPlane.Revocation` — what a revoked connector can still do

A connector's revocation is the column `revoked` of its row.  Two places look at it,
`Connect` before it accepts a stream and `SaveConnectorToDB` before a heartbeat's upsert,
both with a `?` that is not rebound: PostgreSQL refuses the statement, and an error counts
as not revoked.  Whoever sends or marks after that does not look:

    Connect         sends a snapshot, marks the row online and installed
    a broadcast     sends a snapshot to every client
    a heartbeat     makes the row of the connector it names online and installed,
                    whichever connector sends it

`Connect` and the broadcasts run in steps: a stream is checked, registered, sent its
snapshot (compiled first, sent later), marked, and then serves messages; a broadcast takes
the clients and goes through them one by one.  Everything else happens in between.

    `connector_revocation`   a run is free of all this if connectors are revoked only while
                             nothing of theirs runs, and stay away until they are granted;
                             and only if no step acts for a connector that is revoked
-/
import Mathlib.Data.Finset.Basic
import ZeroTrust.ControlPlane.Clients
import ZeroTrust.ControlPlane.PolicyPush

namespace ZeroTrust.ControlPlane.Revocation

open Lib
open Clients (parseConnectorID)
open Controller (Database PolicySnapshot)

/-! ## The tables and the registry -/

/-- The columns of `connectors` that the compiler does not read, with their defaults. -/
structure ConnectorColumns where
  status : String := "offline"
  version : String := ""
  privateIp : String := ""
  lastSeen : Int := 0
  lastSeenAt : String := ""
  installed : Int := 0
  revoked : Int := 0
  workspaceId : String := ""

structure ConnectorRecord where
  id : String
  privateIP : String
  version : String
  lastSeen : SystemTime
  workspaceID : String

abbrev Registry := Table ConnectorRecord.id

def Registry.recordHeartbeat (r : Registry) (connectorID privateIP : String) (now : SystemTime) :
    Registry :=
  let rec₀ := (r.get connectorID).getD
    { id := connectorID, privateIP := "", version := "", lastSeen := 0, workspaceID := "" }
  r.put { rec₀ with privateIP, lastSeen := now }

/-- The entry that a heartbeat starts from. -/
def Registry.entry (r : Registry) (connectorID : String) : ConnectorRecord :=
  (r.get connectorID).getD
    { id := connectorID, privateIP := "", version := "", lastSeen := 0, workspaceID := "" }

theorem Registry.id_entry (r : Registry) (connectorID : String) :
    (r.entry connectorID).id = connectorID := by
  unfold entry
  cases hget : r.get connectorID with
  | none => rfl
  | some c => exact (Table.mem_of_get hget).2

theorem Registry.get_recordHeartbeat (r : Registry) (connectorID privateIP : String)
    (now : SystemTime) (q : String) :
    (r.recordHeartbeat connectorID privateIP now).get q =
      if q = connectorID then some { r.entry connectorID with privateIP, lastSeen := now }
      else r.get q := by
  have hput : r.recordHeartbeat connectorID privateIP now =
      r.put { r.entry connectorID with privateIP, lastSeen := now } := rfl
  rw [hput, Table.get_put]
  show (if q = (r.entry connectorID).id then _ else _) = _
  rw [r.id_entry]

def Registry.delete (r : Registry) (id : String) : Registry := r.filter fun c => c.id ≠ id

/-! ## The parties -/

structure ConnectorClient where
  stream : Nat
  connectorID : String
  signingKey : List UInt8
  deriving DecidableEq

/-- Where a `Connect` call stands. -/
inductive Phase where
  /-- Past the check of `revoked`. -/
  | checked
  /-- Among the clients; its snapshot is next. -/
  | registered
  | compiled (snap : PolicySnapshot)
  /-- Its snapshot is sent, or there was none to send. -/
  | pushed
  /-- In the loop over the stream's messages. -/
  | serving
  deriving DecidableEq

structure Call where
  stream : Nat
  spiffeID : String
  signingKey : List UInt8
  phase : Phase

def Call.connectorID (c : Call) : String := parseConnectorID c.spiffeID

def Call.client (c : Call) : ConnectorClient := ⟨c.stream, c.connectorID, c.signingKey⟩

/-- A `broadcastPolicySnapshots`: the clients left, and the snapshot of the first one once
it is compiled. -/
structure Broadcast where
  queue : List ConnectorClient
  compiled : Option PolicySnapshot

structure State where
  db : Database
  /-- By id, for the ids that have a row. -/
  columns : String → ConnectorColumns
  registry : Registry
  clients : AList fun _ : String => ConnectorClient
  calls : List Call
  broadcasts : List Broadcast
  opened : Nat
  /-- Revoked, or deleted in the UI, and not granted since. -/
  revoked : Finset String

/-- Nobody is connected yet. -/
def State.start (db : Database) (columns : String → ConnectorColumns) (registry : Registry) :
    State where
  db := db
  columns := columns
  registry := registry
  clients := ∅
  calls := []
  broadcasts := []
  opened := 0
  revoked := ∅

/-- The steps of the `Connect` calls. -/
inductive StreamEvent where
  | connect (spiffeID : String) (signingKey : List UInt8)
  | register (stream : Nat)
  | compileInitial (stream : Nat) (now : SystemTime)
  | sendInitial (stream : Nat)
  | markOnline (stream : Nat) (now : SystemTime) (nowISO : String)
  /-- The connector id is the message's. -/
  | heartbeat (stream : Nat) (connectorID privateIP : String) (now : SystemTime)
  | disconnect (stream : Nat)

/-- The steps of the broadcasts. -/
inductive BroadcastEvent where
  /-- The clients come in this order. -/
  | takeClients (clients : List ConnectorClient)
  | compileNext (broadcast : Nat) (now : SystemTime)
  | sendNext (broadcast : Nat)

inductive Request where
  | revoke (id : String)
  | grant (id : String)
  /-- `DELETE /api/connectors/{id}`. -/
  | uiDelete (id : String)
  /-- `DELETE /api/admin/connectors/{id}`. -/
  | adminDelete (id : String)
  /-- `POST /api/connectors`, with the id and the time text that the handler makes for it. -/
  | create (id remoteNetworkId lastSeenAt workspaceId : String) (now : SystemTime)
  | assignConnector (networkId connectorId : String)
  | removeConnector (networkId connectorId : String)

inductive Event where
  | stream (e : StreamEvent)
  | broadcast (e : BroadcastEvent)
  | request (e : Request)

/-! ## The statements -/

namespace State

/-- `UPDATE connectors SET … WHERE id = …`. -/
def updateRow (s : State) (id : String) (f : ConnectorColumns → ConnectorColumns) : State :=
  { s with
    columns := fun q =>
      if q = id ∧ (s.db.connectors.get id).isSome then f (s.columns q) else s.columns q }

/-- `DELETE FROM remote_network_connectors WHERE connector_id = …`. -/
def deleteJunctions (s : State) (id : String) : State :=
  { s with db.remoteNetworkConnectors :=
    s.db.remoteNetworkConnectors.filter fun r => r.connectorId ≠ id }

/-- `SaveConnectorToDB`, whose look at `revoked` fails. -/
def saveConnectorToDB (s : State) (r : ConnectorRecord) : State :=
  let seen := fun c : ConnectorColumns =>
    { c with
      privateIp := r.privateIP, version := r.version, lastSeen := r.lastSeen / nanosPerSec
      installed := 1, status := "online", lastSeenAt := formatRfc3339 r.lastSeen
      workspaceId := r.workspaceID }
  match s.db.connectors.get r.id with
  | some _ => s.updateRow r.id seen
  | none =>
      { s with
        db.connectors := s.db.connectors.put ⟨r.id, ""⟩
        columns := fun q => if q = r.id then seen {} else s.columns q }

/-- What a heartbeat does: `RecordHeartbeat`, `Get` and `SaveConnectorToDB`. -/
def heartbeat (s : State) (connectorID privateIP : String) (now : SystemTime) : State :=
  let registry := s.registry.recordHeartbeat connectorID privateIP now
  match registry.get connectorID with
  | some r => { s with registry }.saveConnectorToDB r
  | none => { s with registry }

/-- `RevokeConnectorInDB`. -/
def revokeConnectorInDB (s : State) (id : String) : State :=
  let s := s.updateRow id fun c => { c with revoked := 1, status := "offline", installed := 0 }
  s.deleteJunctions id

/-- `GrantConnectorInDB`. -/
def grantConnectorInDB (s : State) (id : String) : State :=
  s.updateRow id fun c => { c with revoked := 0, status := "offline" }

/-- `DeleteConnectorFromDB`. -/
def deleteConnectorFromDB (s : State) (id : String) : State :=
  { s.deleteJunctions id with db.connectors := s.db.connectors.filter fun r => r.id ≠ id }

/-- What `DELETE /api/connectors/{id}` does to the connector. -/
def forgetConnector (s : State) (id : String) : State :=
  let s := { s with
    registry := s.registry.delete id
    db.connectorPolicyVersions :=
      s.db.connectorPolicyVersions.filter fun r => r.connectorId ≠ id }
  (s.revokeConnectorInDB id).updateRow id fun c => { c with revoked := 1, status := "offline" }

/-! ## The steps -/

def call? (s : State) (stream : Nat) : Option Call := s.calls.find? fun c => c.stream = stream

def setPhase (s : State) (stream : Nat) (phase : Phase) : State :=
  { s with calls := s.calls.map fun c => if c.stream = stream then { c with phase } else c }

end State

/-- The settings of the controller. -/
structure Settings where
  C : Controller.Libraries
  snapshotTTL : Duration

/-- `sendPolicySnapshot` up to the sending. -/
def Settings.prepare (cfg : Settings) (s : State) (c : ConnectorClient) (now : SystemTime) :
    Database × Option PolicySnapshot :=
  PolicyPush.prepare ⟨cfg.C, c.connectorID, c.signingKey, cfg.snapshotTTL⟩ s.db now

/-- The step of a call in a phase: `none` if it is in another one. -/
def State.inPhase (s : State) (stream : Nat) (phase : Phase) (f : Call → State) : Option State :=
  match s.call? stream with
  | some c => if c.phase = phase then some (f c) else none
  | none => none

section Steps

variable (cfg : Settings)

def streamStep (s : State) : StreamEvent → Option State
  | .connect spiffeID signingKey =>
      -- its look at `revoked` fails
      some { s with
        calls := s.calls ++ [⟨s.opened, spiffeID, signingKey, .checked⟩]
        opened := s.opened + 1 }
  | .register stream =>
      s.inPhase stream .checked fun c =>
        { s.setPhase stream .registered with clients := s.clients.insert c.spiffeID c.client }
  | .compileInitial stream now =>
      s.inPhase stream .registered fun c =>
        match cfg.prepare s c.client now with
        | (db, some snap) => { s.setPhase stream (.compiled snap) with db }
        | (db, none) => { s.setPhase stream .pushed with db }
  | .sendInitial stream =>
      match s.call? stream with
      | some ⟨_, _, _, .compiled _⟩ => some (s.setPhase stream .pushed)
      | _ => none
  | .markOnline stream now nowISO =>
      s.inPhase stream .pushed fun c =>
        let s := s.setPhase stream .serving
        if c.connectorID ≠ "" then
          s.updateRow c.connectorID fun row =>
            { row with
              status := "online", installed := 1, lastSeen := now / nanosPerSec
              lastSeenAt := nowISO }
        else s
  | .heartbeat stream connectorID privateIP now =>
      s.inPhase stream .serving fun _ =>
        let registry := s.registry.recordHeartbeat connectorID privateIP now
        match registry.get connectorID with
        | some r => { s with registry }.saveConnectorToDB r
        | none => { s with registry }
  | .disconnect stream =>
      s.inPhase stream .serving fun c =>
        let s := { s with
          calls := s.calls.filter fun c => c.stream ≠ stream
          clients := s.clients.erase c.spiffeID }
        if c.connectorID ≠ "" then
          s.updateRow c.connectorID fun row => { row with status := "offline" }
        else s

def broadcastStep (s : State) : BroadcastEvent → Option State
  | .takeClients clients =>
      if clients.Perm (s.clients.entries.map Sigma.snd) then
        some { s with broadcasts := s.broadcasts ++ [⟨clients, none⟩] }
      else none
  | .compileNext b now =>
      match s.broadcasts[b]? with
      | some ⟨c :: rest, none⟩ =>
          match cfg.prepare s c now with
          | (db, some snap) =>
              some { s with db, broadcasts := s.broadcasts.set b ⟨c :: rest, some snap⟩ }
          | (db, none) => some { s with db, broadcasts := s.broadcasts.set b ⟨rest, none⟩ }
      | _ => none
  | .sendNext b =>
      match s.broadcasts[b]? with
      | some ⟨_ :: rest, some _⟩ =>
          some { s with broadcasts := s.broadcasts.set b ⟨rest, none⟩ }
      | _ => none

/-- `revoked` is kept beside what the requests do. -/
def requestStep (s : State) : Request → State
  | .revoke id =>
      { { s with registry := s.registry.delete id }.revokeConnectorInDB id with
        revoked := insert id s.revoked }
  | .grant id => { s.grantConnectorInDB id with revoked := s.revoked.erase id }
  | .uiDelete id =>
      -- Revoke (tombstone) so the running connector process cannot re-register via gRPC.
      { s.forgetConnector id with revoked := insert id s.revoked }
  | .adminDelete id => { s with registry := s.registry.delete id }.deleteConnectorFromDB id
  | .create id remoteNetworkId lastSeenAt workspaceId now =>
      match s.db.connectors.insert ⟨id, remoteNetworkId⟩ with
      | some connectors =>
          { s with
            db.connectors := connectors
            columns := fun q =>
              if q = id then
                { version := "1.0.0", lastSeen := now / nanosPerSec, lastSeenAt, workspaceId }
              else s.columns q }
      | none => s
  | .assignConnector networkId connectorId =>
      { s with db.remoteNetworkConnectors :=
        s.db.remoteNetworkConnectors.put ⟨networkId, connectorId⟩ }
  | .removeConnector networkId connectorId =>
      { s with db.remoteNetworkConnectors :=
        s.db.remoteNetworkConnectors.filter fun r => r ≠ ⟨networkId, connectorId⟩ }

def step (s : State) : Event → Option State
  | .stream e => streamStep cfg s e
  | .broadcast e => broadcastStep cfg s e
  | .request e => some (requestStep s e)

end Steps

/-! ## What a revocation is to prevent -/

inductive Output where
  /-- `Connect` goes on after its check. -/
  | accepted (connectorID : String)
  | policySnapshot (stream : Nat) (connectorID : String) (snap : PolicySnapshot)

def Output.connectorID : Output → String
  | .accepted connectorID => connectorID
  | .policySnapshot _ connectorID _ => connectorID

/-- What a step lets through and sends; on a stream that is closed sending fails. -/
def outputs (s : State) : Event → List Output
  | .stream (.connect spiffeID _) => [.accepted (parseConnectorID spiffeID)]
  | .stream (.sendInitial stream) =>
      match s.call? stream with
      | some ⟨_, spiffeID, _, .compiled snap⟩ =>
          [.policySnapshot stream (parseConnectorID spiffeID) snap]
      | _ => []
  | .broadcast (.sendNext b) =>
      match s.broadcasts[b]? with
      | some ⟨c :: _, some snap⟩ =>
          if (s.call? c.stream).isSome then [.policySnapshot c.stream c.connectorID snap] else []
      | _ => []
  | _ => []

/-- The connector's row is online or installed. -/
def Marked (s : State) (id : String) : Prop :=
  (s.db.connectors.get id).isSome ∧
    ((s.columns id).status = "online" ∨ (s.columns id).installed ≠ 0)

/-- The step respects the revocations: it neither accepts nor sends to a connector that is
revoked, and leaves no row of one online or installed. -/
def Effective (cfg : Settings) (s : State) (e : Event) : Prop :=
  (∀ o ∈ outputs s e, o.connectorID ∉ s.revoked) ∧
  ∀ s', step cfg s e = some s' → ∀ id ∈ s'.revoked, ¬ Marked s' id

/-- The connectors a step acts for. -/
def actsFor (s : State) : Event → List String
  | .stream (.connect spiffeID _) => [parseConnectorID spiffeID]
  | .stream (.sendInitial stream) =>
      match s.call? stream with
      | some ⟨_, spiffeID, _, .compiled _⟩ => [parseConnectorID spiffeID]
      | _ => []
  | .stream (.markOnline stream _ _) =>
      match s.call? stream with
      | some c =>
          if c.connectorID ≠ "" ∧ (s.db.connectors.get c.connectorID).isSome then [c.connectorID]
          else []
      | none => []
  | .stream (.heartbeat _ connectorID _ _) => [connectorID]
  | .broadcast (.sendNext b) =>
      match s.broadcasts[b]? with
      | some ⟨c :: _, some _⟩ => if (s.call? c.stream).isSome then [c.connectorID] else []
      | _ => []
  | _ => []

/-- The step acts for no connector that is revoked. -/
def Respects (s : State) (e : Event) : Prop := ∀ id ∈ actsFor s e, id ∉ s.revoked

/-! ## What the steps do to the rows -/

section Rows

variable {cfg : Settings} {s s' : State}

theorem inPhase_eq_some {stream : Nat} {phase : Phase} {f : Call → State}
    (h : s.inPhase stream phase f = some s') :
    ∃ c, s.call? stream = some c ∧ c.phase = phase ∧ s' = f c := by
  unfold State.inPhase at h
  split at h
  next c hcall =>
    rw [Option.ite_none_right_eq_some] at h
    exact ⟨c, hcall, h.1, (Option.some.inj h.2).symm⟩
  · cases h

theorem registry_saveConnectorToDB (s : State) (r : ConnectorRecord) :
    (s.saveConnectorToDB r).registry = s.registry := by
  unfold State.saveConnectorToDB
  simp only
  split <;> rfl

/-- `SaveConnectorToDB` writes one row. -/
theorem row_saveConnectorToDB {r : ConnectorRecord} {id : String} (h : id ≠ r.id) :
    (s.saveConnectorToDB r).db.connectors.get id = s.db.connectors.get id ∧
      (s.saveConnectorToDB r).columns id = s.columns id := by
  unfold State.saveConnectorToDB
  simp only
  split
  · exact ⟨rfl, if_neg fun hrow => h hrow.1⟩
  · exact ⟨by rw [Table.get_put, if_neg h], if_neg h⟩

/-- The state that `SaveConnectorToDB` finds, and the entry it saves. -/
theorem heartbeat_eq (s : State) (connectorID privateIP : String) (now : SystemTime) :
    ∃ (s₁ : State) (r : ConnectorRecord),
      s.heartbeat connectorID privateIP now = s₁.saveConnectorToDB r ∧ r.id = connectorID ∧
      s₁.db = s.db ∧ s₁.columns = s.columns ∧
      s₁.registry = s.registry.recordHeartbeat connectorID privateIP now := by
  let registry := s.registry.recordHeartbeat connectorID privateIP now
  let entry := s.registry.entry connectorID
  refine ⟨{ s with registry }, { entry with privateIP, lastSeen := now }, ?_,
    s.registry.id_entry connectorID, rfl, rfl, rfl⟩
  unfold State.heartbeat
  simp only [Registry.get_recordHeartbeat, if_true]
  rfl

theorem registry_heartbeat (s : State) (connectorID privateIP : String) (now : SystemTime)
    (id : String) :
    (s.heartbeat connectorID privateIP now).registry.get id =
      if id = connectorID then
        some { s.registry.entry connectorID with privateIP, lastSeen := now }
      else s.registry.get id := by
  obtain ⟨s₁, r, hsaved, -, -, -, hregistry⟩ := heartbeat_eq s connectorID privateIP now
  rw [hsaved, registry_saveConnectorToDB, hregistry, Registry.get_recordHeartbeat]

theorem marked_of_rows {id : String} (h : Marked s' id) (hdb : s'.db.connectors = s.db.connectors)
    (hcolumns : s'.columns = s.columns) : Marked s id := by
  unfold Marked at h ⊢
  rw [← hdb, ← hcolumns]
  exact h

/-- Compiling writes the policy version and no other table. -/
theorem prepare_connectors (cfg : Settings) (s : State) (c : ConnectorClient) (now : SystemTime) :
    (cfg.prepare s c now).1.connectors = s.db.connectors := by
  by_cases hskip : c.connectorID = "" ∨ c.signingKey = []
  · simp [Settings.prepare, PolicyPush.prepare, hskip]
  · obtain ⟨hid, hkey⟩ := not_or.mp hskip
    cases hnetwork : Controller.lookupConnectorNetwork s.db c.connectorID with
    | error e => simp [Settings.prepare, PolicyPush.prepare, hskip, hnetwork]
    | ok networkId =>
        rw [Settings.prepare, PolicyPush.prepare_eq now hid hkey hnetwork]
        rfl

theorem marked_updateRow {id q : String} {f : ConnectorColumns → ConnectorColumns} :
    Marked (s.updateRow id f) q ↔
      if q = id then (s.db.connectors.get id).isSome ∧
        ((f (s.columns id)).status = "online" ∨ (f (s.columns id)).installed ≠ 0)
      else Marked s q := by
  unfold Marked State.updateRow
  by_cases hq : q = id
  · subst hq
    cases hrow : s.db.connectors.get q with
    | none => simp
    | some row => simp
  · simp [hq]

/-- A heartbeat's row is online. -/
theorem marked_saveConnectorToDB {r : ConnectorRecord} {q : String} :
    Marked (s.saveConnectorToDB r) q ↔ q = r.id ∨ Marked s q := by
  unfold State.saveConnectorToDB
  simp only
  split
  next row hrow =>
    rw [marked_updateRow, hrow]
    by_cases hq : q = r.id <;> simp [hq]
  next hrow =>
    unfold Marked
    by_cases hq : q = r.id
    · simp [hq, Table.get_put]
    · simp [hq, Table.get_put]

/-- A revoked row is neither online nor installed. -/
theorem marked_revokeConnectorInDB {id q : String} :
    Marked (s.revokeConnectorInDB id) q ↔ q ≠ id ∧ Marked s q := by
  show Marked
    (s.updateRow id fun c => { c with revoked := 1, status := "offline", installed := 0 }) q ↔ _
  rw [marked_updateRow]
  by_cases hq : q = id <;> simp [hq]

/-- An update that at most takes a row offline. -/
theorem marked_of_updateRow {id q : String} {f : ConnectorColumns → ConnectorColumns}
    (h : Marked (s.updateRow id f) q) (hstatus : ∀ c, (f c).status = "offline")
    (hinstalled : ∀ c, (f c).installed = c.installed) : Marked s q := by
  rw [marked_updateRow] at h
  split at h
  next hq =>
    subst hq
    obtain ⟨hrow, hmarked⟩ := h
    rw [hstatus, hinstalled] at hmarked
    exact ⟨hrow, Or.inr (hmarked.resolve_left (by decide))⟩
  · exact h

/-- A stream's step marks only the rows of connectors it acts for. -/
theorem marked_stream {e : StreamEvent} (h : streamStep cfg s e = some s') :
    s'.revoked = s.revoked ∧
      ∀ q, Marked s' q → q ∈ actsFor s (.stream e) ∨ Marked s q := by
  cases e with
  | connect spiffeID signingKey =>
      cases h
      exact ⟨rfl, fun q hq => Or.inr hq⟩
  | register stream =>
      obtain ⟨c, -, -, rfl⟩ := inPhase_eq_some h
      exact ⟨rfl, fun q hq => Or.inr hq⟩
  | compileInitial stream now =>
      obtain ⟨c, -, -, rfl⟩ := inPhase_eq_some h
      have hdb := prepare_connectors cfg s c.client now
      split
      next db snap hprepare =>
        rw [hprepare] at hdb
        exact ⟨rfl, fun q hq => Or.inr (marked_of_rows hq hdb rfl)⟩
      next db hprepare =>
        rw [hprepare] at hdb
        exact ⟨rfl, fun q hq => Or.inr (marked_of_rows hq hdb rfl)⟩
  | sendInitial stream =>
      simp only [streamStep] at h
      split at h
      · cases h
        exact ⟨rfl, fun q hq => Or.inr hq⟩
      · cases h
  | markOnline stream now nowISO =>
      obtain ⟨c, hcall, -, rfl⟩ := inPhase_eq_some h
      simp only
      split
      next hid =>
        refine ⟨rfl, ?_⟩
        intro q hq
        rw [marked_updateRow] at hq
        split at hq
        next hqc =>
          have hrow : (s.db.connectors.get c.connectorID).isSome := hq.1
          refine Or.inl ?_
          simp only [actsFor, hcall, if_pos (And.intro hid hrow)]
          exact List.mem_singleton.mpr hqc
        · exact Or.inr hq
      · exact ⟨rfl, fun q hq => Or.inr hq⟩
  | heartbeat stream connectorID privateIP now =>
      obtain ⟨c, -, -, rfl⟩ := inPhase_eq_some h
      simp only
      split
      next r hget =>
        have hid : r.id = connectorID := (Table.mem_of_get hget).2
        refine ⟨?_, fun q hq => ?_⟩
        · unfold State.saveConnectorToDB
          simp only
          split <;> rfl
        · rcases marked_saveConnectorToDB.mp hq with rfl | hq
          · exact Or.inl (List.mem_singleton.mpr hid)
          · exact Or.inr hq
      · exact ⟨rfl, fun q hq => Or.inr hq⟩
  | disconnect stream =>
      obtain ⟨c, -, -, rfl⟩ := inPhase_eq_some h
      simp only
      split
      · refine ⟨rfl, fun q hq => Or.inr ?_⟩
        exact marked_of_rows (marked_of_updateRow hq (fun _ => rfl) (fun _ => rfl)) rfl rfl
      · exact ⟨rfl, fun q hq => Or.inr hq⟩

theorem marked_broadcast {e : BroadcastEvent} (h : broadcastStep cfg s e = some s') :
    s'.revoked = s.revoked ∧ ∀ q, Marked s' q → Marked s q := by
  cases e with
  | takeClients clients =>
      simp only [broadcastStep, Option.ite_none_right_eq_some] at h
      obtain ⟨-, h⟩ := h
      cases h
      exact ⟨rfl, fun q hq => hq⟩
  | compileNext b now =>
      simp only [broadcastStep] at h
      split at h
      next c rest hb =>
        have hdb := prepare_connectors cfg s c now
        split at h
        next db snap hprepare =>
          cases h
          rw [hprepare] at hdb
          exact ⟨rfl, fun q hq => marked_of_rows hq hdb rfl⟩
        next db hprepare =>
          cases h
          rw [hprepare] at hdb
          exact ⟨rfl, fun q hq => marked_of_rows hq hdb rfl⟩
      · cases h
  | sendNext b =>
      simp only [broadcastStep] at h
      split at h
      · cases h
        exact ⟨rfl, fun q hq => hq⟩
      · cases h

/-- No request marks the row of a connector that is revoked after it. -/
theorem marked_request {e : Request} {q : String} (hrevoked : q ∈ (requestStep s e).revoked)
    (h : Marked (requestStep s e) q) : q ∈ s.revoked ∧ Marked s q := by
  cases e with
  | revoke id =>
      obtain ⟨hq, h⟩ := marked_revokeConnectorInDB.mp h
      exact ⟨Finset.mem_of_mem_insert_of_ne hrevoked hq, h⟩
  | grant id =>
      have h' : Marked (s.grantConnectorInDB id) q := marked_of_rows h rfl rfl
      exact ⟨Finset.mem_of_mem_erase hrevoked,
        marked_of_updateRow h' (fun _ => rfl) (fun _ => rfl)⟩
  | uiDelete id =>
      have h' : Marked (s.forgetConnector id) q := marked_of_rows h rfl rfl
      obtain ⟨hq, h'⟩ := marked_revokeConnectorInDB.mp
        (marked_of_updateRow h' (fun _ => rfl) (fun _ => rfl))
      exact ⟨Finset.mem_of_mem_insert_of_ne hrevoked hq, h'⟩
  | adminDelete id =>
      refine ⟨hrevoked, ?_, h.2⟩
      have hrow := h.1
      simp only [requestStep, State.deleteConnectorFromDB, Table.get_filter_ne] at hrow
      split at hrow
      · cases hrow
      · exact hrow
  | create id remoteNetworkId lastSeenAt workspaceId now =>
      simp only [requestStep] at hrevoked h
      split at h
      next connectors hinsert =>
        obtain ⟨-, rfl⟩ := Table.insert_eq_some hinsert
        simp only [hinsert] at hrevoked
        refine ⟨hrevoked, ?_⟩
        by_cases hq : q = id
        · simp [Marked, hq] at h
        · simpa [Marked, hq, Table.get_put] using h
      next hinsert =>
        simp only [hinsert] at hrevoked
        exact ⟨hrevoked, h⟩
  | assignConnector networkId connectorId => exact ⟨hrevoked, h⟩
  | removeConnector networkId connectorId => exact ⟨hrevoked, h⟩

/-- After a step, a revoked connector's row is marked only if the step acted for it or it
was marked before. -/
theorem marked_step {e : Event} {q : String} (h : step cfg s e = some s')
    (hrevoked : q ∈ s'.revoked) (hmarked : Marked s' q) :
    q ∈ s.revoked ∧ (q ∈ actsFor s e ∨ Marked s q) := by
  cases e with
  | stream e =>
      obtain ⟨hsame, hrows⟩ := marked_stream h
      exact ⟨hsame ▸ hrevoked, hrows q hmarked⟩
  | broadcast e =>
      obtain ⟨hsame, hrows⟩ := marked_broadcast h
      exact ⟨hsame ▸ hrevoked, Or.inr (hrows q hmarked)⟩
  | request e =>
      cases h
      obtain ⟨hq, hm⟩ := marked_request hrevoked hmarked
      exact ⟨hq, Or.inr hm⟩

theorem outputs_actsFor {e : Event} {o : Output} (ho : o ∈ outputs s e) :
    o.connectorID ∈ actsFor s e := by
  unfold outputs at ho
  split at ho
  next spiffeID key =>
    obtain rfl := List.mem_singleton.mp ho
    exact List.mem_singleton.mpr rfl
  next stream =>
    simp only [actsFor]
    split at ho
    next hcall =>
      obtain rfl := List.mem_singleton.mp ho
      exact List.mem_singleton.mpr rfl
    · cases ho
  next b =>
    simp only [actsFor]
    split at ho
    next c rest snap hb =>
      split at ho
      next hopen =>
        obtain rfl := List.mem_singleton.mp ho
        rw [if_pos hopen]
        exact List.mem_singleton.mpr rfl
      · cases ho
    · cases ho
  · cases ho

/-- Acting for a connector shows: something is accepted or sent, or its row is marked. -/
theorem actsFor_shows {e : Event} {q : String} (h : step cfg s e = some s')
    (hq : q ∈ actsFor s e) :
    s'.revoked = s.revoked ∧ ((∃ o ∈ outputs s e, o.connectorID = q) ∨ Marked s' q) := by
  have hstream : ∀ {e}, step cfg s (.stream e) = some s' → s'.revoked = s.revoked :=
    fun h => (marked_stream h).1
  have hbroadcast : ∀ {e}, step cfg s (.broadcast e) = some s' → s'.revoked = s.revoked :=
    fun h => (marked_broadcast h).1
  unfold actsFor at hq
  split at hq
  next spiffeID key =>
    refine ⟨hstream h, Or.inl ⟨_, List.mem_singleton.mpr rfl, ?_⟩⟩
    exact (List.mem_singleton.mp hq).symm
  next stream =>
    refine ⟨hstream h, Or.inl ?_⟩
    simp only [outputs]
    split at hq
    next snap hcall =>
      exact ⟨_, List.mem_singleton.mpr rfl, (List.mem_singleton.mp hq).symm⟩
    · cases hq
  next stream now nowISO =>
    refine ⟨hstream h, Or.inr ?_⟩
    obtain ⟨c, hcall, -, rfl⟩ := inPhase_eq_some h
    simp only [hcall] at hq
    split at hq
    next hrow =>
      obtain rfl := List.mem_singleton.mp hq
      simp only [if_pos hrow.1]
      rw [marked_updateRow, if_pos rfl]
      exact ⟨hrow.2, Or.inl rfl⟩
    · cases hq
  next stream connectorID privateIP now =>
    refine ⟨hstream h, Or.inr ?_⟩
    obtain ⟨c, -, -, rfl⟩ := inPhase_eq_some h
    obtain rfl := List.mem_singleton.mp hq
    simp only [Registry.get_recordHeartbeat, if_true]
    exact marked_saveConnectorToDB.mpr (Or.inl (s.registry.id_entry q).symm)
  next b =>
    refine ⟨hbroadcast h, Or.inl ?_⟩
    simp only [outputs]
    split at hq
    next c rest snap hb =>
      split at hq
      next hopen =>
        rw [if_pos hopen]
        exact ⟨_, List.mem_singleton.mpr rfl, (List.mem_singleton.mp hq).symm⟩
      · cases hq
    · cases hq
  · cases hq

theorem effective_iff {e : Event} (hrows : ∀ id ∈ s.revoked, ¬ Marked s id)
    (h : step cfg s e = some s') : Effective cfg s e ↔ Respects s e := by
  constructor
  · rintro ⟨houtputs, hmarked⟩ q hq hrevoked
    obtain ⟨hsame, ⟨o, ho, rfl⟩ | hm⟩ := actsFor_shows h hq
    · exact houtputs o ho hrevoked
    · exact hmarked s' h q (hsame ▸ hrevoked) hm
  · intro hrespects
    refine ⟨fun o ho => hrespects _ (outputs_actsFor ho), ?_⟩
    intro t ht q hq hm
    obtain ⟨hrevoked, hacts | hm⟩ := marked_step ht hq hm
    · exact hrespects q hacts hrevoked
    · exact hrows q hrevoked hm

end Rows

/-! ## Runs -/

/-- In a run from a controller without streams every step respects the revocations iff none
acts for a connector that is revoked. -/
theorem effective_iff_respects (cfg : Settings) (db : Database)
    (columns : String → ConnectorColumns) (registry : Registry) (events : List Event) (s : State)
    (hrun : run (step cfg) (.start db columns registry) events = some s) :
    Meets (step cfg) (Effective cfg) (.start db columns registry) events ↔
    Meets (step cfg) Respects (.start db columns registry) events := by
  have hstart : ∀ id ∈ (State.start db columns registry).revoked,
      ¬ Marked (.start db columns registry) id :=
    fun id hid => absurd hid (Finset.notMem_empty id)
  constructor
  · refine meets_imp_of_inv (motive := fun s => ∀ id ∈ s.revoked, ¬ Marked s id) ?_ ?_ hstart hrun
    · intro s e s' _ heffective hstep
      exact heffective.2 s' hstep
    · intro s e s' hrows hstep
      exact (effective_iff hrows hstep).mp
  · refine meets_imp_of_inv (motive := fun s => ∀ id ∈ s.revoked, ¬ Marked s id) ?_ ?_ hstart hrun
    · intro s e s' hrows hrespects hstep
      exact ((effective_iff hrows hstep).mpr hrespects).2 s' hstep
    · intro s e s' hrows hstep
      exact (effective_iff hrows hstep).mpr

/-! ## Quiet runs -/

/-- Nothing of the connector runs: it has no stream, and no broadcast comes to it. -/
structure Idle (s : State) (id : String) : Prop where
  calls : ∀ c ∈ s.calls, c.connectorID ≠ id
  clients : ∀ k c, s.clients.lookup k = some c → c.connectorID ≠ id
  broadcasts : ∀ b ∈ s.broadcasts, ∀ c ∈ b.queue, c.connectorID ≠ id

/-- A connector is revoked only while nothing of it runs; it stays away while it is revoked,
and no heartbeat names it. -/
def Quiet (s : State) : Event → Prop
  | .stream (.connect spiffeID _) => parseConnectorID spiffeID ∉ s.revoked
  | .stream (.heartbeat _ connectorID _ _) => connectorID ∉ s.revoked
  | .request (.revoke id) => Idle s id
  | .request (.uiDelete id) => Idle s id
  | _ => True

section Quiet

variable {cfg : Settings} {s s' : State} {id : String}

theorem call_mem {stream : Nat} {c : Call} (h : s.call? stream = some c) : c ∈ s.calls :=
  List.mem_of_find?_eq_some h

theorem idle_of_same (h : Idle s id) (hcalls : s'.calls = s.calls)
    (hclients : s'.clients = s.clients) (hbroadcasts : s'.broadcasts = s.broadcasts) :
    Idle s' id where
  calls := hcalls ▸ h.calls
  clients := hclients ▸ h.clients
  broadcasts := hbroadcasts ▸ h.broadcasts

theorem setPhase_calls (h : Idle s id) (stream : Nat) (phase : Phase) :
    ∀ c ∈ (s.setPhase stream phase).calls, c.connectorID ≠ id := by
  intro c hc
  obtain ⟨c', hc', rfl⟩ := List.mem_map.mp hc
  have hid := h.calls c' hc'
  split <;> exact hid

theorem idle_setPhase (h : Idle s id) (stream : Nat) (phase : Phase) :
    Idle (s.setPhase stream phase) id :=
  ⟨setPhase_calls h stream phase, h.clients, h.broadcasts⟩

theorem idle_stream {e : StreamEvent} (h : Idle s id)
    (hconnect : ∀ spiffeID key, e = .connect spiffeID key → parseConnectorID spiffeID ≠ id)
    (hstep : streamStep cfg s e = some s') : Idle s' id := by
  cases e with
  | connect spiffeID key =>
      cases hstep
      refine ⟨fun c hc => ?_, h.clients, h.broadcasts⟩
      rcases List.mem_append.mp hc with hc | hc
      · exact h.calls c hc
      · obtain rfl := List.mem_singleton.mp hc
        exact hconnect spiffeID key rfl
  | register stream =>
      obtain ⟨c, hcall, -, rfl⟩ := inPhase_eq_some hstep
      refine ⟨setPhase_calls h stream _, fun k cl hcl => ?_, h.broadcasts⟩
      change (s.clients.insert c.spiffeID c.client).lookup k = some cl at hcl
      rcases lookup_insert_eq_some.mp hcl with ⟨-, rfl⟩ | ⟨-, hold⟩
      · exact h.calls c (call_mem hcall)
      · exact h.clients k cl hold
  | compileInitial stream now =>
      obtain ⟨c, -, -, rfl⟩ := inPhase_eq_some hstep
      split
      · exact idle_of_same (idle_setPhase h stream _) rfl rfl rfl
      · exact idle_of_same (idle_setPhase h stream _) rfl rfl rfl
  | sendInitial stream =>
      simp only [streamStep] at hstep
      split at hstep
      · cases hstep
        exact idle_setPhase h stream _
      · cases hstep
  | markOnline stream now nowISO =>
      obtain ⟨c, -, -, rfl⟩ := inPhase_eq_some hstep
      simp only
      split
      · exact idle_of_same (idle_setPhase h stream .serving) rfl rfl rfl
      · exact idle_setPhase h stream .serving
  | heartbeat stream connectorID privateIP now =>
      obtain ⟨c, -, -, rfl⟩ := inPhase_eq_some hstep
      simp only
      split
      · unfold State.saveConnectorToDB
        simp only
        split
        · exact idle_of_same h rfl rfl rfl
        · exact idle_of_same h rfl rfl rfl
      · exact idle_of_same h rfl rfl rfl
  | disconnect stream =>
      obtain ⟨c, -, -, rfl⟩ := inPhase_eq_some hstep
      have hidle : Idle { s with
          calls := s.calls.filter fun c => c.stream ≠ stream
          clients := s.clients.erase c.spiffeID } id := by
        refine ⟨fun c' hc' => h.calls c' (List.mem_of_mem_filter hc'), fun k cl hcl => ?_,
          h.broadcasts⟩
        change (s.clients.erase c.spiffeID).lookup k = some cl at hcl
        exact h.clients k cl (lookup_erase_eq_some.mp hcl).2
      simp only
      split
      · exact idle_of_same hidle rfl rfl rfl
      · exact hidle

theorem idle_broadcast {e : BroadcastEvent} (h : Idle s id)
    (hstep : broadcastStep cfg s e = some s') : Idle s' id := by
  -- a queue only gets shorter
  have hset : ∀ {b : Nat} {queue queue' : List ConnectorClient} {compiled compiled'},
      s.broadcasts[b]? = some ⟨queue, compiled⟩ → queue' ⊆ queue →
      ∀ b' ∈ s.broadcasts.set b ⟨queue', compiled'⟩, ∀ c ∈ b'.queue, c.connectorID ≠ id := by
    intro b queue queue' compiled compiled' hb hsub b' hb' c hc
    rcases List.mem_or_eq_of_mem_set hb' with hb' | rfl
    · exact h.broadcasts b' hb' c hc
    · exact h.broadcasts _ (List.mem_of_getElem? hb) c (hsub hc)
  cases e with
  | takeClients clients =>
      simp only [broadcastStep, Option.ite_none_right_eq_some] at hstep
      obtain ⟨hperm, hstep⟩ := hstep
      cases hstep
      refine ⟨h.calls, h.clients, ?_⟩
      intro b hb c hc
      rcases List.mem_append.mp hb with hb | hb
      · exact h.broadcasts b hb c hc
      · obtain rfl := List.mem_singleton.mp hb
        obtain ⟨entry, hentry, rfl⟩ := List.mem_map.mp (hperm.mem_iff.mp hc)
        exact h.clients entry.1 entry.2 (AList.mem_lookup_iff.mpr hentry)
  | compileNext b now =>
      simp only [broadcastStep] at hstep
      split at hstep
      next c rest hb =>
        split at hstep
        · cases hstep
          exact ⟨h.calls, h.clients, hset hb (List.Subset.refl _)⟩
        · cases hstep
          exact ⟨h.calls, h.clients, hset hb (List.subset_cons_self _ _)⟩
      · cases hstep
  | sendNext b =>
      simp only [broadcastStep] at hstep
      split at hstep
      next c rest snap hb =>
        cases hstep
        exact ⟨h.calls, h.clients, hset hb (List.subset_cons_self _ _)⟩
      · cases hstep

theorem idle_request (h : Idle s id) (e : Request) : Idle (requestStep s e) id := by
  cases e with
  | create id' remoteNetworkId lastSeenAt workspaceId now =>
      simp only [requestStep]
      split
      · exact idle_of_same h rfl rfl rfl
      · exact h
  | revoke id' => exact idle_of_same h rfl rfl rfl
  | grant id' => exact idle_of_same h rfl rfl rfl
  | uiDelete id' => exact idle_of_same h rfl rfl rfl
  | adminDelete id' => exact idle_of_same h rfl rfl rfl
  | assignConnector networkId connectorId => exact idle_of_same h rfl rfl rfl
  | removeConnector networkId connectorId => exact idle_of_same h rfl rfl rfl

/-- Only a revocation and a deletion in the UI revoke. -/
theorem revoked_request {e : Request} (h : id ∈ (requestStep s e).revoked) :
    id ∈ s.revoked ∨ e = .revoke id ∨ e = .uiDelete id := by
  cases e with
  | create id' remoteNetworkId lastSeenAt workspaceId now =>
      simp only [requestStep] at h
      split at h
      · exact Or.inl h
      · exact Or.inl h
  | revoke id' =>
      rcases Finset.mem_insert.mp h with rfl | h
      · exact Or.inr (Or.inl rfl)
      · exact Or.inl h
  | uiDelete id' =>
      rcases Finset.mem_insert.mp h with rfl | h
      · exact Or.inr (Or.inr rfl)
      · exact Or.inl h
  | grant id' => exact Or.inl (Finset.mem_of_mem_erase h)
  | adminDelete id' => exact Or.inl h
  | assignConnector networkId connectorId => exact Or.inl h
  | removeConnector networkId connectorId => exact Or.inl h

/-- Along a quiet run nothing of a revoked connector runs. -/
theorem idle_step {e : Event} (hidle : ∀ id ∈ s.revoked, Idle s id) (hquiet : Quiet s e)
    (hstep : step cfg s e = some s') : ∀ id ∈ s'.revoked, Idle s' id := by
  intro id hid
  cases e with
  | stream e =>
      rw [(marked_stream hstep).1] at hid
      refine idle_stream (hidle id hid) ?_ hstep
      rintro spiffeID key rfl heq
      exact hquiet (heq ▸ hid)
  | broadcast e =>
      rw [(marked_broadcast hstep).1] at hid
      exact idle_broadcast (hidle id hid) hstep
  | request e =>
      cases hstep
      rcases revoked_request hid with hid | rfl | rfl
      · exact idle_request (hidle id hid) e
      · exact idle_request hquiet _
      · exact idle_request hquiet _

theorem respects_of_quiet {e : Event} (hidle : ∀ id ∈ s.revoked, Idle s id) (hquiet : Quiet s e) :
    Respects s e := by
  intro id hid hrevoked
  unfold actsFor at hid
  split at hid
  · exact hquiet (List.mem_singleton.mp hid ▸ hrevoked)
  · split at hid
    next hcall =>
      exact (hidle id hrevoked).calls _ (call_mem hcall) (List.mem_singleton.mp hid).symm
    · cases hid
  · split at hid
    next c hcall =>
      split at hid
      · exact (hidle id hrevoked).calls _ (call_mem hcall) (List.mem_singleton.mp hid).symm
      · cases hid
    · cases hid
  · exact hquiet (List.mem_singleton.mp hid ▸ hrevoked)
  · split at hid
    next c rest snap hb =>
      split at hid
      · exact (hidle id hrevoked).broadcasts _ (List.mem_of_getElem? hb) c List.mem_cons_self
          (List.mem_singleton.mp hid).symm
      · cases hid
    · cases hid
  · cases hid

end Quiet

/-- In a run in which connectors are revoked only while nothing of theirs runs, and stay
away until they are granted, every step respects the revocations. -/
theorem effective_of_quiet (cfg : Settings) (db : Database)
    (columns : String → ConnectorColumns) (registry : Registry) {events : List Event} {s : State}
    (hrun : run (step cfg) (.start db columns registry) events = some s)
    (hquiet : Meets (step cfg) Quiet (.start db columns registry) events) :
    Meets (step cfg) (Effective cfg) (.start db columns registry) events := by
  refine meets_imp_of_inv
    (motive := fun s => (∀ id ∈ s.revoked, Idle s id) ∧ ∀ id ∈ s.revoked, ¬ Marked s id)
    ?_ ?_ ?_ hrun hquiet
  · rintro s e s' ⟨hidle, hrows⟩ hquiet hstep
    refine ⟨idle_step hidle hquiet hstep, ?_⟩
    exact ((effective_iff hrows hstep).mpr (respects_of_quiet hidle hquiet)).2 s' hstep
  · rintro s e s' ⟨hidle, hrows⟩ hstep hquiet
    exact (effective_iff hrows hstep).mpr (respects_of_quiet hidle hquiet)
  · exact ⟨fun id hid => absurd hid (Finset.notMem_empty id),
      fun id hid => absurd hid (Finset.notMem_empty id)⟩

/-- **Revocation theorem, for connectors.**  Take any run from a controller without streams.
If connectors are revoked only while nothing of theirs runs, and then stay away, named by no
heartbeat, until they are granted, then every step respects the revocations.  And in any case
every step does iff none acts for a connector that is revoked. -/
theorem connector_revocation (cfg : Settings) (db : Database)
    (columns : String → ConnectorColumns) (registry : Registry) (events : List Event) (s : State)
    (hrun : run (step cfg) (.start db columns registry) events = some s) :
    (Meets (step cfg) Quiet (.start db columns registry) events →
      Meets (step cfg) (Effective cfg) (.start db columns registry) events) ∧
    (Meets (step cfg) (Effective cfg) (.start db columns registry) events ↔
      Meets (step cfg) Respects (.start db columns registry) events) :=
  ⟨effective_of_quiet cfg db columns registry hrun,
    effective_iff_respects cfg db columns registry events s hrun⟩

def exampleSettings : Settings := ⟨ampersandController, 600 * nanosPerSec⟩

def exampleStart : State := .start ampersandDatabase (fun _ => {}) ∅

def connect : Event := .stream (.connect "spiffe://zt/connector/con_1" [107])

/-- The connector is granted again before it connects. -/
theorem granted_connector_respected :
    Meets (step exampleSettings) (Effective exampleSettings) exampleStart
      [.request (.revoke "con_1"), .request (.grant "con_1"), connect] := by
  refine (connector_revocation exampleSettings ampersandDatabase (fun _ => {}) ∅ _ _ rfl).1 ?_
  refine meets_cons ?_ rfl (meets_cons trivial rfl (meets_cons ?_ rfl trivial))
  · refine ⟨fun c hc => ?_, fun k c hc => ?_, fun b hb => ?_⟩
    · cases hc
    · cases hc
    · cases hb
  · show "con_1" ∉ _
    decide

/-- The connector has connected; then it is revoked, and some policy changes. -/
def revokedWhileConnected : List Event :=
  [connect, .stream (.register 0), .stream (.compileInitial 0 0), .stream (.sendInitial 0),
    .stream (.markOnline 0 0 "1970-01-01T00:00:00.000Z"), .request (.revoke "con_1"),
    .broadcast (.takeClients [⟨0, "con_1", [107]⟩]), .broadcast (.compileNext 0 0)]

/-- A snapshot is sent on its stream; and a `Connect` after the revocation is accepted. -/
theorem revoked_connector_served :
    (∃ s s', run (step exampleSettings) exampleStart revokedWhileConnected = some s ∧
      "con_1" ∈ s.revoked ∧ step exampleSettings s (.broadcast (.sendNext 0)) = some s' ∧
      ∃ snap, .policySnapshot 0 "con_1" snap ∈ outputs s (.broadcast (.sendNext 0))) ∧
    ¬ Meets (step exampleSettings) (Effective exampleSettings) exampleStart
      (revokedWhileConnected ++ [.broadcast (.sendNext 0)]) ∧
    ¬ Meets (step exampleSettings) (Effective exampleSettings) exampleStart
      [.request (.revoke "con_1"), connect] := by
  have hsent : ∃ s s', run (step exampleSettings) exampleStart revokedWhileConnected = some s ∧
      "con_1" ∈ s.revoked ∧ step exampleSettings s (.broadcast (.sendNext 0)) = some s' ∧
      ∃ snap, .policySnapshot 0 "con_1" snap ∈ outputs s (.broadcast (.sendNext 0)) :=
    ⟨_, _, rfl, Finset.mem_insert_self _ _, rfl, _, List.mem_singleton.mpr rfl⟩
  refine ⟨hsent, fun hmeets => ?_, fun hmeets => ?_⟩
  · obtain ⟨s, s', hrun, hrevoked, -, snap, hmem⟩ := hsent
    have heffective := ((meets_append.mp hmeets).2 s hrun).1
    exact heffective.1 _ hmem hrevoked
  · exact (hmeets.2 _ rfl).1.1 _ (List.mem_singleton.mpr rfl) (Finset.mem_insert_self _ _)

end ZeroTrust.ControlPlane.Revocation
