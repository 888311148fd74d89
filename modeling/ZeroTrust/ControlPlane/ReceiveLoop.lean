/-
# `ZeroTrust.ControlPlane.ReceiveLoop` — what a connector's stream can change

The loop of `Connect` over the messages of a stream.  The stream is authenticated as a
connector, but nothing in the loop looks at which: each type of message says for itself
whom it is about.

    ping              nobody
    heartbeat         the `connector_id` of the message: its registry entry, its row,
                      and the `connector_id` of the agents in the payload
    agent_heartbeat   the `connector_id` in the payload
    acl_decision      the workspace of the `connector_id` of the message, which the
                      connector leaves empty (`send_decision`)
    agent_log         an agent, in a log without connectors
    scan_report       the job of the `request_id` in the payload, whoever was to run it

So a message stays with the stream's connector iff what it says is true
(`stream_attributed_iff`).
-/
import ZeroTrust.Controller.Durability
import ZeroTrust.ControlPlane.Revocation

namespace ZeroTrust.ControlPlane.ReceiveLoop

open Lib
open Controller.Durability (AgentStatus AgentHeartbeat)
open Revocation (ConnectorRecord ConnectorColumns)

/-! ## Messages -/

structure ControlMessage where
  type : String
  payload : ByteArray := .empty
  connectorId : String := ""
  privateIp : String := ""
  status : String := ""

structure Decision where
  principalSPIFFE : String
  agentID : String
  resourceID : String
  destination : String
  protocol : String
  port : UInt16
  decision : String
  reason : String
  connectionID : String

structure AgentLog where
  agentID : String
  message : String

structure DiscoveredResource where
  id : String
  ip : String
  port : UInt16
  protocol : String
  serviceName : String
  reachableFrom : String
  firstSeen : Int64

structure ScanReport where
  requestID : String
  results : List DiscoveredResource
  error : Option String

/-- `json.Unmarshal` into each of the loop's types; `none` is an error. -/
structure Unmarshal where
  agents : ByteArray → Option (List AgentStatus)
  agentHeartbeat : ByteArray → Option AgentHeartbeat
  decision : ByteArray → Option Decision
  agentLog : ByteArray → Option AgentLog
  scanReport : ByteArray → Option ScanReport

/-! ## What the loop writes to -/

inductive ScanStatus where
  | pending
  | inProgress
  | completed
  | failed

structure ScanJob where
  requestID : String
  connectorID : String
  status : ScanStatus
  targets : List String
  ports : List UInt16
  startedAt : SystemTime
  completedAt : Option SystemTime
  results : List DiscoveredResource
  error : String

abbrev ScanStore := Table ScanJob.requestID

namespace ScanStore

def complete (s : ScanStore) (requestID : String) (results : List DiscoveredResource)
    (now : SystemTime) : ScanStore :=
  match s.get requestID with
  | some job => s.put { job with status := .completed, completedAt := some now, results }
  | none => s

def fail (s : ScanStore) (requestID errMsg : String) (now : SystemTime) : ScanStore :=
  match s.get requestID with
  | some job => s.put { job with status := .failed, completedAt := some now, error := errMsg }
  | none => s

theorem get_amended (s : ScanStore) (requestID : String) {f : ScanJob → ScanJob}
    (hf : ∀ job, (f job).requestID = job.requestID) (q : String) :
    Table.get (match s.get requestID with
      | some job => s.put (f job)
      | none => s) q = if q = requestID then (s.get q).map f else s.get q := by
  cases hget : s.get requestID with
  | none =>
      show s.get q = _
      split
      next hq => rw [hq, hget, Option.map_none]
      · rfl
  | some job =>
      show (s.put (f job)).get q = _
      rw [Table.get_put, hf, (Table.mem_of_get hget).2]
      split
      next hq => rw [hq, hget, Option.map_some]
      · rfl

end ScanStore

structure AuditLogRow where
  principalSpiffe : String
  tunnelerId : String
  resourceId : String
  destination : String
  protocol : String
  port : UInt16
  decision : String
  reason : String
  connectionId : String
  createdAt : Int
  workspaceId : String

structure TunnelerLogRow where
  tunnelerId : String
  timestamp : String
  message : String

structure State where
  /-- The registry of the connectors and their rows. -/
  control : Revocation.State
  /-- The agents' registries and rows. -/
  agents : Controller.Durability.State
  scanStore : ScanStore
  auditLogs : List AuditLogRow
  tunnelerLogs : List TunnelerLogRow

namespace State

/-- The connector's row, with all its columns. -/
def connectorRow (s : State) (id : String) : Option (Controller.ConnectorRow × ConnectorColumns) :=
  (s.control.db.connectors.get id).map fun row => (row, s.control.columns id)

/-- The workspace that the registry has for a connector. -/
def workspaceOf (s : State) (connectorID : String) : String :=
  ((s.control.registry.get connectorID).map ConnectorRecord.workspaceID).getD ""

end State

/-! ## The loop -/

section Loop

variable (unmarshal : Unmarshal) (msg : ControlMessage) (now : SystemTime) (s : State)

def heartbeat : State :=
  -- Connector embeds agent statuses in the heartbeat payload.
  let agents := if msg.payload.size > 0 then (unmarshal.agents msg.payload).getD [] else []
  { s with
    control := s.control.heartbeat msg.connectorId msg.privateIp now
    agents := agents.foldl (fun st a => st.report a.agentId "" msg.connectorId now) s.agents }

def agentHeartbeat : State :=
  match unmarshal.agentHeartbeat msg.payload with
  | some p => { s with agents := s.agents.report p.agentId p.spiffeId p.connectorId now }
  | none => s

/-- The `INSERT` as executed.  Its error is dropped: one that fails leaves no row, and nothing
else is different. -/
def aclDecision : State :=
  match unmarshal.decision msg.payload with
  | some p =>
      { s with
        auditLogs := s.auditLogs ++ [{
          principalSpiffe := p.principalSPIFFE
          tunnelerId := p.agentID
          resourceId := p.resourceID
          destination := p.destination
          protocol := p.protocol
          port := p.port
          decision := p.decision
          reason := p.reason
          connectionId := p.connectionID
          createdAt := now / nanosPerSec
          workspaceId := s.workspaceOf msg.connectorId }] }
  | none => s

/-- `nowISO` is the time as text. -/
def agentLog (nowISO : String) : State :=
  match unmarshal.agentLog msg.payload with
  | some p =>
      if trim p.agentID ≠ "" ∧ trim p.message ≠ "" then
        { s with tunnelerLogs := s.tunnelerLogs ++ [⟨p.agentID, nowISO, p.message⟩] }
      else s
  | none => s

def scanReport : State :=
  match unmarshal.scanReport msg.payload with
  | some ⟨requestID, results, error⟩ =>
      { s with
        scanStore := match error with
          | some e =>
              if e ≠ "" then s.scanStore.fail requestID e now
              else s.scanStore.complete requestID results now
          | none => s.scanStore.complete requestID results now }
  | none => s

/-- One message: the state after it, and what is sent back on the stream. -/
def receive (nowISO : String) : State × List ControlMessage :=
  if msg.type = "ping" then (s, [{ type := "pong" }])
  else if msg.type = "heartbeat" then (heartbeat unmarshal msg now s, [])
  else if msg.type = "agent_heartbeat" then (agentHeartbeat unmarshal msg now s, [])
  else if msg.type = "acl_decision" then (aclDecision unmarshal msg now s, [])
  else if msg.type = "agent_log" then (agentLog unmarshal msg s nowISO, [])
  else if msg.type = "scan_report" then (scanReport unmarshal msg now s, [])
  else (s, [])

end Loop

/-! ## What a stream may change -/

/-- From `s` to `s'` nothing changes that is not the connector's. -/
structure Attributed (connectorID : String) (s s' : State) : Prop where
  registry : ∀ id, id ≠ connectorID → s'.control.registry.get id = s.control.registry.get id
  connectors : ∀ id, id ≠ connectorID → s'.connectorRow id = s.connectorRow id
  /-- An agent's row is as it was, or is now one of the connector's. -/
  agents : ∀ id, s'.agents.tunnelers.get id = s.agents.tunnelers.get id ∨
    ∃ row, s'.agents.tunnelers.get id = some row ∧ row.connectorId = connectorID
  /-- A job is as it was, or was created for the connector. -/
  scanJobs : ∀ requestID, s'.scanStore.get requestID = s.scanStore.get requestID ∨
    ∃ job, s.scanStore.get requestID = some job ∧ job.connectorID = connectorID
  auditLogs : ∃ rows, s'.auditLogs = s.auditLogs ++ rows ∧
    ∀ row ∈ rows, row.workspaceId = s.workspaceOf connectorID

/-- What the message says about whom it concerns is true of the stream's connector. -/
structure Truthful (unmarshal : Unmarshal) (connectorID : String) (msg : ControlMessage)
    (s : State) : Prop where
  heartbeat : msg.type = "heartbeat" → msg.connectorId = connectorID
  agentHeartbeat : msg.type = "agent_heartbeat" →
    ∀ p, unmarshal.agentHeartbeat msg.payload = some p → p.connectorId = connectorID
  /-- The connector named, if it is another one, is in the same workspace. -/
  aclDecision : msg.type = "acl_decision" →
    ∀ p, unmarshal.decision msg.payload = some p →
      s.workspaceOf msg.connectorId = s.workspaceOf connectorID
  /-- The report is about a job of the connector, or about none. -/
  scanReport : msg.type = "scan_report" →
    ∀ p, unmarshal.scanReport msg.payload = some p →
      ∀ job, s.scanStore.get p.requestID = some job → job.connectorID = connectorID

/-! ## What each message writes -/

section Writes

variable {unmarshal : Unmarshal} {msg : ControlMessage} {now : SystemTime} {s : State}
  {connectorID : String}

theorem Attributed.refl (connectorID : String) (s : State) : Attributed connectorID s s where
  registry _ _ := rfl
  connectors _ _ := rfl
  agents _ := Or.inl rfl
  scanJobs _ := Or.inl rfl
  auditLogs := ⟨[], (List.append_nil _).symm, fun _ h => absurd h List.not_mem_nil⟩

/-- Reports in a connector's name, by induction on the agents reported. -/
theorem tunnelers_reports (connectorID : String) (now : SystemTime) (id : String) :
    ∀ (agents : List AgentStatus) (st st' : Controller.Durability.State),
      agents.foldl (fun st a => st.report a.agentId "" connectorID now) st = st' →
      st'.tunnelers.get id = st.tunnelers.get id ∨
        ∃ row, st'.tunnelers.get id = some row ∧ row.connectorId = connectorID
  | [], _, _, h => Or.inl (h ▸ rfl)
  | a :: agents, st, st', h => by
      rcases tunnelers_reports connectorID now id agents _ st' h with hkept | hwritten
      · rw [hkept, Controller.Durability.tunnelers_report]
        by_cases hid : id = a.agentId
        · subst hid
          obtain ⟨row, hrow, hconnector, -⟩ :=
            st.tunnelers.get_saveAgent_self ⟨a.agentId, "", connectorID, now⟩
          exact Or.inr ⟨row, hrow, hconnector⟩
        · exact Or.inl (st.tunnelers.get_saveAgent_of_ne hid)
      · exact Or.inr hwritten

theorem attributed_heartbeat (h : msg.connectorId = connectorID) :
    Attributed connectorID s (heartbeat unmarshal msg now s) := by
  subst h
  refine ⟨?_, ?_, ?_, fun _ => Or.inl rfl, [], (List.append_nil _).symm,
    fun _ h => absurd h List.not_mem_nil⟩
  · intro id hne
    show (s.control.heartbeat msg.connectorId msg.privateIp now).registry.get id = _
    rw [Revocation.registry_heartbeat, if_neg hne]
  · intro id hne
    obtain ⟨st, r, hsaved, hid, hdb, hcolumns, -⟩ :=
      Revocation.heartbeat_eq s.control msg.connectorId msg.privateIp now
    obtain ⟨hrow, hcolumn⟩ := Revocation.row_saveConnectorToDB (s := st) (hid ▸ hne)
    show ((s.control.heartbeat msg.connectorId msg.privateIp now).db.connectors.get id).map
      (fun row => (row, (s.control.heartbeat msg.connectorId msg.privateIp now).columns id)) = _
    rw [hsaved, hrow, hcolumn, hdb, hcolumns]
    rfl
  · intro id
    exact tunnelers_reports msg.connectorId now id _ s.agents _ rfl

/-- A heartbeat in another connector's name changes its entry, at one of two times. -/
theorem heartbeat_names (h : ∀ now, Attributed connectorID s (heartbeat unmarshal msg now s)) :
    msg.connectorId = connectorID := by
  by_contra hne
  have hkept : ∀ now, ∃ r, s.control.registry.get msg.connectorId = some r ∧ r.lastSeen = now := by
    intro now
    have hrecorded := Revocation.registry_heartbeat s.control msg.connectorId msg.privateIp now
      msg.connectorId
    rw [if_pos rfl] at hrecorded
    exact ⟨_, ((h now).registry msg.connectorId hne).symm.trans hrecorded, rfl⟩
  obtain ⟨r, hr, hzero⟩ := hkept 0
  obtain ⟨r', hr', hone⟩ := hkept 1
  obtain rfl := Option.some.inj (hr.symm.trans hr')
  exact absurd (hzero.symm.trans hone) (by decide)

theorem attributed_agentHeartbeat
    (h : ∀ p, unmarshal.agentHeartbeat msg.payload = some p → p.connectorId = connectorID) :
    Attributed connectorID s (agentHeartbeat unmarshal msg now s) := by
  unfold agentHeartbeat
  split
  next p hp =>
    obtain rfl := h p hp
    refine { Attributed.refl p.connectorId s with agents := fun id => ?_ }
    show (s.agents.report _ _ _ _).tunnelers.get id = _ ∨ _
    rw [Controller.Durability.tunnelers_report]
    by_cases hid : id = p.agentId
    · subst hid
      obtain ⟨row, hrow, hconnector, -⟩ :=
        s.agents.tunnelers.get_saveAgent_self ⟨p.agentId, p.spiffeId, p.connectorId, now⟩
      exact Or.inr ⟨row, hrow, hconnector⟩
    · exact Or.inl (s.agents.tunnelers.get_saveAgent_of_ne hid)
  · exact Attributed.refl connectorID s

/-- So does an agent's heartbeat in another connector's name. -/
theorem agentHeartbeat_names {p : AgentHeartbeat}
    (h : ∀ now, Attributed connectorID s (agentHeartbeat unmarshal msg now s))
    (hp : unmarshal.agentHeartbeat msg.payload = some p) : p.connectorId = connectorID := by
  by_contra hne
  have hkept : ∀ now, ∃ row, s.agents.tunnelers.get p.agentId = some row ∧
      row.lastSeen = now / nanosPerSec := by
    intro now
    obtain ⟨row, hrow, hconnector, hlast⟩ :=
      s.agents.tunnelers.get_saveAgent_self ⟨p.agentId, p.spiffeId, p.connectorId, now⟩
    have hafter : (agentHeartbeat unmarshal msg now s).agents.tunnelers.get p.agentId =
        some row := by
      rw [agentHeartbeat, hp]
      show (s.agents.report _ _ _ _).tunnelers.get _ = _
      rw [Controller.Durability.tunnelers_report]
      exact hrow
    rcases (h now).agents p.agentId with hsame | ⟨row', hrow', hconnector'⟩
    · exact ⟨row, hsame.symm.trans hafter, hlast⟩
    · obtain rfl := Option.some.inj (hafter.symm.trans hrow')
      exact absurd (hconnector.symm.trans hconnector') hne
  obtain ⟨row, hrow, hzero⟩ := hkept 0
  obtain ⟨row', hrow', hone⟩ := hkept nanosPerSec
  obtain rfl := Option.some.inj (hrow.symm.trans hrow')
  exact absurd (hzero.symm.trans hone) (by decide)

theorem attributed_aclDecision
    (h : ∀ p, unmarshal.decision msg.payload = some p →
      s.workspaceOf msg.connectorId = s.workspaceOf connectorID) :
    Attributed connectorID s (aclDecision unmarshal msg now s) := by
  unfold aclDecision
  split
  next p hp =>
    refine { Attributed.refl connectorID s with auditLogs := ⟨_, rfl, fun row hrow => ?_⟩ }
    obtain rfl := List.mem_singleton.mp hrow
    exact h p hp
  · exact Attributed.refl connectorID s

theorem aclDecision_names {p : Decision}
    (h : Attributed connectorID s (aclDecision unmarshal msg now s))
    (hp : unmarshal.decision msg.payload = some p) :
    s.workspaceOf msg.connectorId = s.workspaceOf connectorID := by
  obtain ⟨rows, hrows, hworkspace⟩ := h.auditLogs
  rw [aclDecision, hp] at hrows
  obtain rfl := List.append_cancel_left hrows
  exact hworkspace _ List.mem_cons_self

theorem attributed_agentLog (nowISO : String) :
    Attributed connectorID s (agentLog unmarshal msg s nowISO) := by
  unfold agentLog
  split
  · split
    · exact { Attributed.refl connectorID s with }
    · exact Attributed.refl connectorID s
  · exact Attributed.refl connectorID s

/-! ### Scan reports -/

/-- A report finishes the job of its request id, if there is one, at `now`. -/
theorem get_scanReport {p : ScanReport} (hp : unmarshal.scanReport msg.payload = some p)
    (now : SystemTime) (s : State) :
    ∃ f : ScanJob → ScanJob, (∀ job, (f job).completedAt = some now) ∧
      ∀ q, (scanReport unmarshal msg now s).scanStore.get q =
        if q = p.requestID then (s.scanStore.get q).map f else s.scanStore.get q := by
  obtain ⟨requestID, results, error⟩ := p
  have hcomplete : ∃ f : ScanJob → ScanJob, (∀ job, (f job).completedAt = some now) ∧
      ∀ q, (s.scanStore.complete requestID results now).get q =
        if q = requestID then (s.scanStore.get q).map f else s.scanStore.get q :=
    ⟨fun job => { job with status := .completed, completedAt := some now, results },
      fun _ => rfl, s.scanStore.get_amended requestID fun _ => rfl⟩
  unfold scanReport
  rw [hp]
  cases error with
  | none => exact hcomplete
  | some e =>
      show ∃ f : ScanJob → ScanJob, _ ∧ ∀ q, Table.get (if e ≠ "" then _ else _) q = _
      split
      · exact ⟨fun job => { job with status := .failed, completedAt := some now, error := e },
          fun _ => rfl, s.scanStore.get_amended requestID fun _ => rfl⟩
      · exact hcomplete

theorem attributed_scanReport
    (h : ∀ p, unmarshal.scanReport msg.payload = some p →
      ∀ job, s.scanStore.get p.requestID = some job → job.connectorID = connectorID) :
    Attributed connectorID s (scanReport unmarshal msg now s) := by
  cases hp : unmarshal.scanReport msg.payload with
  | none =>
      rw [scanReport, hp]
      exact Attributed.refl connectorID s
  | some p =>
      obtain ⟨f, -, hget⟩ := get_scanReport hp now s
      have hjobs : ∀ q, (scanReport unmarshal msg now s).scanStore.get q = s.scanStore.get q ∨
          ∃ job, s.scanStore.get q = some job ∧ job.connectorID = connectorID := by
        intro q
        rw [hget]
        by_cases hq : q = p.requestID
        · cases hjob : s.scanStore.get q with
          | none => exact Or.inl (if_pos hq)
          | some job => exact Or.inr ⟨job, rfl, h p hp job (hq ▸ hjob)⟩
        · exact Or.inl (if_neg hq)
      rw [scanReport, hp] at hjobs ⊢
      exact { Attributed.refl connectorID s with scanJobs := hjobs }

/-- A report about another connector's job changes it, at one of two times. -/
theorem scanReport_names {p : ScanReport} {job : ScanJob}
    (h : ∀ now, Attributed connectorID s (scanReport unmarshal msg now s))
    (hp : unmarshal.scanReport msg.payload = some p)
    (hjob : s.scanStore.get p.requestID = some job) : job.connectorID = connectorID := by
  by_contra hne
  have hkept : ∀ now, job.completedAt = some now := by
    intro now
    obtain ⟨f, hf, hget⟩ := get_scanReport hp now s
    rcases (h now).scanJobs p.requestID with hsame | ⟨job', hjob', hconnector⟩
    · rw [hget, if_pos rfl, hjob] at hsame
      rw [← Option.some.inj hsame]
      exact hf job
    · obtain rfl := Option.some.inj (hjob.symm.trans hjob')
      exact absurd hconnector hne
  exact absurd ((hkept 0).symm.trans (hkept 1)) (by decide)

end Writes

/-! ## Messages that stay with their stream -/

/-- **When a message affects nobody but the stream's connector**, whatever the time. -/
theorem stream_attributed_iff (unmarshal : Unmarshal) (connectorID : String)
    (msg : ControlMessage) (s : State) :
    (∀ now nowISO, Attributed connectorID s (receive unmarshal msg now s nowISO).1) ↔
      Truthful unmarshal connectorID msg s := by
  constructor
  · intro h
    refine ⟨fun htype => ?_, fun htype p hp => ?_, fun htype p hp => ?_,
      fun htype p hp job hjob => ?_⟩
    · have hbeat : ∀ now, Attributed connectorID s (heartbeat unmarshal msg now s) := by
        intro now
        simpa [receive, htype] using h now ""
      exact heartbeat_names hbeat
    · refine agentHeartbeat_names (s := s) (fun now => ?_) hp
      simpa [receive, htype] using h now ""
    · have hdecision : Attributed connectorID s (aclDecision unmarshal msg 0 s) := by
        simpa [receive, htype] using h 0 ""
      exact aclDecision_names hdecision hp
    · refine scanReport_names (s := s) (fun now => ?_) hp hjob
      simpa [receive, htype] using h now ""
  · intro h now nowISO
    unfold receive
    split
    · exact Attributed.refl connectorID s
    split
    next htype => exact attributed_heartbeat (h.heartbeat htype)
    split
    next htype => exact attributed_agentHeartbeat (h.agentHeartbeat htype)
    split
    next htype => exact attributed_aclDecision (h.aclDecision htype)
    split
    · exact attributed_agentLog nowISO
    split
    next htype => exact attributed_scanReport (h.scanReport htype)
    · exact Attributed.refl connectorID s

/-! ## A decision of a connector -/

/-- The decision as a connector sends it: with a payload, and no `connector_id`. -/
def decisionMessage : ControlMessage :=
  { type := "acl_decision", payload := "\x7b\"decision\":\"deny\"\x7d".toUTF8 }

def denied : Decision where
  principalSPIFFE := ""
  agentID := ""
  resourceID := ""
  destination := ""
  protocol := ""
  port := 0
  decision := "deny"
  reason := ""
  connectionID := ""

def exampleUnmarshal : Unmarshal where
  agents _ := none
  agentHeartbeat _ := none
  decision payload := if payload = decisionMessage.payload then some denied else none
  agentLog _ := none
  scanReport _ := none

def noTables : Controller.Database := ⟨∅, ∅, ∅, ∅, ∅, ∅, ∅, ∅⟩

/-- One connector is known, in the workspace acme. -/
def oneConnector : State where
  control := .start noTables (fun _ => {})
    (.single ⟨"con_1", "10.0.0.2", "1.0.0", 0, "acme"⟩)
  agents := .init
  scanStore := ∅
  auditLogs := []
  tunnelerLogs := []

/-- Its decision is logged in no workspace. -/
theorem decision_without_workspace :
    ¬ ∀ (unmarshal : Unmarshal) (connectorID : String) (msg : ControlMessage) (s : State)
      (now : SystemTime) (nowISO : String),
      Attributed connectorID s (receive unmarshal msg now s nowISO).1 := by
  intro hall
  have h : Attributed "con_1" oneConnector (aclDecision exampleUnmarshal decisionMessage 0
    oneConnector) := hall exampleUnmarshal "con_1" decisionMessage oneConnector 0 ""
  have hdenied : exampleUnmarshal.decision decisionMessage.payload = some denied := by
    show (if decisionMessage.payload = decisionMessage.payload then some denied else none) = _
    exact if_pos rfl
  have hworkspace : oneConnector.workspaceOf "" = oneConnector.workspaceOf "con_1" :=
    aclDecision_names h hdenied
  exact absurd hworkspace (by decide)

end ZeroTrust.ControlPlane.ReceiveLoop
