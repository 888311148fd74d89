/-
# `ZeroTrust.Controller.Durability` — the allowlist across restarts of the controller

Enrolments and status reports write the same row.  An enrolment writes the agent's
SPIFFE ID to it; a connector's heartbeat, which carries no SPIFFE ID, writes an empty
one; an `agent_heartbeat` writes whatever it carries.  The registry in memory takes
the first SPIFFE ID under an id and is loaded from the rows when the controller starts.

    `spiffeOf_run`            both, told from the events: the row has the last SPIFFE ID
                              written; the registry the one loaded, or else that of
                              the first enrolment since
    `allowlist_durable_iff`   so the allowlist has each agent's latest SPIFFE ID iff
                              these are the same
-/
import Mathlib.Data.List.DropRight
import ZeroTrust.Lib.Run
import ZeroTrust.Controller.AgentRegistry

namespace ZeroTrust.Controller.Durability

open Lib

structure State where
  agents : AgentRegistry
  agentStatus : AgentStatusRegistry
  tunnelers : Tunnelers

def State.init : State := ⟨.new, ∅, ∅⟩

/-- An agent in a connector's heartbeat. -/
structure AgentStatus where
  agentId : String
  status : String

structure AgentHeartbeat where
  agentId : String
  spiffeId : String
  status : String
  connectorId : String

/-- A payload is what `json.Unmarshal` makes of it; `none` is an error. -/
inductive Event where
  | enrolment (agentId spiffeId version hostname : String) (now : SystemTime)
  | heartbeat (connectorId : String) (payload : Option (List AgentStatus)) (now : SystemTime)
  | agentHeartbeat (payload : Option AgentHeartbeat) (now : SystemTime)
  /-- The rows come in this order. -/
  | restart (rows : List TunnelerRow)

namespace State

/-- The registry's and the table's part of `NotifyAgentAllowed`. -/
def notifyAgentAllowed (s : State) (agentId spiffeId version hostname : String)
    (now : SystemTime) : State :=
  { s with
    agents := s.agents.add agentId spiffeId
    tunnelers := s.tunnelers.allow agentId spiffeId version hostname now }

/-- `agentStatus.Record`, `agentStatus.Get` and `SaveAgentToDB`. -/
def report (s : State) (agentId spiffeId connectorId : String) (now : SystemTime) : State :=
  let agentStatus := s.agentStatus.record agentId spiffeId connectorId now
  match agentStatus.get agentId with
  | some r => { s with agentStatus, tunnelers := s.tunnelers.saveAgent r }
  | none => { s with agentStatus }

def step (s : State) : Event → Option State
  | .enrolment agentId spiffeId version hostname now =>
      some (s.notifyAgentAllowed agentId spiffeId version hostname now)
  | .heartbeat connectorId payload now =>
      -- Connector embeds agent statuses in the heartbeat payload.
      some ((payload.getD []).foldl (fun s a => s.report a.agentId "" connectorId now) s)
  | .agentHeartbeat payload now =>
      match payload with
      | some p => some (s.report p.agentId p.spiffeId p.connectorId now)
      | none => some s
  | .restart rows =>
      if rows.Perm s.tunnelers.rows then
        some { s with agents := loadAgentRegistry rows, agentStatus := loadAgents rows }
      else none

end State

/-! ## What the events say -/

/-- The SPIFFE IDs an event writes to the table, by agent, in order. -/
def Event.writes : Event → List (String × String)
  | .enrolment agentId spiffeId _ _ _ => [(agentId, spiffeId)]
  | .heartbeat _ payload _ => (payload.getD []).map fun a => (a.agentId, "")
  | .agentHeartbeat payload _ => payload.toList.map fun p => (p.agentId, p.spiffeId)
  | .restart _ => []

def Event.enrols : Event → Option (String × String)
  | .enrolment agentId spiffeId _ _ _ => some (agentId, spiffeId)
  | _ => none

def Event.isRestart : Event → Bool
  | .restart _ => true
  | _ => false

/-- The SPIFFE ID in the last report about an agent, or its enrolment. -/
def lastWritten (events : List Event) (id : String) : Option String :=
  (events.flatMap Event.writes).reverse.lookup id

def firstEnrolled (events : List Event) (id : String) : Option String :=
  (events.filterMap Event.enrols).lookup id

def lastEnrolled (events : List Event) (id : String) : Option String :=
  (events.filterMap Event.enrols).reverse.lookup id

/-- Up to the last restart. -/
def beforeRestart (events : List Event) : List Event := events.rdropWhile fun e => !e.isRestart

def sinceRestart (events : List Event) : List Event := events.rtakeWhile fun e => !e.isRestart

section History

variable {events : List Event} {e : Event}

theorem lastWritten_concat (events : List Event) (e : Event) (id : String) :
    lastWritten (events ++ [e]) id = (e.writes.reverse.lookup id).or (lastWritten events id) := by
  simp [lastWritten, List.lookup_append]

theorem firstEnrolled_concat (events : List Event) (e : Event) (id : String) :
    firstEnrolled (events ++ [e]) id =
      (firstEnrolled events id).or (e.enrols.toList.lookup id) := by
  cases he : e.enrols <;> simp [firstEnrolled, List.filterMap_append, List.lookup_append, he]

theorem beforeRestart_concat (h : e.isRestart = false) :
    beforeRestart (events ++ [e]) = beforeRestart events := by
  simp [beforeRestart, h]

theorem sinceRestart_concat (h : e.isRestart = false) :
    sinceRestart (events ++ [e]) = sinceRestart events ++ [e] := by
  simp [sinceRestart, h]

theorem beforeRestart_restart (h : e.isRestart = true) :
    beforeRestart (events ++ [e]) = events ++ [e] := by
  simp [beforeRestart, h]

theorem sinceRestart_restart (h : e.isRestart = true) : sinceRestart (events ++ [e]) = [] := by
  simp [sinceRestart, h]

end History

/-! ## What the steps do -/

section Steps

theorem lookup_single (q id spiffeId : String) :
    [(id, spiffeId)].lookup q = if q = id then some spiffeId else none := by
  by_cases hq : q = id
  · simp [hq]
  · simp [hq, List.lookup_cons, beq_false_of_ne hq]

theorem tunnelers_report (s : State) (agentId spiffeId connectorId : String) (now : SystemTime) :
    (s.report agentId spiffeId connectorId now).tunnelers =
      s.tunnelers.saveAgent ⟨agentId, spiffeId, connectorId, now⟩ := by
  have hget : (s.agentStatus.record agentId spiffeId connectorId now).get agentId =
      some ⟨agentId, spiffeId, connectorId, now⟩ := by
    rw [AgentStatusRegistry.record, Table.get_put, if_pos rfl]
  simp only [State.report, hget]

theorem agents_report (s : State) (agentId spiffeId connectorId : String) (now : SystemTime) :
    (s.report agentId spiffeId connectorId now).agents = s.agents := by
  unfold State.report
  simp only
  split <;> rfl

theorem spiffeOf_reports (connectorId q : String) (now : SystemTime) :
    ∀ (agents : List AgentStatus) (s : State),
      (agents.foldl (fun s a => s.report a.agentId "" connectorId now) s).tunnelers.spiffeOf q =
        ((agents.map fun a => (a.agentId, "")).reverse.lookup q).or (s.tunnelers.spiffeOf q)
  | [], s => by simp
  | a :: agents, s => by
      rw [List.foldl_cons, spiffeOf_reports connectorId q now agents, tunnelers_report,
        Tunnelers.spiffeOf_saveAgent, List.map_cons, List.reverse_cons, List.lookup_append,
        lookup_single, Option.or_assoc]
      by_cases hq : q = a.agentId
      · simp [hq]
      · simp [hq]

theorem agents_reports (connectorId : String) (now : SystemTime) :
    ∀ (agents : List AgentStatus) (s : State),
      (agents.foldl (fun s a => s.report a.agentId "" connectorId now) s).agents = s.agents
  | [], _ => rfl
  | a :: agents, s => by
      rw [List.foldl_cons, agents_reports connectorId now agents, agents_report]

/-- Every event writes to the table what it says it writes. -/
theorem tunnelers_step {s s' : State} {e : Event} (h : s.step e = some s') (q : String) :
    s'.tunnelers.spiffeOf q = (e.writes.reverse.lookup q).or (s.tunnelers.spiffeOf q) := by
  cases e with
  | enrolment agentId spiffeId version hostname now =>
      cases h
      rw [State.notifyAgentAllowed, Tunnelers.spiffeOf_allow]
      show _ = ([(agentId, spiffeId)].lookup q).or _
      rw [lookup_single]
      split <;> rfl
  | heartbeat connectorId payload now =>
      cases h
      rw [spiffeOf_reports]
      rfl
  | agentHeartbeat payload now =>
      cases payload with
      | none =>
          cases h
          simp [Event.writes]
      | some p =>
          cases h
          rw [tunnelers_report, Tunnelers.spiffeOf_saveAgent]
          show _ = ([(p.agentId, p.spiffeId)].lookup q).or _
          rw [lookup_single]
          split <;> rfl
  | restart rows =>
      simp only [State.step, Option.ite_none_right_eq_some] at h
      obtain ⟨-, h⟩ := h
      cases h
      simp [Event.writes]

/-- Only enrolments add to the registry; a restart loads it. -/
theorem agents_step {s s' : State} {e : Event} (h : s.step e = some s') (q : String) :
    s'.agents.spiffeOf q =
      if e.isRestart then s.tunnelers.spiffeOf q
      else (s.agents.spiffeOf q).or (e.enrols.toList.lookup q) := by
  cases e with
  | enrolment agentId spiffeId version hostname now =>
      cases h
      rw [State.notifyAgentAllowed, AgentRegistry.spiffeOf_add]
      show _ = (s.agents.spiffeOf q).or ([(agentId, spiffeId)].lookup q)
      rw [lookup_single]
  | heartbeat connectorId payload now =>
      cases h
      rw [agents_reports]
      simp [Event.isRestart, Event.enrols]
  | agentHeartbeat payload now =>
      cases payload with
      | none =>
          cases h
          simp [Event.isRestart, Event.enrols]
      | some p =>
          cases h
          rw [agents_report]
          simp [Event.isRestart, Event.enrols]
  | restart rows =>
      simp only [State.step, Option.ite_none_right_eq_some] at h
      obtain ⟨hrows, h⟩ := h
      cases h
      simp [Event.isRestart, spiffeOf_loadAgentRegistry hrows]

end Steps

/-! ## Runs -/

theorem spiffeOf_run {events : List Event} {s : State}
    (hrun : run State.step .init events = some s) :
    (∀ q, s.tunnelers.spiffeOf q = lastWritten events q) ∧
    (∀ q, s.agents.spiffeOf q =
      (lastWritten (beforeRestart events) q).or (firstEnrolled (sinceRestart events) q)) := by
  refine run_history
    (motive := fun events s => (∀ q, s.tunnelers.spiffeOf q = lastWritten events q) ∧
      ∀ q, s.agents.spiffeOf q =
        (lastWritten (beforeRestart events) q).or (firstEnrolled (sinceRestart events) q))
    ⟨fun q => rfl, fun q => rfl⟩ ?_ hrun
  rintro events s e s' - ⟨htable, hagents⟩ hstep
  refine ⟨fun q => ?_, fun q => ?_⟩
  · rw [tunnelers_step hstep, lastWritten_concat, htable]
  · rw [agents_step hstep]
    cases he : e.isRestart with
    | true =>
        have hwrites : e.writes = [] := by
          cases e <;> first | rfl | cases he
        rw [beforeRestart_restart he, sinceRestart_restart he, lastWritten_concat, hwrites, htable]
        simp [firstEnrolled]
    | false =>
        rw [beforeRestart_concat he, sinceRestart_concat he, firstEnrolled_concat, hagents,
          Option.or_assoc]
        rfl

/-- **Durability theorem.**  After any run the allowlist has the latest SPIFFE ID of
every enrolled agent iff for each of them that is the one in the last report or
enrolment before the last restart or, if there was none, in its first enrolment since. -/
theorem allowlist_durable_iff (events : List Event) (s : State)
    (hrun : run State.step .init events = some s) :
    (∀ id spiffeId, lastEnrolled events id = some spiffeId → ⟨id, spiffeId⟩ ∈ s.agents.list) ↔
    ∀ id spiffeId, lastEnrolled events id = some spiffeId →
      (lastWritten (beforeRestart events) id).or (firstEnrolled (sinceRestart events) id) =
        some spiffeId := by
  obtain ⟨-, hagents⟩ := spiffeOf_run hrun
  constructor
  · intro hall id spiffeId henrolled
    rw [← hagents]
    exact AgentRegistry.mem_list_iff.mp (hall id spiffeId henrolled)
  · intro hall id spiffeId henrolled
    rw [AgentRegistry.mem_list_iff, hagents]
    exact hall id spiffeId henrolled

/-- An agent enrols, and its connector sends a heartbeat. -/
def reportedEvents : List Event :=
  [.enrolment "agent-1" "spiffe://zt/tunneler/agent-1" "1.0.0" "10.0.0.5" 0,
   .heartbeat "con_1" (some [⟨"agent-1", "ONLINE"⟩]) 0]

/-- The agent's row after that. -/
def reportedRow : TunnelerRow where
  id := "agent-1"
  spiffeId := ""
  connectorId := "con_1"
  status := "online"
  version := "1.0.0"
  hostname := "10.0.0.5"
  lastSeen := 0
  lastSeenAt := "1970-01-01T00:00:00Z"
  installed := 1

/-- The agent's own heartbeat puts its SPIFFE ID back before the restart. -/
def restoredEvents : List Event :=
  reportedEvents ++
    [.agentHeartbeat (some ⟨"agent-1", "spiffe://zt/tunneler/agent-1", "ONLINE", "con_1"⟩) 0,
     .restart [{ reportedRow with spiffeId := "spiffe://zt/tunneler/agent-1" }]]

theorem restored_durable :
    ∃ s, run State.step .init restoredEvents = some s ∧
      ⟨"agent-1", "spiffe://zt/tunneler/agent-1"⟩ ∈ s.agents.list := by
  refine ⟨_, rfl, ?_⟩
  refine (allowlist_durable_iff restoredEvents _ rfl).mpr ?_ _ _ rfl
  intro id spiffeId henrolled
  by_cases hid : id = "agent-1"
  · subst hid
    exact henrolled
  · -- nobody else enrolled
    change [("agent-1", "spiffe://zt/tunneler/agent-1")].lookup id = _ at henrolled
    rw [lookup_single, if_neg hid] at henrolled
    cases henrolled

/-- The controller restarts: the allowlist has an empty SPIFFE ID for the agent. -/
theorem reported_agent_lost :
    ∃ s, run State.step .init (reportedEvents ++ [.restart [reportedRow]]) = some s ∧
      lastEnrolled (reportedEvents ++ [.restart [reportedRow]]) "agent-1" =
        some "spiffe://zt/tunneler/agent-1" ∧
      ⟨"agent-1", "spiffe://zt/tunneler/agent-1"⟩ ∉ s.agents.list := by
  refine ⟨_, rfl, rfl, ?_⟩
  show _ ∉ (loadAgentRegistry [reportedRow]).list
  decide

end ZeroTrust.Controller.Durability
