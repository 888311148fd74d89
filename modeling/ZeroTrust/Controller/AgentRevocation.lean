/-
# `ZeroTrust.Controller.AgentRevocation` — agents that are revoked or deleted

An agent is taken out by its revocation, by either of the two `DELETE` routes for agents,
and with the connector or the remote network it belongs to.  Each of these writes to the
table or to the status registry:

    revoke                          `revoked` and `status` of the row
    DELETE /api/agents/{id}         the row
    DELETE /api/admin/agents/{id}   the status; the statement on the row has a `?` that is
                                    not rebound, PostgreSQL refuses it, and the error is
                                    dropped
    DELETE of the connector or
    of the remote network           the rows and their status

The registry behind the allowlist is none of them, and it is loaded without a look at
`revoked`.  So what counts is when the controller last started (`spiffeOf_run`): an agent
that is out is on the allowlist as long as it was enrolled since, or its row was there.
-/
import Mathlib.Data.Finset.SDiff
import ZeroTrust.Controller.Durability

namespace ZeroTrust.Controller.AgentRevocation

open Lib

/-- The columns of `tunnelers` that matter here only, with their defaults. -/
structure AgentColumns where
  revoked : Int := 0
  remoteNetworkId : String := ""

structure State where
  base : Durability.State
  /-- By id; an id without a row has the defaults. -/
  columns : String → AgentColumns
  /-- Revoked or deleted, and neither granted nor enrolled since. -/
  out : Finset String

def State.init : State := ⟨.init, fun _ => {}, ∅⟩

inductive Event where
  | base (e : Durability.Event)
  /-- `POST /api/agents`, with the id, the host name and the time text that the handler
  makes for it. -/
  | create (id hostname connectorId remoteNetworkId lastSeenAt : String) (now : SystemTime)
  | revoke (id : String)
  | grant (id : String)
  | delete (id : String)
  | adminDelete (id : String)
  | deleteConnector (connectorId : String)
  | deleteRemoteNetwork (networkId : String)
  /-- A connector connects and is sent the allowlist. -/
  | connect

/-! ## The requests -/

namespace State

def offline (id : String) (row : TunnelerRow) : TunnelerRow :=
  if row.id = id then { row with status := "offline" } else row

theorem offline_id (id : String) (row : TunnelerRow) : (offline id row).id = row.id := by
  unfold offline
  split <;> rfl

/-- `UPDATE tunnelers SET revoked = …, status = 'offline' WHERE id = …`, on rows that are
there. -/
def setRevoked (s : State) (id : String) (revoked : Int) : State :=
  { s with
    base.tunnelers := s.base.tunnelers.update (offline id) (offline_id id)
    columns := fun q =>
      if q = id ∧ (s.base.tunnelers.get id).isSome then { s.columns q with revoked }
      else s.columns q }

/-- `RevokeTunnelerInDB`. -/
def revokeTunnelerInDB (s : State) (id : String) : State := s.setRevoked id 1

/-- `GrantTunnelerInDB`. -/
def grantTunnelerInDB (s : State) (id : String) : State := s.setRevoked id 0

/-- `DELETE FROM tunnelers WHERE …`. -/
def deleteRows (s : State) (p : TunnelerRow → Bool) : State :=
  { s with
    base.tunnelers := s.base.tunnelers.filter fun row => !p row
    columns := fun q => if (s.base.tunnelers.get q).any p then {} else s.columns q }

/-- `DeleteTunnelerFromDB`. -/
def deleteTunnelerFromDB (s : State) (id : String) : State := s.deleteRows fun row => row.id = id

/-- `s.Agents.Delete`, for each of the ids. -/
def deleteStatus (s : State) (ids : List String) : State :=
  { s with base.agentStatus := s.base.agentStatus.filter fun r => r.id ∉ ids }

/-- `SELECT id FROM tunnelers WHERE …`. -/
def selectIds (s : State) (p : TunnelerRow → Bool) : List String :=
  (s.base.tunnelers.rows.filter p).map TunnelerRow.id

/-- The agents bound to a connector or in a network: first their status, then their rows. -/
def deleteAgentsWhere (s : State) (p : TunnelerRow → Bool) : State :=
  (s.deleteStatus (s.selectIds p)).deleteRows p

/-- `POST /api/agents`. -/
def create (s : State) (id hostname connectorId remoteNetworkId lastSeenAt : String)
    (now : SystemTime) : State :=
  match s.base.tunnelers.insert
    { id, spiffeId := "", connectorId, status := "offline", version := "1.0.0", hostname
      lastSeen := now / nanosPerSec, lastSeenAt, installed := 0 } with
  | some tunnelers =>
      { s with
        base.tunnelers := tunnelers
        columns := fun q => if q = id then { remoteNetworkId } else s.columns q }
  | none => s

/-- What `Connect` sends as `agent_allowlist`. -/
def allowlist (s : State) : List AgentInfo := s.base.agents.list

/-- `out` is kept beside what the requests do. -/
def step (s : State) : Event → Option State
  | .base e =>
      (s.base.step e).map fun base =>
        { s with base, out := s.out \ (e.enrols.toList.map Prod.fst).toFinset }
  | .create id hostname connectorId remoteNetworkId lastSeenAt now =>
      some (s.create id hostname connectorId remoteNetworkId lastSeenAt now)
  | .revoke id => some { s.revokeTunnelerInDB id with out := insert id s.out }
  | .grant id => some { s.grantTunnelerInDB id with out := s.out.erase id }
  | .delete id => some { s.deleteTunnelerFromDB id with out := insert id s.out }
  | .adminDelete id => some { s.deleteStatus [id] with out := insert id s.out }
  | .deleteConnector connectorId =>
      let p := fun row : TunnelerRow => row.connectorId = connectorId
      some { s.deleteAgentsWhere p with out := s.out ∪ (s.selectIds p).toFinset }
  | .deleteRemoteNetwork networkId =>
      let p := fun row : TunnelerRow => (s.columns row.id).remoteNetworkId = networkId
      some { s.deleteAgentsWhere p with out := s.out ∪ (s.selectIds p).toFinset }
  | .connect => some s

end State

/-! ## What the events say -/

def Event.base? : Event → Option Durability.Event
  | .base e => some e
  | _ => none

/-- The enrolments, starts and reports of a run. -/
def baseEvents (events : List Event) : List Durability.Event := events.filterMap Event.base?

/-- Who was enrolled, with which SPIFFE ID. -/
def enrolments (events : List Event) : List (String × String) :=
  (baseEvents events).filterMap Durability.Event.enrols

def startRows : Durability.Event → Option (List TunnelerRow)
  | .restart rows => some rows
  | _ => none

/-- The rows read when the controller last started. -/
def loadedRows (events : List Event) : List TunnelerRow :=
  ((baseEvents events).reverse.findSome? startRows).getD []

/-- The SPIFFE ID under an id in these rows. -/
def loadedSpiffe (events : List Event) (id : String) : Option String :=
  ((loadedRows events).find? fun row => row.id = id).map TunnelerRow.spiffeId

/-- The first SPIFFE ID an id was enrolled with since. -/
def enrolledSpiffe (events : List Event) (id : String) : Option String :=
  Durability.firstEnrolled (Durability.sinceRestart (baseEvents events)) id

section History

variable {events : List Event} {e : Event} {b : Durability.Event}

theorem baseEvents_other (h : e.base? = none) : baseEvents (events ++ [e]) = baseEvents events := by
  simp [baseEvents, List.filterMap_append, h]

theorem baseEvents_base : baseEvents (events ++ [.base b]) = baseEvents events ++ [b] := by
  simp [baseEvents, Event.base?]

theorem loadedSpiffe_restart (rows : List TunnelerRow) (q : String) :
    loadedSpiffe (events ++ [.base (.restart rows)]) q =
      (rows.find? fun row => row.id = q).map TunnelerRow.spiffeId := by
  rw [loadedSpiffe, loadedRows, baseEvents_base, List.reverse_concat]
  rfl

theorem loadedSpiffe_base (h : b.isRestart = false) (q : String) :
    loadedSpiffe (events ++ [.base b]) q = loadedSpiffe events q := by
  have hrows : startRows b = none := by
    cases b <;> first | rfl | cases h
  simp [loadedSpiffe, loadedRows, baseEvents_base, hrows]

theorem enrolledSpiffe_restart (rows : List TunnelerRow) (q : String) :
    enrolledSpiffe (events ++ [.base (.restart rows)]) q = none := by
  rw [enrolledSpiffe, baseEvents_base, Durability.sinceRestart_restart rfl]
  rfl

theorem enrolledSpiffe_base (h : b.isRestart = false) (q : String) :
    enrolledSpiffe (events ++ [.base b]) q =
      (enrolledSpiffe events q).or (b.enrols.toList.lookup q) := by
  rw [enrolledSpiffe, baseEvents_base, Durability.sinceRestart_concat h,
    Durability.firstEnrolled_concat]
  rfl

end History

/-! ## What the steps do -/

/-- The requests do not touch the registry. -/
theorem agents_request {s s' : State} {e : Event} (hstep : s.step e = some s')
    (hother : e.base? = none) : s'.base.agents = s.base.agents := by
  cases e with
  | base b => cases hother
  | create id hostname connectorId remoteNetworkId lastSeenAt now =>
      cases hstep
      unfold State.create
      split <;> rfl
  | revoke id =>
      cases hstep
      rfl
  | grant id =>
      cases hstep
      rfl
  | delete id =>
      cases hstep
      rfl
  | adminDelete id =>
      cases hstep
      rfl
  | deleteConnector connectorId =>
      cases hstep
      rfl
  | deleteRemoteNetwork networkId =>
      cases hstep
      rfl
  | connect =>
      cases hstep
      rfl

/-- Only enrolments add to the registry; a start loads it. -/
theorem agents_base {s s' : State} {b : Durability.Event} (hstep : s.step (.base b) = some s')
    (q : String) :
    (b.isRestart = false ∧
      s'.base.agents.spiffeOf q = (s.base.agents.spiffeOf q).or (b.enrols.toList.lookup q)) ∨
    ∃ rows, b = .restart rows ∧
      s'.base.agents.spiffeOf q = (rows.find? fun row => row.id = q).map TunnelerRow.spiffeId := by
  obtain ⟨base, hbase, rfl⟩ := Option.map_eq_some_iff.mp hstep
  cases hb : b.isRestart with
  | false =>
      refine Or.inl ⟨rfl, ?_⟩
      have hagents := Durability.agents_step hbase q
      rw [hb] at hagents
      exact hagents
  | true =>
      cases b with
      | restart rows =>
          refine Or.inr ⟨rows, rfl, ?_⟩
          simp only [Durability.State.step, Option.ite_none_right_eq_some] at hbase
          obtain ⟨-, hbase⟩ := hbase
          cases hbase
          show (loadAgentRegistry rows).spiffeOf q = _
          rw [loadAgentRegistry, spiffeOf_addRows]
          rfl
      | enrolment agentId spiffeId version hostname now => cases hb
      | heartbeat connectorId payload now => cases hb
      | agentHeartbeat payload now => cases hb

/-! ## Runs -/

/-- The registry has the SPIFFE ID that was loaded under an id or, if there was none, the
first one enrolled since. -/
theorem spiffeOf_run {events : List Event} {s : State}
    (hrun : run State.step .init events = some s) (q : String) :
    s.base.agents.spiffeOf q = (loadedSpiffe events q).or (enrolledSpiffe events q) := by
  refine run_history
    (motive := fun events s =>
      s.base.agents.spiffeOf q = (loadedSpiffe events q).or (enrolledSpiffe events q))
    rfl ?_ hrun
  rintro events s e s' - ih hstep
  cases hbase : e.base? with
  | none =>
      rw [agents_request hstep hbase, ih]
      simp only [loadedSpiffe, loadedRows, enrolledSpiffe, baseEvents_other hbase]
  | some b =>
      obtain rfl : e = .base b := by
        cases e <;> first | exact congrArg Event.base (Option.some.inj hbase) | cases hbase
      rcases agents_base hstep q with ⟨hb, hagents⟩ | ⟨rows, rfl, hagents⟩
      · rw [hagents, ih, loadedSpiffe_base hb, enrolledSpiffe_base hb, Option.or_assoc]
      · rw [hagents, loadedSpiffe_restart, enrolledSpiffe_restart, Option.or_none]

/-- The allowlist has a SPIFFE ID. -/
theorem mem_allowlist_iff {events : List Event} {s : State}
    (hrun : run State.step .init events = some s) (spiffeId : String) :
    spiffeId ∈ s.allowlist.map AgentInfo.spiffeId ↔
      ∃ q, (loadedSpiffe events q).or (enrolledSpiffe events q) = some spiffeId := by
  rw [List.mem_map]
  constructor
  · rintro ⟨info, hinfo, rfl⟩
    exact ⟨info.id, by rw [← spiffeOf_run hrun]; exact AgentRegistry.mem_list_iff.mp hinfo⟩
  · rintro ⟨q, hq⟩
    rw [← spiffeOf_run hrun] at hq
    exact ⟨⟨q, spiffeId⟩, AgentRegistry.mem_list_iff.mpr hq, rfl⟩

/-- **Revocation theorem, for agents.**  In every run, the allowlist sent has no SPIFFE ID
of an agent that is out iff no id had one of these in its row when the controller last
started, and no id without a row there was first enrolled with one of these since. -/
theorem allowlist_excludes_out_iff (events : List Event) (s : State)
    (hrun : run State.step .init events = some s) :
    (∀ id ∈ s.out, ∀ spiffeId, (id, spiffeId) ∈ enrolments events →
      spiffeId ∉ s.allowlist.map AgentInfo.spiffeId) ↔
    ∀ id ∈ s.out, ∀ spiffeId, (id, spiffeId) ∈ enrolments events → ∀ q,
      loadedSpiffe events q ≠ some spiffeId ∧
      (loadedSpiffe events q = none → enrolledSpiffe events q ≠ some spiffeId) := by
  have hmem : ∀ spiffeId, spiffeId ∉ s.allowlist.map AgentInfo.spiffeId ↔ ∀ q,
      loadedSpiffe events q ≠ some spiffeId ∧
      (loadedSpiffe events q = none → enrolledSpiffe events q ≠ some spiffeId) := by
    intro spiffeId
    rw [mem_allowlist_iff hrun, not_exists]
    refine forall_congr' fun q => ?_
    rw [Option.or_eq_some_iff, not_or, not_and]
  constructor
  · intro hall id hid spiffeId henrolled
    exact (hmem spiffeId).mp (hall id hid spiffeId henrolled)
  · intro hall id hid spiffeId henrolled
    exact (hmem spiffeId).mpr (hall id hid spiffeId henrolled)

/-- An agent enrols. -/
def enrolled : Event :=
  .base (.enrolment "agent-1" "spiffe://zt/tunneler/agent-1" "1.0.0" "10.0.0.5" 0)

/-- It is deleted in the UI, and the controller restarts. -/
def deletedEvents : List Event := [enrolled, .delete "agent-1", .base (.restart [])]

theorem deleted_agent_excluded :
    ∃ s, run State.step .init deletedEvents = some s ∧ "agent-1" ∈ s.out ∧
      "spiffe://zt/tunneler/agent-1" ∉ s.allowlist.map AgentInfo.spiffeId := by
  have hrun : ∃ s, run State.step .init deletedEvents = some s ∧ "agent-1" ∈ s.out :=
    ⟨_, rfl, by decide⟩
  obtain ⟨s, hrun, hout⟩ := hrun
  refine ⟨s, hrun, hout, ?_⟩
  refine (allowlist_excludes_out_iff deletedEvents s hrun).mpr ?_ "agent-1" hout _
    List.mem_cons_self
  intro id _ spiffeId _ q
  -- nothing was loaded, and nobody enrolled since
  have hloaded : loadedSpiffe deletedEvents q = none := rfl
  have henrolled : enrolledSpiffe deletedEvents q = none := rfl
  rw [hloaded, henrolled]
  exact ⟨(Option.some_ne_none _).symm, fun _ => (Option.some_ne_none _).symm⟩

/-- The agent's row after its revocation. -/
def revokedRow : TunnelerRow where
  id := "agent-1"
  spiffeId := "spiffe://zt/tunneler/agent-1"
  connectorId := ""
  status := "offline"
  version := "1.0.0"
  hostname := "10.0.0.5"
  lastSeen := 0
  lastSeenAt := ""
  installed := 0

/-- A connector that connects after an agent's revocation is sent the agent, also when
the controller was restarted in between. -/
theorem revoked_agent_listed :
    (∃ s, run State.step .init [enrolled, .revoke "agent-1", .connect] = some s ∧
      "agent-1" ∈ s.out ∧
      "spiffe://zt/tunneler/agent-1" ∈ s.allowlist.map AgentInfo.spiffeId) ∧
    ∃ s, run State.step .init
        [enrolled, .revoke "agent-1", .base (.restart [revokedRow]), .connect] = some s ∧
      "agent-1" ∈ s.out ∧
      "spiffe://zt/tunneler/agent-1" ∈ s.allowlist.map AgentInfo.spiffeId := by
  refine ⟨⟨_, rfl, ?_, ?_⟩, ⟨_, rfl, ?_, ?_⟩⟩
  all_goals decide

end ZeroTrust.Controller.AgentRevocation
