/-
# `ZeroTrust.ControlPlane.Allowlist` — a connector's allowlist while agents enrol

Two operations of `api/control_plane.go` write to a connector's allowlist, in steps
that nothing holds together:

    Connect               addClient; agents.List(); send agent_allowlist
    NotifyAgentAllowed    agents.Add; snapshot the clients; send agent_allow

The connector replaces its set by the first message and inserts the second.  One
`Connect` of a connector is run here against any number of `NotifyAgentAllowed` calls,
in every order of their steps, over one ordered stream.  Other connectors' streams and
the database statement of `NotifyAgentAllowed` have no part in it.

An enrolment is lost that is on the stream before the list and not in it:

    `mem_eventual_iff`      what the set will be: the list that was read, and what is
                            sent after it
    `no_enrolment_lost_iff` so every completed call's SPIFFE ID is there iff it is one
                            of these
-/
import ZeroTrust.Lib.Run
import ZeroTrust.Controller.AgentRegistry
import ZeroTrust.ControlPlane.SignedBytes
import ZeroTrust.Connector.Handler

namespace ZeroTrust.ControlPlane.Allowlist

open Lib
open Controller (AgentInfo AgentRegistry)
open Connector (ControlMessage HandlerState AgentAllowlist handleControlMessage)

/-! ## Messages -/

inductive Message where
  | agentAllowlist (items : List AgentInfo)
  | agentAllow (info : AgentInfo)

def infoJson (i : AgentInfo) : Json :=
  .obj [("agent_id", .str i.id), ("spiffe_id", .str i.spiffeId)]

/-- The message as it is sent. -/
def Message.encode : Message → ControlMessage
  | .agentAllowlist items => ⟨"agent_allowlist", Controller.marshal (.arr (items.map infoJson))⟩
  | .agentAllow info => ⟨"agent_allow", Controller.marshal (infoJson info)⟩

/-- What the connector reads. -/
def receivedInfo (i : AgentInfo) : Connector.AgentInfo := ⟨i.id, i.spiffeId⟩

/-- What it does with it. -/
def Message.effect (a : AgentAllowlist) : Message → AgentAllowlist
  | .agentAllowlist items => .replace (items.map receivedInfo)
  | .agentAllow info => a.add info.spiffeId

theorem ofJson_infoJson (i : AgentInfo) :
    Connector.AgentInfo.ofJson (infoJson i) = some (receivedInfo i) := by
  simp [Connector.AgentInfo.ofJson, infoJson, receivedInfo, Connector.structFields,
    Connector.required, Connector.member, Connector.decodeString]

theorem integral_infoJson (i : AgentInfo) : (infoJson i).integral = true := by
  simp [infoJson, Json.integral, Json.integralFields]

theorem decodeVec_infoJson (items : List AgentInfo) :
    Connector.decodeVec Connector.AgentInfo.ofJson (.arr (items.map infoJson)) =
      some (items.map receivedInfo) := by
  induction items with
  | nil => rfl
  | cons i items ih =>
      rw [Connector.decodeVec] at ih ⊢
      simp [List.mapM_cons, ofJson_infoJson, ih]

/-- The handler decodes what was sent and applies it. -/
theorem handleControlMessage_encode {L : Connector.Libraries} (h : HandlerState L) (m : Message)
    (now : SystemTime) :
    handleControlMessage h m.encode now = some { h with allowlist := m.effect h.allowlist } := by
  cases m with
  | agentAllowlist items =>
      have hint : (Json.arr (items.map infoJson)).integral = true := by
        rw [Json.integral, Json.integralElems_iff]
        simp only [List.mem_map]
        rintro _ ⟨i, -, rfl⟩
        exact integral_infoJson i
      simp only [handleControlMessage, Message.encode, Controller.marshal, if_true,
        Connector.parseSlice_render Controller.escapes_goEscape hint, decodeVec_infoJson]
      rfl
  | agentAllow info =>
      have htype : ("agent_allow" : String) ≠ "agent_allowlist" := by decide
      simp only [handleControlMessage, Message.encode, Controller.marshal, if_neg htype, if_true,
        Connector.parseSlice_render Controller.escapes_goEscape (integral_infoJson info),
        ofJson_infoJson]
      rfl

theorem mem_replace {items : List AgentInfo} {spiffeId : String} :
    spiffeId ∈ AgentAllowlist.replace (items.map receivedInfo) ↔
      spiffeId ≠ "" ∧ ∃ i ∈ items, i.spiffeId = spiffeId := by
  simp only [AgentAllowlist.replace, List.mem_toFinset, List.mem_map, List.mem_filter,
    Bool.not_eq_true', String.isEmpty_eq_false_iff]
  constructor
  · rintro ⟨_, ⟨⟨i, hi, rfl⟩, hne⟩, rfl⟩
    exact ⟨hne, i, hi, rfl⟩
  · rintro ⟨hne, i, hi, rfl⟩
    exact ⟨receivedInfo i, ⟨⟨i, hi, rfl⟩, hne⟩, rfl⟩

theorem mem_add {a : AgentAllowlist} {spiffeId q : String} :
    q ∈ a.add spiffeId ↔ q ∈ a ∨ (q ≠ "" ∧ q = spiffeId) := by
  unfold AgentAllowlist.add
  split
  next hempty =>
    obtain rfl := String.isEmpty_iff.mp hempty
    simp
  next hne =>
    rw [String.isEmpty_iff] at hne
    rw [Finset.mem_insert, or_comm]
    refine or_congr_right ⟨fun h => ⟨h ▸ hne, h⟩, fun h => h.2⟩

/-! ## Interleavings -/

/-- Where `Connect` stands; `read` holds the list it read. -/
inductive ConnectPhase where
  | idle
  | registered
  | read (list : List AgentInfo)
  | finished

/-- Where a `NotifyAgentAllowed` call stands; `reached` says if the connector was among
the clients. -/
inductive CallPhase where
  | added
  | snapshotted (reached : Bool)
  | finished

structure Call where
  info : AgentInfo
  phase : CallPhase

structure State (L : Connector.Libraries) where
  agents : AgentRegistry
  connect : ConnectPhase
  /-- The calls so far, in the order they began. -/
  calls : List Call
  /-- Sent and not yet delivered. -/
  stream : List Message
  connector : HandlerState L

inductive Event where
  | addClient
  | readAgents
  | sendAllowlist
  /-- A `NotifyAgentAllowed` call begins: `agents.Add`. -/
  | notify (info : AgentInfo)
  /-- The n-th call copies the table of clients. -/
  | snapshotClients (n : Nat)
  | sendAllow (n : Nat)
  | deliver (now : SystemTime)

namespace State

variable {L : Connector.Libraries}

/-- Nothing has begun yet; the agents enrolled earlier are known. -/
def init (agents : AgentRegistry) (connector : HandlerState L) : State L :=
  ⟨agents, .idle, [], [], connector⟩

def setPhase (s : State L) (n : Nat) (phase : CallPhase) : State L :=
  { s with calls := s.calls.modify n fun c => { c with phase } }

def send (s : State L) (m : Message) : State L := { s with stream := s.stream ++ [m] }

def step (s : State L) : Event → Option (State L)
  | .addClient =>
      match s.connect with
      | .idle => some { s with connect := .registered }
      | _ => none
  | .readAgents =>
      match s.connect with
      | .registered => some { s with connect := .read s.agents.list }
      | _ => none
  | .sendAllowlist =>
      match s.connect with
      | .read list => some { s.send (.agentAllowlist list) with connect := .finished }
      | _ => none
  | .notify info =>
      some
        { s with
          agents := s.agents.add info.id info.spiffeId
          calls := s.calls ++ [⟨info, .added⟩] }
  | .snapshotClients n =>
      match s.calls[n]? with
      | some ⟨_, .added⟩ =>
          match s.connect with
          | .idle => some (s.setPhase n (.snapshotted false))
          | _ => some (s.setPhase n (.snapshotted true))
      | _ => none
  | .sendAllow n =>
      match s.calls[n]? with
      | some ⟨info, .snapshotted reached⟩ =>
          if reached then some ((s.setPhase n .finished).send (.agentAllow info))
          else some (s.setPhase n .finished)
      | _ => none
  | .deliver now =>
      match s.stream with
      | [] => none
      | m :: stream => (handleControlMessage s.connector m.encode now).map fun connector =>
          { s with stream, connector }

/-- The allowlist once everything on the stream is delivered. -/
def eventual (s : State L) : AgentAllowlist := s.stream.foldl Message.effect s.connector.allowlist

end State

section Interleaving

variable {L : Connector.Libraries} {s s' : State L}

theorem eventual_send (s : State L) (m : Message) :
    (s.send m).eventual = m.effect s.eventual := by
  simp [State.eventual, State.send]

theorem step_deliver {m : Message} {stream : List Message} (h : s.stream = m :: stream)
    (now : SystemTime) :
    s.step (.deliver now) = some
      { s with
        stream
        connector := { s.connector with allowlist := m.effect s.connector.allowlist } } := by
  simp only [State.step, h, handleControlMessage_encode]
  rfl

theorem eventual_deliver {now : SystemTime} (h : s.step (.deliver now) = some s') :
    s'.connect = s.connect ∧ s'.eventual = s.eventual := by
  cases hstream : s.stream with
  | nil => simp [State.step, hstream] at h
  | cons m stream =>
      rw [step_deliver hstream] at h
      cases h
      exact ⟨rfl, by simp [State.eventual, hstream]⟩

/-- What a step does to `Connect` and to the set the connector will have. -/
theorem step_cases {e : Event} (h : s.step e = some s') :
    (e = .addClient ∧ s.connect = .idle ∧ s'.connect = .registered) ∨
    (e = .readAgents ∧ s.connect = .registered ∧ s'.connect = .read s.agents.list) ∨
    (e = .sendAllowlist ∧ ∃ list, s.connect = .read list ∧ s'.connect = .finished ∧
      s'.eventual = .replace (list.map receivedInfo)) ∨
    (∃ n info, e = .sendAllow n ∧ s.calls[n]? = some ⟨info, .snapshotted true⟩ ∧
      s'.connect = s.connect ∧ s'.eventual = s.eventual.add info.spiffeId) ∨
    (e ≠ .readAgents ∧ (∀ n info, e = .sendAllow n →
        s.calls[n]? ≠ some ⟨info, .snapshotted true⟩) ∧
      s'.connect = s.connect ∧ s'.eventual = s.eventual) := by
  cases e with
  | addClient =>
      simp only [State.step] at h
      split at h
      · cases h
        exact Or.inl ⟨rfl, ‹_›, rfl⟩
      · cases h
  | readAgents =>
      simp only [State.step] at h
      split at h
      · cases h
        exact Or.inr (Or.inl ⟨rfl, ‹_›, rfl⟩)
      · cases h
  | sendAllowlist =>
      simp only [State.step] at h
      split at h
      next list hread =>
        cases h
        exact Or.inr (Or.inr (Or.inl ⟨rfl, list, hread, rfl, eventual_send s _⟩))
      · cases h
  | notify info =>
      cases h
      exact Or.inr (Or.inr (Or.inr (Or.inr ⟨nofun, nofun, rfl, rfl⟩)))
  | snapshotClients n =>
      simp only [State.step] at h
      split at h
      · split at h <;> cases h <;>
          exact Or.inr (Or.inr (Or.inr (Or.inr ⟨nofun, nofun, rfl, rfl⟩)))
      · cases h
  | sendAllow n =>
      simp only [State.step] at h
      split at h
      next info reached hcall =>
        cases reached with
        | true =>
            cases h
            exact Or.inr (Or.inr (Or.inr (Or.inl ⟨n, info, rfl, hcall, rfl, eventual_send _ _⟩)))
        | false =>
            cases h
            refine Or.inr (Or.inr (Or.inr (Or.inr ⟨nofun, ?_, rfl, rfl⟩)))
            rintro m info' heq hsome
            cases heq
            rw [hcall] at hsome
            cases hsome
      · cases h
  | deliver now =>
      obtain ⟨hconnect, heventual⟩ := eventual_deliver h
      exact Or.inr (Or.inr (Or.inr (Or.inr ⟨nofun, nofun, hconnect, heventual⟩)))

/-! ## What is in the set -/

/-- `Connect` reads the registry while it lists the SPIFFE ID. -/
def Reads (spiffeId : String) (s : State L) (e : Event) : Prop :=
  e = .readAgents ∧ ∃ i ∈ s.agents.list, i.spiffeId = spiffeId

/-- The SPIFFE ID is sent to the connector after the list. -/
def SendsAfter (spiffeId : String) (s : State L) (e : Event) : Prop :=
  s.connect = .finished ∧ ∃ n info, e = .sendAllow n ∧
    s.calls[n]? = some ⟨info, .snapshotted true⟩ ∧ info.spiffeId = spiffeId

/-- How far a run has settled whether the connector will have the SPIFFE ID; `read` and
`sent` say that a step so far read it and that one sent it after the list. -/
def Settled (spiffeId : String) (s : State L) (read sent : Prop) : Prop :=
  match s.connect with
  | .idle => ¬ read ∧ ¬ sent
  | .registered => ¬ read ∧ ¬ sent
  | .read list => (read ↔ ∃ i ∈ list, i.spiffeId = spiffeId) ∧ ¬ sent
  | .finished => spiffeId ∈ s.eventual ↔ spiffeId ≠ "" ∧ (read ∨ sent)

theorem settled_step {spiffeId : String} {e : Event} {read sent : Prop}
    (hs : Settled spiffeId s read sent) (h : s.step e = some s') :
    Settled spiffeId s' (read ∨ Reads spiffeId s e) (sent ∨ SendsAfter spiffeId s e) := by
  rcases step_cases h with ⟨rfl, hconnect, hconnect'⟩ | ⟨rfl, hconnect, hconnect'⟩ |
    ⟨rfl, list, hconnect, hconnect', heventual⟩ |
    ⟨n, info, rfl, hcall, hconnect', heventual⟩ | ⟨hread, hsend, hconnect', heventual⟩
  · simp only [Settled, hconnect] at hs
    simp [Settled, hconnect', Reads, SendsAfter, hs]
  · simp only [Settled, hconnect] at hs
    simp [Settled, hconnect', Reads, SendsAfter, hs]
  · simp only [Settled, hconnect] at hs
    simp [Settled, hconnect', heventual, mem_replace, Reads, SendsAfter, hs]
  · have hreads : ¬ Reads spiffeId s (.sendAllow n) := fun h => nomatch h.1
    have hsends : SendsAfter spiffeId s (.sendAllow n) ↔
        s.connect = .finished ∧ spiffeId = info.spiffeId := by
      constructor
      · rintro ⟨hfinished, m, info', heq, hcall', rfl⟩
        cases heq
        cases hcall.symm.trans hcall'
        exact ⟨hfinished, rfl⟩
      · rintro ⟨hfinished, rfl⟩
        exact ⟨hfinished, n, info, rfl, hcall, rfl⟩
    cases hconnect : s.connect with
    | finished =>
        simp only [Settled, hconnect] at hs
        simp only [Settled, hconnect', hconnect, heventual, mem_add, hs, hreads, hsends, or_false,
          true_and]
        rw [← and_or_left, or_assoc]
    | idle | registered | read list =>
        simp only [Settled, hconnect] at hs
        simpa [Settled, hconnect', hconnect, hreads, hsends] using hs
  · have hreads : ¬ Reads spiffeId s e := fun h => hread h.1
    have hsends : ¬ SendsAfter spiffeId s e := by
      rintro ⟨-, n, info, rfl, hcall, -⟩
      exact hsend n info rfl hcall
    simpa [Settled, hconnect', heventual, hreads, hsends] using hs

theorem settled_run {agents : AgentRegistry} {connector : HandlerState L} {events : List Event}
    (hrun : run State.step (.init agents connector) events = some s) (spiffeId : String) :
    Settled spiffeId s (Takes State.step (Reads spiffeId) (.init agents connector) events)
      (Takes State.step (SendsAfter spiffeId) (.init agents connector) events) := by
  refine run_history
    (motive := fun events s =>
      Settled spiffeId s (Takes State.step (Reads spiffeId) (.init agents connector) events)
        (Takes State.step (SendsAfter spiffeId) (.init agents connector) events)) ?_ ?_ hrun
  · simp [Settled, State.init, Takes]
  · intro events s e s' hrun hs hstep
    rw [takes_concat hrun, takes_concat hrun]
    exact settled_step hs hstep

/-- **Enrolment theorem.**  Take any interleaving, in which `Connect` has finished and
every message is delivered.  The connector's allowlist has the SPIFFE ID of each
completed call iff each is non-empty and was listed when `Connect` read the registry,
or was sent after the list. -/
theorem no_enrolment_lost_iff (agents : AgentRegistry) (connector : HandlerState L)
    (events : List Event) (s : State L)
    (hrun : run State.step (.init agents connector) events = some s)
    (hfinished : s.connect = .finished) (hdelivered : s.stream = []) :
    (∀ c ∈ s.calls, c.phase = .finished → c.info.spiffeId ∈ s.connector.allowlist) ↔
    ∀ c ∈ s.calls, c.phase = .finished → c.info.spiffeId ≠ "" ∧
      (Takes State.step (Reads c.info.spiffeId) (.init agents connector) events ∨
        Takes State.step (SendsAfter c.info.spiffeId) (.init agents connector) events) := by
  refine forall_congr' fun c => forall_congr' fun _ => forall_congr' fun _ => ?_
  have hsettled := settled_run hrun c.info.spiffeId
  simp only [Settled, hfinished] at hsettled
  rw [← hsettled, State.eventual, hdelivered]
  rfl

end Interleaving

/-- A connector that has just started. -/
def newConnector : HandlerState (.recorded []) where
  allowlist := ∅
  acl := .new (.recorded []) [] 0
  latestFwPolicy := none
  firewallTx := []

def agent1 : AgentInfo := ⟨"agent-1", "spiffe://zt/tunneler/agent-1"⟩

/-- An agent enrols when the list is out. -/
def enrolledAfter : List Event :=
  [.addClient, .readAgents, .sendAllowlist, .notify agent1, .snapshotClients 0, .sendAllow 0,
    .deliver 0, .deliver 0]

theorem enrolledAfter_allowed :
    ∃ s, run State.step (.init .new newConnector) enrolledAfter = some s ∧
      ∀ c ∈ s.calls, c.phase = .finished → c.info.spiffeId ∈ s.connector.allowlist := by
  have hrun : run State.step (.init .new newConnector) enrolledAfter = some
      ⟨.add .new agent1.id agent1.spiffeId, .finished, [⟨agent1, .finished⟩], [],
        { newConnector with allowlist := .add (.replace []) agent1.spiffeId }⟩ := by
    refine run_cons.mpr ⟨_, rfl, run_cons.mpr ⟨_, rfl, run_cons.mpr ⟨_, rfl, run_cons.mpr ⟨_, rfl,
      run_cons.mpr ⟨_, rfl, run_cons.mpr ⟨_, rfl, run_cons.mpr ⟨_, step_deliver rfl 0,
        run_cons.mpr ⟨_, step_deliver rfl 0, rfl⟩⟩⟩⟩⟩⟩⟩⟩
  refine ⟨_, hrun, (no_enrolment_lost_iff .new newConnector enrolledAfter _ hrun rfl rfl).mpr ?_⟩
  intro c hc _
  obtain rfl := List.mem_singleton.mp hc
  refine ⟨by decide, Or.inr ?_⟩
  -- the sixth step sends it
  refine Or.inr ⟨_, rfl, Or.inr ⟨_, rfl, Or.inr ⟨_, rfl, Or.inr ⟨_, rfl, Or.inr ⟨_, rfl,
    Or.inl ⟨rfl, 0, agent1, rfl, rfl, rfl⟩⟩⟩⟩⟩⟩

/-- An agent enrols between the reading of the list and its sending: the list wipes it
out. -/
def enrolledBetween : List Event :=
  [.addClient, .readAgents, .notify agent1, .snapshotClients 0, .sendAllow 0, .sendAllowlist,
    .deliver 0, .deliver 0]

theorem enrolledBetween_lost :
    ∃ s, run State.step (.init .new newConnector) enrolledBetween = some s ∧
      s.connect = .finished ∧ s.stream = [] ∧ s.calls = [⟨agent1, .finished⟩] ∧
      agent1.spiffeId ∉ s.connector.allowlist := by
  refine ⟨⟨.add .new agent1.id agent1.spiffeId, .finished, [⟨agent1, .finished⟩], [],
    { newConnector with allowlist := .replace [] }⟩, ?_, rfl, rfl, rfl, by decide⟩
  exact run_cons.mpr ⟨_, rfl, run_cons.mpr ⟨_, rfl, run_cons.mpr ⟨_, rfl, run_cons.mpr ⟨_, rfl,
    run_cons.mpr ⟨_, rfl, run_cons.mpr ⟨_, rfl, run_cons.mpr ⟨_, step_deliver rfl 0,
      run_cons.mpr ⟨_, step_deliver rfl 0, rfl⟩⟩⟩⟩⟩⟩⟩⟩

end ZeroTrust.ControlPlane.Allowlist
