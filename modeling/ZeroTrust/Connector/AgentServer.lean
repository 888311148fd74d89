/-
# `ZeroTrust.Connector.AgentServer` — the agents' side of the connector

`control_plane.rs` of the connector, with the `AgentRegistry` of `main.rs`.  Every agent
stream is a task of its own; the tasks share the allowlist and the policy cache with the
handler of the controller's messages, and the channel to the controller among themselves.

    connect          the peer's SPIFFE ID is verified and in the allowlist, or no stream
    ping             answered on the agent's own stream
    agent_heartbeat  the agent's status, into the registry
    agent_request    decided by the policy cache; the decision goes to the controller
    agent_log        goes to the controller as it came
    end of a stream  the agent leaves the registry

The tasks interleave freely, and a task waits where the channel to the controller is full.

    `registry_last_report`  the registry has of each agent what was reported last, unless
                            a stream of the agent ended since
    `registry_admitted`     and it has no agent without an open, admitted stream
    `decisions_merge`       the channel carries the decisions of the streams, each once
                            and in the order of its stream
-/
import ZeroTrust.Lib.Interleave
import ZeroTrust.Connector.FailClosed
import ZeroTrust.Connector.Handler
import ZeroTrust.ControlPlane.Allowlist
import ZeroTrust.ControlPlane.ReceiveLoop
import ZeroTrust.ControlPlane.SpiffeIds

namespace ZeroTrust.Connector.AgentServer

open Lib
open ControlPlane.SpiffeIds (verifySpiffeUri agentIdFromSpiffe spiffeID)

/-- The message of the protocol, with all its fields. -/
abbrev Message := ControlPlane.ReceiveLoop.ControlMessage

/-! ## Requests and decisions -/

structure AgentRequest where
  destination : String
  protocol : String
  port : UInt16

def AgentRequest.ofJson (j : Json) : Option AgentRequest := do
  let kvs ← structFields ["destination", "protocol", "port"] j
  let destination ← required decodeString "destination" kvs
  let protocol ← required decodeString "protocol" kvs
  let port ← required decodeU16 "port" kvs
  some { destination, protocol, port }

structure DecisionPayload where
  agentId : String
  spiffeId : String
  resourceId : String
  destination : String
  protocol : String
  port : UInt16
  decision : String
  reason : String
  connectorId : String
  deriving DecidableEq

def DecisionPayload.toJson (p : DecisionPayload) : Json :=
  .obj [("agent_id", .str p.agentId), ("spiffe_id", .str p.spiffeId),
    ("resource_id", .str p.resourceId), ("destination", .str p.destination),
    ("protocol", .str p.protocol), ("port", .num p.port.toNat), ("decision", .str p.decision),
    ("reason", .str p.reason), ("connector_id", .str p.connectorId)]

/-- `serde_json::to_vec`. -/
def jsonVec (j : Json) : ByteArray := (String.ofList (Json.render serdeEscape j)).toUTF8

def sendDecision (p : DecisionPayload) : Message :=
  { type := "acl_decision", payload := jsonVec p.toJson }

def decisionName (allowed : Bool) : String := if allowed then "allow" else "deny"

/-- The decision on a request; `none` is the panic of `allowed`. -/
def decideRequest {L : Libraries} (acl : PolicyCache L) (spiffeId agentId connectorId : String)
    (payload : ByteArray) (now : SystemTime) : Option DecisionPayload :=
  match parseSlice AgentRequest.ofJson payload with
  | none =>
      some { agentId, spiffeId, resourceId := "", destination := "", protocol := "", port := 0,
             decision := decisionName false, reason := "invalid_request", connectorId }
  | some req =>
      (acl.allowed spiffeId req.destination req.protocol req.port now).map
        fun (allowed, resourceId, reason) =>
          { agentId, spiffeId, resourceId, destination := req.destination,
            protocol := req.protocol, port := req.port, decision := decisionName allowed,
            reason, connectorId }

/-! ## The registry of the agents -/

structure AgentStatusEntry where
  agentId : String
  status : String
  deriving DecidableEq

def AgentStatusEntry.toJson (e : AgentStatusEntry) : Json :=
  .obj [("agent_id", .str e.agentId), ("status", .str e.status)]

/-- Tracks the last-known status of each connected agent. -/
abbrev AgentRegistry := Table AgentStatusEntry.agentId

namespace AgentRegistry

def update (r : AgentRegistry) (agentId status : String) : AgentRegistry := r.put ⟨agentId, status⟩

def remove (r : AgentRegistry) (agentId : String) : AgentRegistry :=
  r.filter fun e => e.agentId ≠ agentId

def snapshot (r : AgentRegistry) : List AgentStatusEntry := r.rows

/-- The status of an agent, if it has one. -/
def status (r : AgentRegistry) (agentId : String) : Option String :=
  (r.get agentId).map AgentStatusEntry.status

theorem status_update (r : AgentRegistry) (agentId status id : String) :
    (r.update agentId status).status id = if id = agentId then some status else r.status id := by
  unfold AgentRegistry.status update
  rw [Table.get_put]
  split <;> rfl

theorem status_remove (r : AgentRegistry) (agentId id : String) :
    (r.remove agentId).status id = if id = agentId then none else r.status id := by
  unfold AgentRegistry.status remove
  rw [Table.get_filter_ne]
  split <;> rfl

theorem mem_snapshot {r : AgentRegistry} {e : AgentStatusEntry} :
    e ∈ r.snapshot ↔ r.status e.agentId = some e.status := by
  unfold snapshot AgentRegistry.status
  constructor
  · intro he
    rw [Table.get_of_mem he, Option.map_some]
  · intro h
    obtain ⟨⟨id, st⟩, hget, hstatus⟩ := Option.map_eq_some_iff.mp h
    obtain ⟨hmem, hid⟩ := Table.mem_of_get hget
    obtain ⟨agentId, status⟩ := e
    obtain rfl : id = agentId := hid
    obtain rfl : st = status := hstatus
    exact hmem

end AgentRegistry

/-! ## The tasks -/

structure Settings where
  connectorId : String
  trustDomain : String
  privateIp : String

/-- Where the task of an agent stream stands. -/
inductive Phase where
  | selecting
  /-- Waiting for room in `send_ch`. -/
  | sending (msg : Message)
  | closed
  /-- Gone in a panic, without the lines after its loop. -/
  | panicked

structure Stream where
  spiffeId : String
  agentId : String
  phase : Phase

/-- `sendCh` is what was sent to the control plane and not received there yet. -/
structure State (L : Libraries) where
  handler : HandlerState L
  agentRegistry : AgentRegistry
  streams : List Stream
  sendCh : List Message

/-- `mpsc::channel::<ControlMessage>(16)`. -/
def capacity : Nat := 16

inductive Event where
  /-- A message of the controller. -/
  | control (msg : ControlMessage) (now : SystemTime)
  | setSigningKey (key : List UInt8)
  /-- An agent connects; the SPIFFE ID of its certificate, if there is one. -/
  | connect (peer : Option String)
  | message (i : Nat) (msg : Message) (now : SystemTime)
  | put (i : Nat)
  | close (i : Nat)
  /-- The control loop takes a message from the channel. -/
  | recv

/-- The stream that is opened; `none` is a refusal. -/
def connect (cfg : Settings) (allowlist : AgentAllowlist) (peer : Option String) :
    Option Stream :=
  match peer with
  | none => none
  | some spiffeId =>
      match verifySpiffeUri spiffeId cfg.trustDomain "tunneler" with
      | .error _ => none
      | .ok _ =>
          if allowlist.allowed spiffeId then
            some { spiffeId, agentId := (agentIdFromSpiffe spiffeId).getD "unknown",
                   phase := .selecting }
          else none

variable {L : Libraries}

/-- A message of an agent: the registry after it, and where its task is then. -/
def handleAgentMessage (cfg : Settings) (acl : PolicyCache L) (registry : AgentRegistry)
    (stream : Stream) (msg : Message) (now : SystemTime) : AgentRegistry × Phase :=
  if msg.type = "agent_heartbeat" then
    let status := if msg.status = "" then "ONLINE" else msg.status
    (registry.update stream.agentId status, .selecting)
  else if msg.type = "agent_request" then
    match decideRequest acl stream.spiffeId stream.agentId cfg.connectorId msg.payload now with
    | some p => (registry, .sending (sendDecision p))
    | none => (registry, .panicked)
  else if msg.type = "agent_log" then (registry, .sending msg)
  -- a ping too: its answer waits for nobody but the agent
  else (registry, .selecting)

def setPhase (s : State L) (i : Nat) (stream : Stream) (phase : Phase) : State L :=
  { s with streams := s.streams.set i { stream with phase } }

def step (cfg : Settings) (s : State L) : Event → Option (State L)
  | .control msg now =>
      (handleControlMessage s.handler msg now).map fun handler => { s with handler }
  | .setSigningKey key =>
      some { s with handler := { s.handler with acl := s.handler.acl.setSigningKey key } }
  | .connect peer =>
      match connect cfg s.handler.allowlist peer with
      | some stream => some { s with streams := s.streams ++ [stream] }
      | none => some s
  | .message i msg now =>
      match s.streams[i]? with
      | some ⟨spiffeId, agentId, .selecting⟩ =>
          let stream := ⟨spiffeId, agentId, .selecting⟩
          let (agentRegistry, phase) :=
            handleAgentMessage cfg s.handler.acl s.agentRegistry stream msg now
          some { setPhase s i stream phase with agentRegistry }
      | _ => none
  | .put i =>
      match s.streams[i]? with
      | some ⟨spiffeId, agentId, .sending msg⟩ =>
          if s.sendCh.length < capacity then
            some { setPhase s i ⟨spiffeId, agentId, .sending msg⟩ .selecting with
              sendCh := s.sendCh ++ [msg] }
          else none
      | _ => none
  | .close i =>
      match s.streams[i]? with
      | some ⟨spiffeId, agentId, .selecting⟩ =>
          some { setPhase s i ⟨spiffeId, agentId, .selecting⟩ .closed with
            agentRegistry := s.agentRegistry.remove agentId }
      | _ => none
  | .recv =>
      match s.sendCh with
      | _ :: rest => some { s with sendCh := rest }
      | [] => none

/-- A connector that has just started. -/
def State.start (L : Libraries) (policyKey : List UInt8) (staleGrace : Duration) : State L where
  handler :=
    { allowlist := ∅, acl := .new L policyKey staleGrace, latestFwPolicy := none,
      firewallTx := [] }
  agentRegistry := ∅
  streams := []
  sendCh := []

/-- What the control loop sends every ten seconds. -/
def heartbeat (cfg : Settings) (s : State L) : Message where
  type := "heartbeat"
  payload := jsonVec (.arr (s.agentRegistry.snapshot.map AgentStatusEntry.toJson))
  connectorId := cfg.connectorId
  privateIp := cfg.privateIp
  status := "ONLINE"

/-- A stream that is opened: its SPIFFE ID is an agent's, and in the allowlist. -/
structure Opened (cfg : Settings) (allowlist : AgentAllowlist) (peer : Option String)
    (stream : Stream) : Prop where
  peer : peer = some stream.spiffeId
  verified : ∃ id, verifySpiffeUri stream.spiffeId cfg.trustDomain "tunneler" = .ok id
  allowed : allowlist.allowed stream.spiffeId = true
  agentId : stream.agentId = (agentIdFromSpiffe stream.spiffeId).getD "unknown"
  selecting : stream.phase = .selecting

theorem connect_spec {cfg : Settings} {allowlist : AgentAllowlist} {peer : Option String}
    {stream : Stream} (h : connect cfg allowlist peer = some stream) :
    Opened cfg allowlist peer stream := by
  unfold connect at h
  split at h
  · cases h
  next spiffeId =>
    split at h
    · cases h
    next id hverified =>
      simp only [Option.ite_none_right_eq_some, Option.some.injEq] at h
      obtain ⟨hallowed, rfl⟩ := h
      exact ⟨rfl, ⟨id, hverified⟩, hallowed, rfl, rfl⟩

/-- An enrolled agent that is in the allowlist gets its stream, under its own id. -/
theorem connect_spiffeID {cfg : Settings} {allowlist : AgentAllowlist} {id : String}
    (hdomain : ControlPlane.SpiffeIds.validDomain cfg.trustDomain = true)
    (hid : Controller.EnrolmentTokens.validId id = true)
    (hallowed : spiffeID cfg.trustDomain .tunneler id ∈ allowlist) :
    connect cfg allowlist (some (spiffeID cfg.trustDomain .tunneler id)) =
      some ⟨spiffeID cfg.trustDomain .tunneler id, id, .selecting⟩ := by
  have hverified : verifySpiffeUri (spiffeID cfg.trustDomain .tunneler id) cfg.trustDomain
      "tunneler" = .ok (spiffeID cfg.trustDomain .tunneler id) :=
    (ControlPlane.SpiffeIds.verifySpiffeUri_spiffeID hdomain hid _ _).mpr ⟨rfl, Or.inl rfl⟩
  have hagent : agentIdFromSpiffe (spiffeID cfg.trustDomain .tunneler id) = some id :=
    (ControlPlane.SpiffeIds.idFromSpiffe_spiffeID .tunneler hdomain hid).trans (if_pos rfl)
  have hmember : allowlist.allowed (spiffeID cfg.trustDomain .tunneler id) = true :=
    decide_eq_true hallowed
  simp only [connect, hverified, hmember, hagent, if_true, Option.getD_some]

/-- What a step is. -/
theorem step_spec {cfg : Settings} {s s' : State L} {e : Event} (h : step cfg s e = some s') :
    match e with
    | .control msg now => ∃ handler, handleControlMessage s.handler msg now = some handler ∧
        s' = { s with handler }
    | .setSigningKey key =>
        s' = { s with handler := { s.handler with acl := s.handler.acl.setSigningKey key } }
    | .connect peer =>
        (∃ stream, connect cfg s.handler.allowlist peer = some stream ∧
          s' = { s with streams := s.streams ++ [stream] }) ∨
        connect cfg s.handler.allowlist peer = none ∧ s' = s
    | .message i msg now => ∃ stream, s.streams[i]? = some stream ∧ stream.phase = .selecting ∧
        s' = { setPhase s i stream
            (handleAgentMessage cfg s.handler.acl s.agentRegistry stream msg now).2 with
          agentRegistry :=
            (handleAgentMessage cfg s.handler.acl s.agentRegistry stream msg now).1 }
    | .put i => ∃ stream msg, s.streams[i]? = some stream ∧ stream.phase = .sending msg ∧
        s.sendCh.length < capacity ∧
        s' = { setPhase s i stream .selecting with sendCh := s.sendCh ++ [msg] }
    | .close i => ∃ stream, s.streams[i]? = some stream ∧ stream.phase = .selecting ∧
        s' = { setPhase s i stream .closed with
          agentRegistry := s.agentRegistry.remove stream.agentId }
    | .recv => ∃ msg rest, s.sendCh = msg :: rest ∧ s' = { s with sendCh := rest } := by
  cases e with
  | control msg now =>
      obtain ⟨handler, hhandle, rfl⟩ := Option.map_eq_some_iff.mp h
      exact ⟨handler, hhandle, rfl⟩
  | setSigningKey key => exact (Option.some.inj h).symm
  | connect peer =>
      simp only [step] at h
      split at h
      next stream hconnect => exact Or.inl ⟨stream, hconnect, (Option.some.inj h).symm⟩
      next hrefused => exact Or.inr ⟨hrefused, (Option.some.inj h).symm⟩
  | message i msg now =>
      simp only [step] at h
      split at h
      next hstream => exact ⟨_, hstream, rfl, (Option.some.inj h).symm⟩
      · cases h
  | put i =>
      simp only [step] at h
      split at h
      next hstream =>
        simp only [Option.ite_none_right_eq_some, Option.some.injEq] at h
        exact ⟨_, _, hstream, rfl, h.1, h.2.symm⟩
      · cases h
  | close i =>
      simp only [step] at h
      split at h
      next hstream => exact ⟨_, hstream, rfl, (Option.some.inj h).symm⟩
      · cases h
  | recv =>
      simp only [step] at h
      split at h
      next hsend => exact ⟨_, _, hsend, (Option.some.inj h).symm⟩
      · cases h

@[simp] theorem streams_setPhase (s : State L) (i : Nat) (stream : Stream) (phase : Phase) :
    (setPhase s i stream phase).streams = s.streams.set i { stream with phase } := rfl

/-- The stream of a step, and the others. -/
theorem getElem?_setPhase {s : State L} {i : Nat} {stream : Stream}
    (h : s.streams[i]? = some stream) (phase : Phase) (j : Nat) :
    (s.streams.set i { stream with phase })[j]? =
      if i = j then some { stream with phase } else s.streams[j]? := by
  rw [List.getElem?_set]
  split
  · rw [if_pos (List.getElem?_eq_some_iff.mp h).1]
  · rfl

/-! ## The registry -/

/-- What an event reports of an agent: its status, or that a stream of it ended. -/
def agentReports (id : String) (s : State L) : Event → List (Option String)
  | .message i msg _ =>
      match s.streams[i]? with
      | some stream =>
          if stream.agentId = id ∧ msg.type = "agent_heartbeat" then
            [some (if msg.status = "" then "ONLINE" else msg.status)]
          else []
      | none => []
  | .close i =>
      match s.streams[i]? with
      | some stream => if stream.agentId = id then [none] else []
      | none => []
  | _ => []

theorem handleAgentMessage_registry (cfg : Settings) (acl : PolicyCache L)
    (registry : AgentRegistry) (stream : Stream) (msg : Message) (now : SystemTime) :
    (handleAgentMessage cfg acl registry stream msg now).1 =
      if msg.type = "agent_heartbeat" then
        registry.update stream.agentId (if msg.status = "" then "ONLINE" else msg.status)
      else registry := by
  unfold handleAgentMessage
  split
  · rfl
  · split
    · split <;> rfl
    · split <;> rfl

/-- One step: the status that is reported, or the one before. -/
theorem status_step {cfg : Settings} {s s' : State L} {e : Event} (id : String)
    (h : step cfg s e = some s') :
    s'.agentRegistry.status id =
      (agentReports id s e).getLast?.getD (s.agentRegistry.status id) := by
  have hspec := step_spec h
  cases e with
  | control msg now =>
      obtain ⟨handler, -, rfl⟩ := hspec
      rfl
  | setSigningKey key =>
      cases hspec
      rfl
  | connect peer => obtain ⟨stream, -, rfl⟩ | ⟨-, rfl⟩ := hspec <;> rfl
  | message i msg now =>
      obtain ⟨stream, hstream, -, rfl⟩ := hspec
      simp only [agentReports, hstream, handleAgentMessage_registry]
      by_cases htype : msg.type = "agent_heartbeat"
      · rw [if_pos htype, AgentRegistry.status_update]
        by_cases hid : stream.agentId = id
        · simp [htype, hid]
        · simp [hid, Ne.symm hid]
      · simp [htype]
  | put i =>
      obtain ⟨stream, msg, -, -, -, rfl⟩ := hspec
      rfl
  | close i =>
      obtain ⟨stream, hstream, -, rfl⟩ := hspec
      simp only [agentReports, hstream, AgentRegistry.status_remove]
      by_cases hid : stream.agentId = id
      · simp [hid]
      · simp [hid, Ne.symm hid]
  | recv =>
      obtain ⟨msg, rest, -, rfl⟩ := hspec
      rfl

/-- **The registry is up to date.**  After any run it has of an agent what was reported of it
last: the status of its last heartbeat, unless a stream of it ended since. -/
theorem registry_last_report (cfg : Settings) (policyKey : List UInt8) (staleGrace : Duration)
    (es : List Event) (s : State L)
    (hrun : run (step cfg) (.start L policyKey staleGrace) es = some s) (id : String) :
    s.agentRegistry.status id =
      (outputs (step cfg) (agentReports id) (.start L policyKey staleGrace) es).getLast?.getD
        none :=
  getLast?_outputs (fun s => s.agentRegistry.status id) (fun _ _ _ h => status_step id h) hrun

/-! ## The streams -/

/-- What holds of every state. -/
structure Inv (s : State L) : Prop where
  served : PolicyCache.OfSnapshot s.handler.acl.staleGrace s.handler.acl.inner
  running : ∀ stream ∈ s.streams, stream.phase ≠ .panicked
  /-- An agent of the registry has a stream that did not end. -/
  listed : ∀ id, s.agentRegistry.status id ≠ none →
    ∃ (i : Nat) (stream : Stream), s.streams[i]? = some stream ∧ stream.agentId = id ∧
      stream.phase ≠ .closed

theorem inv_start (policyKey : List UInt8) (staleGrace : Duration) :
    Inv (State.start L policyKey staleGrace) where
  served := Or.inl rfl
  running _ h := absurd h List.not_mem_nil
  listed _ h := absurd rfl h

theorem allowed_ne_none {acl : PolicyCache L}
    (h : PolicyCache.OfSnapshot acl.staleGrace acl.inner) (identity dest protocol : String)
    (port : UInt16) (now : SystemTime) : acl.allowed identity dest protocol port now ≠ none := by
  unfold PolicyCache.allowed
  rcases h with hdefault | ⟨snap, validUntil, hindex, hfits⟩
  · simp [hdefault, Inner.default]
  · simp only [hindex, PolicyCache.hasSnapshot_indexSnapshot,
      PolicyCache.validUntil_indexSnapshot, hfits, Bool.not_true, Bool.false_eq_true, if_false]
    split <;> exact Option.some_ne_none _

theorem decideRequest_ne_none {acl : PolicyCache L}
    (h : PolicyCache.OfSnapshot acl.staleGrace acl.inner) (spiffeId agentId connectorId : String)
    (payload : ByteArray) (now : SystemTime) :
    decideRequest acl spiffeId agentId connectorId payload now ≠ none := by
  unfold decideRequest
  split
  · exact Option.some_ne_none _
  next req _ =>
    rw [Ne, Option.map_eq_none_iff]
    exact allowed_ne_none h spiffeId req.destination req.protocol req.port now

theorem handleAgentMessage_phase (cfg : Settings) {acl : PolicyCache L}
    (h : PolicyCache.OfSnapshot acl.staleGrace acl.inner) (registry : AgentRegistry)
    (stream : Stream) (msg : Message) (now : SystemTime) :
    (handleAgentMessage cfg acl registry stream msg now).2 ≠ .panicked ∧
      (handleAgentMessage cfg acl registry stream msg now).2 ≠ .closed := by
  unfold handleAgentMessage
  split
  · exact ⟨nofun, nofun⟩
  split
  · split
    · exact ⟨nofun, nofun⟩
    next hnone => exact absurd hnone (decideRequest_ne_none h _ _ _ _ _)
  split <;> exact ⟨nofun, nofun⟩

section Step

variable {cfg : Settings} {s s' : State L} {i : Nat} {stream : Stream} {phase : Phase}

theorem running_set (h : ∀ stream ∈ s.streams, stream.phase ≠ .panicked)
    (hphase : phase ≠ .panicked) :
    ∀ st ∈ s.streams.set i { stream with phase }, st.phase ≠ .panicked := by
  intro st hst
  rcases List.mem_or_eq_of_mem_set hst with hst | rfl
  · exact h st hst
  · exact hphase

/-- The streams that did not end, where one of them moves on. -/
theorem listed_set {id : String}
    (h : ∃ (j : Nat) (st : Stream), s.streams[j]? = some st ∧ st.agentId = id ∧
      st.phase ≠ .closed)
    (hstream : s.streams[i]? = some stream) (hphase : phase ≠ .closed ∨ stream.agentId ≠ id) :
    ∃ (j : Nat) (st : Stream), (s.streams.set i { stream with phase })[j]? = some st ∧
      st.agentId = id ∧ st.phase ≠ .closed := by
  obtain ⟨j, st, hst, hid, hopen⟩ := h
  by_cases hij : i = j
  · subst hij
    obtain rfl : stream = st := Option.some.inj (hstream.symm.trans hst)
    refine ⟨i, { stream with phase }, ?_, hid, hphase.resolve_right fun hne => hne hid⟩
    rw [getElem?_setPhase hstream, if_pos rfl]
  · exact ⟨j, st, by rw [getElem?_setPhase hstream, if_neg hij, hst], hid, hopen⟩

theorem inv_step {e : Event} (hinv : Inv s) (h : step cfg s e = some s') : Inv s' := by
  have hspec := step_spec h
  cases e with
  | control msg now =>
      obtain ⟨handler, hhandle, rfl⟩ := hspec
      refine ⟨?_, hinv.running, hinv.listed⟩
      rcases handleControlMessage_acl hhandle with hsame | ⟨snap, ok, -, -, hreplace⟩
      · show PolicyCache.OfSnapshot handler.acl.staleGrace handler.acl.inner
        rw [hsame]
        exact hinv.served
      · have hgrace := PolicyCache.replaceSnapshot_staleGrace hreplace
        show PolicyCache.OfSnapshot handler.acl.staleGrace handler.acl.inner
        rw [hgrace]
        exact PolicyCache.replaceSnapshot_ofSnapshot hreplace
  | setSigningKey key =>
      cases hspec
      obtain ⟨hinner, hgrace⟩ := PolicyCache.setSigningKey_inner s.handler.acl key
      refine ⟨?_, hinv.running, hinv.listed⟩
      show PolicyCache.OfSnapshot (s.handler.acl.setSigningKey key).staleGrace
        (s.handler.acl.setSigningKey key).inner
      rw [hinner, hgrace]
      exact hinv.served
  | connect peer =>
      obtain ⟨stream, hconnect, rfl⟩ | ⟨-, rfl⟩ := hspec
      · refine ⟨hinv.served, ?_, ?_⟩
        · intro st hst
          rcases List.mem_append.mp hst with hst | hst
          · exact hinv.running st hst
          · rw [List.mem_singleton.mp hst, (connect_spec hconnect).selecting]
            exact nofun
        · intro id hid
          obtain ⟨j, st, hst, hrest⟩ := hinv.listed id hid
          exact ⟨j, st, List.getElem?_append_left (List.getElem?_eq_some_iff.mp hst).1 ▸ hst,
            hrest⟩
      · exact hinv
  | message i msg now =>
      obtain ⟨stream, hstream, hselecting, rfl⟩ := hspec
      obtain ⟨hpanicked, hclosed⟩ := handleAgentMessage_phase cfg hinv.served s.agentRegistry
        stream msg now
      refine ⟨hinv.served, running_set hinv.running hpanicked, ?_⟩
      intro id hid
      refine listed_set ?_ hstream (Or.inl hclosed)
      by_cases hself : stream.agentId = id
      · exact ⟨i, stream, hstream, hself, by simp [hselecting]⟩
      · refine hinv.listed id fun hnone => hid ?_
        simp only [handleAgentMessage_registry]
        split
        · rw [AgentRegistry.status_update, if_neg (Ne.symm hself), hnone]
        · exact hnone
  | put i =>
      obtain ⟨stream, msg, hstream, -, -, rfl⟩ := hspec
      exact ⟨hinv.served, running_set hinv.running nofun,
        fun id hid => listed_set (hinv.listed id hid) hstream (Or.inl nofun)⟩
  | close i =>
      obtain ⟨stream, hstream, -, rfl⟩ := hspec
      refine ⟨hinv.served, running_set hinv.running nofun, ?_⟩
      intro id hid
      simp only [AgentRegistry.status_remove, Ne, ite_eq_left_iff, not_forall] at hid
      obtain ⟨hother, hid⟩ := hid
      exact listed_set (hinv.listed id hid) hstream (Or.inr (Ne.symm hother))
  | recv =>
      obtain ⟨msg, rest, -, rfl⟩ := hspec
      exact ⟨hinv.served, hinv.running, hinv.listed⟩

end Step

/-! ## Who is admitted -/

section Runs

variable {cfg : Settings} {start s : State L} {es : List Event}

/-- In the course of the events a stream was opened for the SPIFFE ID, which was verified
and in the allowlist of the moment. -/
def Admitted (cfg : Settings) (start : State L) (es : List Event) (spiffeId agentId : String) :
    Prop :=
  ∃ pre post u stream, es = pre ++ .connect (some spiffeId) :: post ∧
    run (step cfg) start pre = some u ∧
    Opened cfg u.handler.allowlist (some spiffeId) stream ∧
    stream.spiffeId = spiffeId ∧ stream.agentId = agentId

theorem Admitted.concat {spiffeId agentId : String}
    (h : Admitted cfg start es spiffeId agentId) (e : Event) :
    Admitted cfg start (es ++ [e]) spiffeId agentId := by
  obtain ⟨pre, post, u, stream, rfl, hrest⟩ := h
  exact ⟨pre, post ++ [e], u, stream, by simp, hrest⟩

/-- The streams are those that connected; only their phases change. -/
theorem streams_step {e : Event} {s' : State L} (h : step cfg s e = some s')
    {stream : Stream} (hstream : stream ∈ s'.streams) :
    (∃ st ∈ s.streams, st.spiffeId = stream.spiffeId ∧ st.agentId = stream.agentId) ∨
      e = .connect (some stream.spiffeId) ∧
        Opened cfg s.handler.allowlist (some stream.spiffeId) stream := by
  have hspec := step_spec h
  have hset : ∀ (i : Nat) (old : Stream) (phase : Phase), s.streams[i]? = some old →
      stream ∈ s.streams.set i { old with phase } →
      ∃ st ∈ s.streams, st.spiffeId = stream.spiffeId ∧ st.agentId = stream.agentId := by
    intro i old phase hold hmem
    rcases List.mem_or_eq_of_mem_set hmem with hmem | rfl
    · exact ⟨stream, hmem, rfl, rfl⟩
    · exact ⟨old, List.mem_of_getElem? hold, rfl, rfl⟩
  cases e with
  | control msg now =>
      obtain ⟨handler, -, rfl⟩ := hspec
      exact Or.inl ⟨stream, hstream, rfl, rfl⟩
  | setSigningKey key =>
      cases hspec
      exact Or.inl ⟨stream, hstream, rfl, rfl⟩
  | connect peer =>
      obtain ⟨opened, hconnect, rfl⟩ | ⟨-, rfl⟩ := hspec
      · rcases List.mem_append.mp hstream with hold | hnew
        · exact Or.inl ⟨stream, hold, rfl, rfl⟩
        · obtain rfl := List.mem_singleton.mp hnew
          have hopened := connect_spec hconnect
          obtain rfl := hopened.peer
          exact Or.inr ⟨rfl, hopened⟩
      · exact Or.inl ⟨stream, hstream, rfl, rfl⟩
  | message i msg now =>
      obtain ⟨old, hold, -, rfl⟩ := hspec
      exact Or.inl (hset i old _ hold hstream)
  | put i =>
      obtain ⟨old, msg, hold, -, -, rfl⟩ := hspec
      exact Or.inl (hset i old _ hold hstream)
  | close i =>
      obtain ⟨old, hold, -, rfl⟩ := hspec
      exact Or.inl (hset i old _ hold hstream)
  | recv =>
      obtain ⟨msg, rest, -, rfl⟩ := hspec
      exact Or.inl ⟨stream, hstream, rfl, rfl⟩

/-- Every stream was admitted when it was opened. -/
theorem admitted_run (hstart : start.streams = []) (hrun : run (step cfg) start es = some s) :
    ∀ stream ∈ s.streams, Admitted cfg start es stream.spiffeId stream.agentId := by
  refine run_history (motive := fun es s => ∀ stream ∈ s.streams,
    Admitted cfg start es stream.spiffeId stream.agentId) ?_ ?_ hrun
  · intro stream hstream
    rw [hstart] at hstream
    cases hstream
  · intro es s e s' hrun ih hstep stream hstream
    rcases streams_step hstep hstream with ⟨st, hst, hspiffe, hagent⟩ | ⟨rfl, hopened⟩
    · rw [← hspiffe, ← hagent]
      exact (ih st hst).concat e
    · exact ⟨es, [], s, stream, rfl, hrun, hopened, rfl, rfl⟩

/-- **The agents a connector reports** are agents with an open stream, whose SPIFFE ID was
verified and in the allowlist when the stream was opened; and no task of a stream panicked. -/
theorem registry_admitted (cfg : Settings) (policyKey : List UInt8) (staleGrace : Duration)
    (es : List Event) (s : State L)
    (hrun : run (step cfg) (.start L policyKey staleGrace) es = some s) :
    (∀ stream ∈ s.streams, stream.phase ≠ .panicked) ∧
    ∀ entry ∈ s.agentRegistry.snapshot, ∃ stream ∈ s.streams, stream.agentId = entry.agentId ∧
      stream.phase ≠ .closed ∧
      Admitted cfg (.start L policyKey staleGrace) es stream.spiffeId stream.agentId := by
  have hinv : Inv s := run_invariant (fun _ _ _ h hstep => inv_step h hstep)
    (inv_start policyKey staleGrace) hrun
  refine ⟨hinv.running, fun entry hentry => ?_⟩
  have hstatus := AgentRegistry.mem_snapshot.mp hentry
  obtain ⟨i, stream, hstream, hid, hopen⟩ := hinv.listed entry.agentId
    (by rw [hstatus]; exact Option.some_ne_none _)
  have hmem := List.mem_of_getElem? hstream
  exact ⟨stream, hmem, hid, hopen, admitted_run rfl hrun stream hmem⟩

end Runs

/-! ## An agent that connects -/

namespace Enrolled

def peer : String := spiffeID "example.org" .tunneler "agent-1"

def settings : Settings := ⟨"con-1", "example.org", "10.0.0.1"⟩

def allow : Event :=
  .control (ControlPlane.Allowlist.Message.agentAllow ⟨"agent-1", peer⟩).encode 0

/-- The connector once the agent is allowed. -/
def server (agentRegistry : AgentRegistry) (streams : List Stream) (sendCh : List Message) :
    State (.recorded []) where
  handler :=
    { (State.start (.recorded []) [] 0).handler with
      allowlist := ControlPlane.Allowlist.Message.effect ∅ (.agentAllow ⟨"agent-1", peer⟩) }
  agentRegistry := agentRegistry
  streams := streams
  sendCh := sendCh

theorem allow_step : step settings (.start (.recorded []) [] 0) allow = some (server ∅ [] []) := by
  simp only [step, allow, ControlPlane.Allowlist.handleControlMessage_encode]
  rfl

theorem connect_step : step settings (server ∅ [] []) (.connect (some peer)) =
    some (server ∅ [⟨peer, "agent-1", .selecting⟩] []) := by
  have hconnects : connect settings (server ∅ [] []).handler.allowlist (some peer) =
      some ⟨peer, "agent-1", .selecting⟩ :=
    connect_spiffeID (by decide) (by decide)
      (ControlPlane.Allowlist.mem_add.mpr (Or.inr ⟨by decide, rfl⟩))
  simp only [step, hconnects]
  rfl

def beat : Message := { type := "agent_heartbeat", status := "DEGRADED" }

/-- The agent is allowed, connects and sends a heartbeat. -/
def events : List Event := [allow, .connect (some peer), .message 0 beat 0]

theorem run_events : run (step settings) (.start (.recorded []) [] 0) events =
    some (server (AgentRegistry.update ∅ "agent-1" "DEGRADED")
      [⟨peer, "agent-1", .selecting⟩] []) := by
  refine run_cons.mpr ⟨_, allow_step, run_cons.mpr ⟨_, connect_step, ?_⟩⟩
  refine run_cons.mpr ⟨_, ?_, rfl⟩
  simp only [step, server, List.getElem?_cons_zero, handleAgentMessage, beat]
  rfl

end Enrolled

theorem enrolled_last_report : ∃ s,
    run (step Enrolled.settings) (.start (.recorded []) [] 0) Enrolled.events = some s ∧
    s.agentRegistry.status "agent-1" = some "DEGRADED" ∧
    (outputs (step Enrolled.settings) (agentReports "agent-1") (.start (.recorded []) [] 0)
      Enrolled.events).getLast?.getD none = some "DEGRADED" := by
  have hstatus : ((AgentRegistry.update ∅ "agent-1" "DEGRADED").status "agent-1") =
      some "DEGRADED" := AgentRegistry.status_update ..
  refine ⟨_, Enrolled.run_events, hstatus, ?_⟩
  rw [← registry_last_report Enrolled.settings [] 0 Enrolled.events _ Enrolled.run_events]
  exact hstatus

theorem enrolled_admitted : ∃ s,
    run (step Enrolled.settings) (.start (.recorded []) [] 0) Enrolled.events = some s ∧
    ∃ stream ∈ s.streams, stream.agentId = "agent-1" ∧ stream.phase ≠ .closed ∧
      Admitted Enrolled.settings (.start (.recorded []) [] 0) Enrolled.events stream.spiffeId
        stream.agentId := by
  have hadmitted := (registry_admitted Enrolled.settings [] 0 Enrolled.events _
    Enrolled.run_events).2
  exact ⟨_, Enrolled.run_events, hadmitted ⟨"agent-1", "DEGRADED"⟩
    (AgentRegistry.mem_snapshot.mpr (AgentRegistry.status_update ..))⟩

/-! ## The decisions on their way -/

/-- The decisions that a stream's task makes. -/
def decisions (cfg : Settings) (i : Nat) (s : State L) : Event → List DecisionPayload
  | .message j msg now =>
      match s.streams[j]? with
      | some stream =>
          if j = i ∧ msg.type = "agent_request" then
            (decideRequest s.handler.acl stream.spiffeId stream.agentId cfg.connectorId
              msg.payload now).toList
          else []
      | none => []
  | _ => []

/-- What the control loop takes from the channel. -/
def taken (s : State L) : Event → List Message
  | .recv => s.sendCh.take 1
  | _ => []

def isDecision (msg : Message) : Bool := msg.type = "acl_decision"

/-- The decision that a task waits with. -/
def Phase.pending : Phase → List Message
  | .sending msg => if isDecision msg then [msg] else []
  | _ => []

def waiting (s : State L) (i : Nat) : List Message :=
  match s.streams[i]? with
  | some stream => stream.phase.pending
  | none => []

theorem waiting_of_getElem? {s : State L} {i : Nat} {stream : Stream}
    (h : s.streams[i]? = some stream) : waiting s i = stream.phase.pending := by
  rw [waiting, h]

theorem waiting_setPhase {s : State L} {i : Nat} {stream : Stream}
    (h : s.streams[i]? = some stream) (phase : Phase) (j : Nat) :
    waiting (setPhase s i stream phase) j = if i = j then phase.pending else waiting s j := by
  unfold waiting
  rw [streams_setPhase, getElem?_setPhase h]
  by_cases hij : i = j
  · rw [if_pos hij, if_pos hij]
  · rw [if_neg hij, if_neg hij]

theorem waiting_append {s : State L} {stream : Stream} (h : stream.phase = .selecting) (i : Nat) :
    waiting { s with streams := s.streams ++ [stream] } i = waiting s i := by
  unfold waiting
  by_cases hi : i < s.streams.length
  · rw [List.getElem?_append_left hi]
  · rw [List.getElem?_append_right (Nat.le_of_not_lt hi),
      List.getElem?_eq_none (Nat.le_of_not_lt hi)]
    cases hnew : [stream][i - s.streams.length]? with
    | none => rfl
    | some st =>
        obtain rfl := List.mem_singleton.mp (List.mem_of_getElem? hnew)
        simp [h, Phase.pending]

/-- A task waits with a decision after a request, and after nothing else: what an agent calls
a log is forwarded as a log. -/
theorem pending_handleAgentMessage (cfg : Settings) (acl : PolicyCache L)
    (registry : AgentRegistry) (stream : Stream) (msg : Message) (now : SystemTime) :
    (handleAgentMessage cfg acl registry stream msg now).2.pending =
      if msg.type = "agent_request" then
        ((decideRequest acl stream.spiffeId stream.agentId cfg.connectorId msg.payload now).map
          sendDecision).toList
      else [] := by
  unfold handleAgentMessage
  by_cases hbeat : msg.type = "agent_heartbeat"
  · simp [hbeat, Phase.pending]
  rw [if_neg hbeat]
  by_cases hrequest : msg.type = "agent_request"
  · rw [if_pos hrequest, if_pos hrequest]
    cases decideRequest acl stream.spiffeId stream.agentId cfg.connectorId msg.payload now with
    | none => rfl
    | some p => rfl
  rw [if_neg hrequest, if_neg hrequest]
  by_cases hlog : msg.type = "agent_log"
  · simp [hlog, Phase.pending, isDecision]
  · rw [if_neg hlog]
    rfl

/-- One step: what is put on the channel was waited with, and what is waited with from then
on was just decided. -/
theorem decisions_step {cfg : Settings} {s s' : State L} {e : Event}
    (h : step cfg s e = some s') :
    ∃ log : List (Nat × Message),
      (taken s e ++ s'.sendCh).filter isDecision =
        s.sendCh.filter isDecision ++ log.map Prod.snd ∧
      ∀ i, part i log ++ waiting s' i =
        waiting s i ++ (decisions cfg i s e).map sendDecision := by
  have hspec := step_spec h
  have hquiet : ∀ t : State L, t.sendCh = s.sendCh → (∀ i, waiting t i = waiting s i) →
      ∃ log : List (Nat × Message),
        ([] ++ t.sendCh).filter isDecision = s.sendCh.filter isDecision ++ log.map Prod.snd ∧
        ∀ i, part i log ++ waiting t i = waiting s i ++ ([] : List DecisionPayload).map
          sendDecision := by
    intro t hsend hwaiting
    exact ⟨[], by simp [hsend], fun i => by simp [hwaiting]⟩
  cases e with
  | control msg now =>
      obtain ⟨handler, -, rfl⟩ := hspec
      exact hquiet _ rfl fun _ => rfl
  | setSigningKey key =>
      cases hspec
      exact hquiet _ rfl fun _ => rfl
  | connect peer =>
      obtain ⟨stream, hconnect, rfl⟩ | ⟨-, rfl⟩ := hspec
      · exact hquiet _ rfl (waiting_append (connect_spec hconnect).selecting)
      · exact hquiet _ rfl fun _ => rfl
  | message i msg now =>
      obtain ⟨stream, hstream, hselecting, rfl⟩ := hspec
      refine ⟨[], by simp [taken, setPhase], fun j => ?_⟩
      show waiting (setPhase s i stream _) j = _
      rw [waiting_setPhase hstream, pending_handleAgentMessage]
      simp only [decisions, hstream]
      by_cases hij : i = j
      · subst hij
        rw [waiting_of_getElem? hstream, hselecting]
        by_cases hrequest : msg.type = "agent_request"
        · simp only [hrequest, if_true, and_self, Phase.pending, List.nil_append]
          cases decideRequest s.handler.acl stream.spiffeId stream.agentId cfg.connectorId
            msg.payload now <;> rfl
        · simp [hrequest, Phase.pending]
      · simp [hij]
  | put i =>
      obtain ⟨stream, msg, hstream, hsending, -, rfl⟩ := hspec
      refine ⟨if isDecision msg then [(i, msg)] else [], ?_, fun j => ?_⟩
      · by_cases hdecision : isDecision msg <;> simp [taken, hdecision]
      · show _ ++ waiting (setPhase s i stream .selecting) j = _
        rw [waiting_setPhase hstream]
        by_cases hij : i = j
        · subst hij
          rw [waiting_of_getElem? hstream, hsending]
          by_cases hdecision : isDecision msg <;>
            simp [Phase.pending, decisions, hdecision, part_singleton]
        · by_cases hdecision : isDecision msg <;> simp [decisions, hdecision, part_singleton, hij]
  | close i =>
      obtain ⟨stream, hstream, hselecting, rfl⟩ := hspec
      refine hquiet _ rfl fun j => ?_
      show waiting (setPhase s i stream .closed) j = _
      rw [waiting_setPhase hstream]
      split
      next hij =>
        subst hij
        rw [waiting_of_getElem? hstream, hselecting]
        rfl
      · rfl
  | recv =>
      obtain ⟨msg, rest, hsend, rfl⟩ := hspec
      refine ⟨[], ?_, fun i => ?_⟩
      · simp [taken, hsend]
      · show waiting s i = _
        simp [decisions]

/-- **The channel to the controller carries the decisions of the streams**, each once, and
those of one stream in the order they were made in; the last one may still wait for room. -/
theorem decisions_merge {cfg : Settings} {start s : State L} {es : List Event}
    (hstreams : start.streams = []) (hsend : start.sendCh = [])
    (hrun : run (step cfg) start es = some s) :
    ∃ sent : Nat → List Message,
      Merges sent ((outputs (step cfg) taken start es ++ s.sendCh).filter isDecision) ∧
      ∀ i, sent i ++ waiting s i =
        (outputs (step cfg) (decisions cfg i) start es).map sendDecision := by
  refine run_history (motive := fun es s => ∃ sent : Nat → List Message,
    Merges sent ((outputs (step cfg) taken start es ++ s.sendCh).filter isDecision) ∧
    ∀ i, sent i ++ waiting s i =
      (outputs (step cfg) (decisions cfg i) start es).map sendDecision) ?_ ?_ hrun
  · refine ⟨fun _ => [], ?_, fun i => ?_⟩
    · rw [hsend]
      exact merges_nil
    · rw [waiting, hstreams]
      rfl
  · intro es s e s' hrun ⟨sent, hmerges, hsent⟩ hstep
    obtain ⟨log, hchannel, hwaiting⟩ := decisions_step hstep
    refine ⟨fun i => sent i ++ part i log, ?_, fun i => ?_⟩
    · have happend := hmerges.append log
      rw [List.filter_append, List.append_assoc, ← hchannel, ← List.filter_append,
        ← List.append_assoc] at happend
      rwa [outputs_concat hrun]
    · rw [List.append_assoc, hwaiting, ← List.append_assoc, hsent, outputs_concat hrun,
        List.map_append]

end ZeroTrust.Connector.AgentServer
