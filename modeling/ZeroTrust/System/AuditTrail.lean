/-
# `ZeroTrust.System.AuditTrail` — from the request of an agent to the row of the audit log

A decision is made in the task of an agent stream, goes through the connector's channel to
the stream to the controller, arrives there among the messages of all other connectors, and
is written to `audit_logs`.  Nothing is acknowledged and nothing sent again; the streams
break, and what was under way then may arrive late, in any order, or not at all; old rows
are pruned.

    agents                connectors                     controller
    ------                ----------                     ----------
    request    decide     channel    stream / late       receive    audit_logs

Nor is it looked at whether the `INSERT` of a row fails, as PostgreSQL has it fail for a
destination with a NUL.

`audit_trail` says what is left of the decisions in the log: no row that was not a decision,
no decision twice; from a connector whose stream did not break the decisions of one agent
stream in the order they were made in, and if no `INSERT` failed every decision that is not
under way any more.
`audit_rows_true` goes from a row back to the agent: the request it answers, the SPIFFE ID
that was verified, and what the policy of the connector said at that moment.

The controller reads the payload with `json.Unmarshal`, under other names than the
connector writes: no member of the payload is for `connection_id`.
-/
import ZeroTrust.Lib.GoJson
import ZeroTrust.Lib.Interleave
import ZeroTrust.Connector.AgentServer
import ZeroTrust.ControlPlane.Allowlist

namespace ZeroTrust.System.AuditTrail

open Lib
open Connector (Libraries)
open Connector.AgentServer (Message Settings DecisionPayload sendDecision isDecision jsonVec
  decisions taken waiting)
open ControlPlane.ReceiveLoop (Unmarshal Decision AuditLogRow receive)

/-! ## The payload, written and read -/

/-- What a decision and its row have in common. -/
structure Recorded where
  principal : String
  agentId : String
  resourceId : String
  destination : String
  protocol : String
  port : UInt16
  decision : String
  reason : String
  deriving DecidableEq

namespace Recorded

def ofPayload (p : DecisionPayload) : Recorded :=
  ⟨p.spiffeId, p.agentId, p.resourceId, p.destination, p.protocol, p.port, p.decision, p.reason⟩

def ofDecision (d : Decision) : Recorded :=
  ⟨d.principalSPIFFE, d.agentID, d.resourceID, d.destination, d.protocol, d.port, d.decision,
    d.reason⟩

def ofRow (r : AuditLogRow) : Recorded :=
  ⟨r.principalSpiffe, r.tunnelerId, r.resourceId, r.destination, r.protocol, r.port, r.decision,
    r.reason⟩

end Recorded

/-- The tags of the struct in the `acl_decision` branch. -/
def decisionFields : List String :=
  ["spiffe_id", "agent_id", "resource_id", "destination", "protocol", "port", "decision",
    "reason", "connection_id"]

def readString (name : String) (kvs : List (String × Json)) : Option String :=
  GoJson.field GoJson.decodeString "" decisionFields name kvs

def readFields (kvs : List (String × Json)) : Option Decision := do
  let principalSPIFFE ← readString "spiffe_id" kvs
  let agentID ← readString "agent_id" kvs
  let resourceID ← readString "resource_id" kvs
  let destination ← readString "destination" kvs
  let protocol ← readString "protocol" kvs
  let port ← GoJson.field GoJson.decodeUint16 0 decisionFields "port" kvs
  let decision ← readString "decision" kvs
  let reason ← readString "reason" kvs
  let connectionID ← readString "connection_id" kvs
  some { principalSPIFFE, agentID, resourceID, destination, protocol, port, decision, reason,
         connectionID }

def readDecision (j : Json) : Option Decision := (GoJson.members j).bind readFields

/-- `json.Unmarshal`, on the payloads that `serde_json` writes. -/
structure Reads (unmarshal : Unmarshal) : Prop where
  decision : ∀ p : DecisionPayload,
    unmarshal.decision (jsonVec p.toJson) = readDecision p.toJson

section Payload

variable (p : DecisionPayload)

def payloadMembers : List (String × Json) :=
  [("agent_id", .str p.agentId), ("spiffe_id", .str p.spiffeId),
    ("resource_id", .str p.resourceId), ("destination", .str p.destination),
    ("protocol", .str p.protocol), ("port", .num p.port.toNat), ("decision", .str p.decision),
    ("reason", .str p.reason), ("connector_id", .str p.connectorId)]

/-- `connector_id` is for no field: `connection_id` is another name. -/
theorem membersOf_payload {name : String} (hname : name ∈ decisionFields) :
    GoJson.membersOf decisionFields name (payloadMembers p) =
      (payloadMembers p).filter fun kv => kv.1 = name := by
  have hconnector : GoJson.target decisionFields "connector_id" = none :=
    GoJson.target_eq_none (by decide) (by decide)
  have hkeys : ∀ key ∈ (payloadMembers p).map Prod.fst,
      key ∈ decisionFields ∨ key = "connector_id" := by
    simp only [payloadMembers, List.map_cons, List.map_nil]
    decide
  refine GoJson.membersOf_eq hname fun kv hkv => ?_
  rcases hkeys kv.1 (List.mem_map_of_mem hkv) with hmem | heq
  · exact Or.inl hmem
  · exact Or.inr (heq ▸ hconnector)

theorem field_payload {α : Type} (decode : Json → Option α) (zero : α) {name : String} {v : Json}
    (hname : name ∈ decisionFields) (hv : v ≠ .null)
    (h : (payloadMembers p).filter (fun kv => kv.1 = name) = [(name, v)]) :
    GoJson.field decode zero decisionFields name (payloadMembers p) = decode v :=
  GoJson.field_of_member ((membersOf_payload p hname).trans h) hv

theorem readString_payload (name s : String) (hname : name ∈ decisionFields)
    (h : (payloadMembers p).filter (fun kv => kv.1 = name) = [(name, .str s)]) :
    readString name (payloadMembers p) = some s :=
  field_payload p GoJson.decodeString "" hname (by simp) h

theorem port_payload :
    GoJson.field GoJson.decodeUint16 0 decisionFields "port" (payloadMembers p) = some p.port :=
  (field_payload p GoJson.decodeUint16 0 (by decide) (by simp) (by simp [payloadMembers])).trans
    (GoJson.decodeUint16_toNat p.port)

theorem connection_payload : readString "connection_id" (payloadMembers p) = some "" :=
  GoJson.field_of_none ((membersOf_payload p (by decide)).trans (by simp [payloadMembers]))

theorem members_payload : GoJson.members p.toJson = some (payloadMembers p) := rfl

theorem readFields_eq {kvs : List (String × Json)} {d : Decision}
    (hspiffe : readString "spiffe_id" kvs = some d.principalSPIFFE)
    (hagent : readString "agent_id" kvs = some d.agentID)
    (hresource : readString "resource_id" kvs = some d.resourceID)
    (hdestination : readString "destination" kvs = some d.destination)
    (hprotocol : readString "protocol" kvs = some d.protocol)
    (hport : GoJson.field GoJson.decodeUint16 0 decisionFields "port" kvs = some d.port)
    (hdecision : readString "decision" kvs = some d.decision)
    (hreason : readString "reason" kvs = some d.reason)
    (hconnection : readString "connection_id" kvs = some d.connectionID) :
    readFields kvs = some d := by
  simp only [readFields, hspiffe, hagent, hresource, hdestination, hprotocol, hport, hdecision,
    hreason, hconnection, Option.bind_eq_bind, Option.bind_some]

theorem readDecision_toJson :
    readDecision p.toJson = some ⟨p.spiffeId, p.agentId, p.resourceId, p.destination, p.protocol,
      p.port, p.decision, p.reason, ""⟩ := by
  rw [readDecision, members_payload, Option.bind_some]
  refine readFields_eq ?_ ?_ ?_ ?_ ?_ (port_payload p) ?_ ?_ (connection_payload p)
  all_goals exact readString_payload p _ _ (by decide) (by simp [payloadMembers])

/-- A decision arrives as it was made. -/
theorem decision_received {unmarshal : Unmarshal} (hreads : Reads unmarshal) :
    (unmarshal.decision (sendDecision p).payload).map Recorded.ofDecision =
      some (.ofPayload p) := by
  rw [sendDecision, hreads.decision p, readDecision_toJson]
  rfl

end Payload

/-! ## The system -/

/-- `wire` is what is under way on the stream to the controller, `late` what was under way on
streams that broke. -/
structure Node (L : Libraries) where
  server : Connector.AgentServer.State L
  wire : Option (List Message)
  late : List Message

structure State (ι : Type) (L : Libraries) where
  nodes : ι → Node L
  controller : ControlPlane.ReceiveLoop.State

inductive Event (ι : Type) where
  /-- The connector's tasks, but for the control loop. -/
  | server (c : ι) (e : Connector.AgentServer.Event)
  | connect (c : ι)
  | disconnect (c : ι)
  /-- The control loop forwards what it takes from the channel. -/
  | forward (c : ι)
  | heartbeat (c : ι)
  | scanReport (c : ι) (payload : ByteArray)
  /-- A message arrives; `executed` tells whether PostgreSQL takes the row it is to leave. -/
  | deliver (c : ι) (now : SystemTime) (nowISO : String) (executed : Bool)
  | deliverLate (c : ι) (k : Nat) (now : SystemTime) (nowISO : String) (executed : Bool)
  | lose (c : ι) (k : Nat)
  | prune (before : SystemTime)
  /-- Whatever else the controller does: it writes no audit rows. -/
  | other (controller : ControlPlane.ReceiveLoop.State)

variable {ι : Type} [DecidableEq ι] {L : Libraries}

def State.set (s : State ι L) (c : ι) (node : Node L) : State ι L :=
  { s with nodes := Function.update s.nodes c node }

/-- A message on the stream to the controller. -/
def State.transmit (s : State ι L) (c : ι) (msg : Message) : Option (State ι L) :=
  (s.nodes c).wire.map fun wire => s.set c { s.nodes c with wire := some (wire ++ [msg]) }

def hello : Message := { type := "connector_hello" }

/-- `DELETE FROM audit_logs WHERE created_at < ?`. -/
def pruneAuditLogs (rows : List AuditLogRow) (before : SystemTime) : List AuditLogRow :=
  rows.filter fun row => ¬ row.createdAt < before / nanosPerSec

/-- The receive loop on a message.  The error of the `INSERT` is dropped: without the row
everything goes on as with it. -/
def received (unmarshal : Unmarshal) (msg : Message) (now : SystemTime) (nowISO : String)
    (executed : Bool) (st : ControlPlane.ReceiveLoop.State) : ControlPlane.ReceiveLoop.State :=
  let st' := (receive unmarshal msg now st nowISO).1
  if executed then st' else { st' with auditLogs := st.auditLogs }

def step (unmarshal : Unmarshal) (cfg : ι → Settings) (s : State ι L) :
    Event ι → Option (State ι L)
  | .server _ .recv => none
  | .server c e =>
      (Connector.AgentServer.step (cfg c) (s.nodes c).server e).map fun server =>
        s.set c { s.nodes c with server }
  | .connect c =>
      match (s.nodes c).wire with
      | some _ => none
      | none => some (s.set c { s.nodes c with wire := some [hello] })
  | .disconnect c =>
      (s.nodes c).wire.map fun wire =>
        s.set c { s.nodes c with wire := none, late := (s.nodes c).late ++ wire }
  | .forward c =>
      match (s.nodes c).server.sendCh with
      | msg :: _ =>
          (Connector.AgentServer.step (cfg c) (s.nodes c).server .recv).bind fun server =>
            (s.set c { s.nodes c with server }).transmit c msg
      | [] => none
  | .heartbeat c =>
      s.transmit c (Connector.AgentServer.heartbeat (cfg c) (s.nodes c).server)
  | .scanReport c payload => s.transmit c { type := "scan_report", payload }
  | .deliver c now nowISO executed =>
      match (s.nodes c).wire with
      | some (msg :: rest) =>
          some { s.set c { s.nodes c with wire := some rest } with
            controller := received unmarshal msg now nowISO executed s.controller }
      | _ => none
  | .deliverLate c k now nowISO executed =>
      (s.nodes c).late[k]?.map fun msg =>
        { s.set c { s.nodes c with late := (s.nodes c).late.eraseIdx k } with
          controller := received unmarshal msg now nowISO executed s.controller }
  | .lose c k => some (s.set c { s.nodes c with late := (s.nodes c).late.eraseIdx k })
  | .prune before =>
      some { s with
        controller := { s.controller with
          auditLogs := pruneAuditLogs s.controller.auditLogs before } }
  | .other controller =>
      some { s with controller := { controller with auditLogs := s.controller.auditLogs } }

/-- Connectors that have just started, and a controller. -/
def State.start (ι : Type) (L : Libraries) (policyKey : ι → List UInt8)
    (staleGrace : ι → Duration) (controller : ControlPlane.ReceiveLoop.State) : State ι L where
  nodes c := ⟨.start L (policyKey c) (staleGrace c), none, []⟩
  controller := controller

/-- The connector whose node a step is about. -/
def Event.node : Event ι → Option ι
  | .server c _ | .connect c | .disconnect c | .forward c | .heartbeat c | .scanReport c _
  | .deliver c _ _ _ | .deliverLate c _ _ _ _ | .lose c _ => some c
  | .prune _ | .other _ => none

theorem transmit_eq_some {s s' : State ι L} {c : ι} {msg : Message}
    (h : s.transmit c msg = some s') :
    ∃ wire, (s.nodes c).wire = some wire ∧
      s' = s.set c { s.nodes c with wire := some (wire ++ [msg]) } := by
  obtain ⟨wire, hwire, rfl⟩ := Option.map_eq_some_iff.mp h
  exact ⟨wire, hwire, rfl⟩

/-- What a step is. -/
theorem step_spec {unmarshal : Unmarshal} {cfg : ι → Settings} {s s' : State ι L} {e : Event ι}
    (h : step unmarshal cfg s e = some s') :
    match e with
    | .server c e => e ≠ .recv ∧ ∃ server,
        Connector.AgentServer.step (cfg c) (s.nodes c).server e = some server ∧
        s' = s.set c { s.nodes c with server }
    | .connect c => (s.nodes c).wire = none ∧
        s' = s.set c { s.nodes c with wire := some [hello] }
    | .disconnect c => ∃ wire, (s.nodes c).wire = some wire ∧
        s' = s.set c { s.nodes c with wire := none, late := (s.nodes c).late ++ wire }
    | .forward c => ∃ msg rest wire, (s.nodes c).server.sendCh = msg :: rest ∧
        (s.nodes c).wire = some wire ∧
        s' = s.set c { s.nodes c with
          server := { (s.nodes c).server with sendCh := rest }, wire := some (wire ++ [msg]) }
    | .heartbeat c => ∃ wire, (s.nodes c).wire = some wire ∧
        s' = s.set c { s.nodes c with
          wire := some (wire ++ [Connector.AgentServer.heartbeat (cfg c) (s.nodes c).server]) }
    | .scanReport c payload => ∃ wire, (s.nodes c).wire = some wire ∧
        s' = s.set c { s.nodes c with wire := some (wire ++ [{ type := "scan_report", payload }]) }
    | .deliver c now nowISO executed => ∃ msg rest, (s.nodes c).wire = some (msg :: rest) ∧
        s' = { s.set c { s.nodes c with wire := some rest } with
          controller := received unmarshal msg now nowISO executed s.controller }
    | .deliverLate c k now nowISO executed => ∃ msg, (s.nodes c).late[k]? = some msg ∧
        s' = { s.set c { s.nodes c with late := (s.nodes c).late.eraseIdx k } with
          controller := received unmarshal msg now nowISO executed s.controller }
    | .lose c k => s' = s.set c { s.nodes c with late := (s.nodes c).late.eraseIdx k }
    | .prune before => s' = { s with controller := { s.controller with
        auditLogs := pruneAuditLogs s.controller.auditLogs before } }
    | .other controller =>
        s' = { s with controller := { controller with auditLogs := s.controller.auditLogs } } := by
  cases e with
  | server c e =>
      have hstep : e ≠ .recv ∧ (Connector.AgentServer.step (cfg c) (s.nodes c).server e).map
          (fun server => s.set c { s.nodes c with server }) = some s' := by
        cases e <;> first | exact ⟨nofun, h⟩ | cases h
      obtain ⟨hne, hstep⟩ := hstep
      obtain ⟨server, hserver, rfl⟩ := Option.map_eq_some_iff.mp hstep
      exact ⟨hne, server, hserver, rfl⟩
  | connect c =>
      simp only [step] at h
      split at h
      · cases h
      next hwire => exact ⟨hwire, (Option.some.inj h).symm⟩
  | disconnect c =>
      obtain ⟨wire, hwire, rfl⟩ := Option.map_eq_some_iff.mp h
      exact ⟨wire, hwire, rfl⟩
  | forward c =>
      simp only [step] at h
      split at h
      next msg rest hsend =>
        obtain ⟨server, hserver, hsent⟩ := Option.bind_eq_some_iff.mp h
        obtain ⟨wire, hwire, rfl⟩ := transmit_eq_some hsent
        simp only [Connector.AgentServer.step, hsend, Option.some.injEq] at hserver
        subst hserver
        refine ⟨msg, rest, wire, hsend, ?_, ?_⟩
        · simpa [State.set] using hwire
        · simp [State.set]
      · cases h
  | heartbeat c => exact transmit_eq_some h
  | scanReport c payload => exact transmit_eq_some h
  | deliver c now nowISO executed =>
      simp only [step] at h
      split at h
      next msg rest hwire => exact ⟨msg, rest, hwire, (Option.some.inj h).symm⟩
      · cases h
  | deliverLate c k now nowISO executed =>
      obtain ⟨msg, hmsg, rfl⟩ := Option.map_eq_some_iff.mp h
      exact ⟨msg, hmsg, rfl⟩
  | lose c k => exact (Option.some.inj h).symm
  | prune before => exact (Option.some.inj h).symm
  | other controller => exact (Option.some.inj h).symm

/-! ## One connector -/

/-- The events of a connector's tasks and of its control loop's receiver. -/
def serverEvents (c : ι) : Event ι → List Connector.AgentServer.Event
  | .server d e => if d = c then [e] else []
  | .forward d => if d = c then [.recv] else []
  | _ => []

/-- What the controller receives, and from whom. -/
def delivered (s : State ι L) : Event ι → List (ι × Message)
  | .deliver c _ _ _ => (((s.nodes c).wire.getD []).take 1).map (Prod.mk c)
  | .deliverLate c k _ _ _ => ((s.nodes c).late[k]?.map (Prod.mk c)).toList
  | _ => []

/-- What is under way from a connector to the controller. -/
def Node.inFlight (n : Node L) : List Message := n.wire.getD [] ++ n.late

@[simp] theorem nodes_set_self (s : State ι L) (c : ι) (node : Node L) :
    (s.set c node).nodes c = node := Function.update_self ..

theorem nodes_set_of_ne (s : State ι L) {c d : ι} (node : Node L) (h : d ≠ c) :
    (s.set c node).nodes d = s.nodes d := Function.update_of_ne h ..

section Step

variable {unmarshal : Unmarshal} {cfg : ι → Settings} {s s' : State ι L} {e : Event ι} {c : ι}

/-- A step is about one node. -/
theorem step_other (h : step unmarshal cfg s e = some s') (hnode : e.node ≠ some c) :
    s'.nodes c = s.nodes c ∧ serverEvents c e = [] ∧ part c (delivered s e) = [] := by
  have hspec := step_spec h
  have hne : ∀ d, e.node = some d → c ≠ d := by
    rintro d hd rfl
    exact hnode hd
  cases e with
  | server d e =>
      obtain ⟨-, server, -, rfl⟩ := hspec
      exact ⟨nodes_set_of_ne s _ (hne d rfl), if_neg (Ne.symm (hne d rfl)), rfl⟩
  | connect d =>
      obtain ⟨-, rfl⟩ := hspec
      exact ⟨nodes_set_of_ne s _ (hne d rfl), rfl, rfl⟩
  | disconnect d =>
      obtain ⟨wire, -, rfl⟩ := hspec
      exact ⟨nodes_set_of_ne s _ (hne d rfl), rfl, rfl⟩
  | forward d =>
      obtain ⟨msg, rest, wire, -, -, rfl⟩ := hspec
      exact ⟨nodes_set_of_ne s _ (hne d rfl), if_neg (Ne.symm (hne d rfl)), rfl⟩
  | heartbeat d =>
      obtain ⟨wire, -, rfl⟩ := hspec
      exact ⟨nodes_set_of_ne s _ (hne d rfl), rfl, rfl⟩
  | scanReport d payload =>
      obtain ⟨wire, -, rfl⟩ := hspec
      exact ⟨nodes_set_of_ne s _ (hne d rfl), rfl, rfl⟩
  | deliver d now nowISO executed =>
      obtain ⟨msg, rest, -, rfl⟩ := hspec
      exact ⟨nodes_set_of_ne s _ (hne d rfl), rfl, part_map_of_ne (hne d rfl) _⟩
  | deliverLate d k now nowISO executed =>
      obtain ⟨msg, hmsg, rfl⟩ := hspec
      refine ⟨nodes_set_of_ne s _ (hne d rfl), rfl, ?_⟩
      simpa [delivered, hmsg] using part_map_of_ne (hne d rfl) [msg]
  | lose d k =>
      cases hspec
      exact ⟨nodes_set_of_ne s _ (hne d rfl), rfl, rfl⟩
  | prune before =>
      cases hspec
      exact ⟨rfl, rfl, rfl⟩
  | other controller =>
      cases hspec
      exact ⟨rfl, rfl, rfl⟩

/-- A connector takes a run of its own. -/
theorem server_step (h : step unmarshal cfg s e = some s') (c : ι) :
    run (Connector.AgentServer.step (cfg c)) (s.nodes c).server (serverEvents c e) =
      some (s'.nodes c).server := by
  by_cases hnode : e.node = some c
  swap
  · obtain ⟨hsame, hevents, -⟩ := step_other h hnode
    rw [hsame, hevents, run_nil]
  have hspec := step_spec h
  cases e with
  | server d e =>
      obtain rfl : d = c := Option.some.inj hnode
      obtain ⟨-, server, hserver, rfl⟩ := hspec
      rw [serverEvents, if_pos rfl, nodes_set_self]
      exact run_cons.mpr ⟨server, hserver, rfl⟩
  | forward d =>
      obtain rfl : d = c := Option.some.inj hnode
      obtain ⟨msg, rest, wire, hsend, -, rfl⟩ := hspec
      rw [serverEvents, if_pos rfl, nodes_set_self]
      refine run_cons.mpr ⟨_, ?_, rfl⟩
      simp only [Connector.AgentServer.step, hsend]
  | connect d =>
      obtain rfl : d = c := Option.some.inj hnode
      obtain ⟨-, rfl⟩ := hspec
      rw [nodes_set_self]
      rfl
  | disconnect d =>
      obtain rfl : d = c := Option.some.inj hnode
      obtain ⟨wire, -, rfl⟩ := hspec
      rw [nodes_set_self]
      rfl
  | heartbeat d =>
      obtain rfl : d = c := Option.some.inj hnode
      obtain ⟨wire, -, rfl⟩ := hspec
      rw [nodes_set_self]
      rfl
  | scanReport d payload =>
      obtain rfl : d = c := Option.some.inj hnode
      obtain ⟨wire, -, rfl⟩ := hspec
      rw [nodes_set_self]
      rfl
  | deliver d now nowISO executed =>
      obtain rfl : d = c := Option.some.inj hnode
      obtain ⟨msg, rest, -, rfl⟩ := hspec
      show _ = some (((s.set d _).nodes d).server)
      rw [nodes_set_self]
      rfl
  | deliverLate d k now nowISO executed =>
      obtain rfl : d = c := Option.some.inj hnode
      obtain ⟨msg, -, rfl⟩ := hspec
      show _ = some (((s.set d _).nodes d).server)
      rw [nodes_set_self]
      rfl
  | lose d k =>
      obtain rfl : d = c := Option.some.inj hnode
      cases hspec
      rw [nodes_set_self]
      rfl
  | prune before => cases hnode
  | other controller => cases hnode

/-- What the control loop takes from a connector's channel in a step. -/
def takenIn (cfg : ι → Settings) (c : ι) (s : State ι L) (e : Event ι) : List Message :=
  outputs (Connector.AgentServer.step (cfg c)) taken (s.nodes c).server (serverEvents c e)

/-- One step, for one connector.  The stream goes on: what arrives and what is on it are what
was on it, and what the control loop adds.  Or it breaks or is broken: nothing is added, and
of what was under way something may be gone. -/
theorem node_step (h : step unmarshal cfg s e = some s') (c : ι) :
    ∃ new : List Message, new.filter isDecision = (takenIn cfg c s e).filter isDecision ∧
      ((s'.nodes c).late = (s.nodes c).late ∧
          part c (delivered s e) ++ (s'.nodes c).wire.getD [] =
            (s.nodes c).wire.getD [] ++ new ∨
        (e = .disconnect c ∨ (s.nodes c).late ≠ []) ∧ new = [] ∧
          (part c (delivered s e) ++ (s'.nodes c).inFlight).Subperm (s.nodes c).inFlight) := by
  by_cases hnode : e.node = some c
  swap
  · obtain ⟨hsame, hevents, hpart⟩ := step_other h hnode
    refine ⟨[], ?_, Or.inl ⟨by rw [hsame], by rw [hsame, hpart]; simp⟩⟩
    rw [takenIn, hevents]
    rfl
  have hspec := step_spec h
  cases e with
  | server d e =>
      obtain rfl : d = c := Option.some.inj hnode
      obtain ⟨hrecv, server, -, rfl⟩ := hspec
      refine ⟨[], ?_, Or.inl ⟨by rw [nodes_set_self], ?_⟩⟩
      swap
      · rw [nodes_set_self, List.append_nil]
        rfl
      rw [takenIn, serverEvents, if_pos rfl, outputs_singleton]
      cases e <;> first | rfl | exact absurd rfl hrecv
  | forward d =>
      obtain rfl : d = c := Option.some.inj hnode
      obtain ⟨msg, rest, wire, hsend, hwire, rfl⟩ := hspec
      refine ⟨[msg], ?_, Or.inl ⟨by rw [nodes_set_self], by rw [nodes_set_self, hwire]; rfl⟩⟩
      rw [takenIn, serverEvents, if_pos rfl, outputs_singleton, taken, hsend]
      rfl
  | connect d =>
      obtain rfl : d = c := Option.some.inj hnode
      obtain ⟨hwire, rfl⟩ := hspec
      exact ⟨[hello], rfl, Or.inl ⟨by rw [nodes_set_self], by rw [nodes_set_self, hwire]; rfl⟩⟩
  | disconnect d =>
      obtain rfl : d = c := Option.some.inj hnode
      obtain ⟨wire, hwire, rfl⟩ := hspec
      refine ⟨[], rfl, Or.inr ⟨Or.inl rfl, rfl, ?_⟩⟩
      rw [nodes_set_self]
      simp only [delivered, part_nil, Node.inFlight, hwire, Option.getD_some, Option.getD_none,
        List.nil_append]
      exact List.perm_append_comm.subperm
  | heartbeat d =>
      obtain rfl : d = c := Option.some.inj hnode
      obtain ⟨wire, hwire, rfl⟩ := hspec
      refine ⟨[Connector.AgentServer.heartbeat (cfg d) (s.nodes d).server], ?_,
        Or.inl ⟨by rw [nodes_set_self], by rw [nodes_set_self, hwire]; rfl⟩⟩
      simp [takenIn, serverEvents, outputs, isDecision, Connector.AgentServer.heartbeat]
  | scanReport d payload =>
      obtain rfl : d = c := Option.some.inj hnode
      obtain ⟨wire, hwire, rfl⟩ := hspec
      exact ⟨[{ type := "scan_report", payload }], rfl,
        Or.inl ⟨by rw [nodes_set_self], by rw [nodes_set_self, hwire]; rfl⟩⟩
  | deliver d now nowISO executed =>
      obtain rfl : d = c := Option.some.inj hnode
      obtain ⟨msg, rest, hwire, rfl⟩ := hspec
      refine ⟨[], rfl, Or.inl ⟨?_, ?_⟩⟩
      · show ((s.set d _).nodes d).late = _
        rw [nodes_set_self]
      · show _ ++ ((s.set d _).nodes d).wire.getD [] = _
        rw [nodes_set_self, delivered, part_map_self, hwire]
        simp
  | deliverLate d k now nowISO executed =>
      obtain rfl : d = c := Option.some.inj hnode
      obtain ⟨msg, hmsg, rfl⟩ := hspec
      obtain ⟨hk, rfl⟩ := List.getElem?_eq_some_iff.mp hmsg
      refine ⟨[], rfl, Or.inr ⟨Or.inr (List.ne_nil_of_length_pos (by omega)), rfl, ?_⟩⟩
      show (_ ++ ((s.set d _).nodes d).inFlight).Subperm _
      have hdelivered : part d (delivered s (.deliverLate d k now nowISO executed)) =
          [(s.nodes d).late[k]] := by
        simp [delivered, hmsg, part_singleton]
      rw [hdelivered, nodes_set_self, Node.inFlight, Node.inFlight]
      have hmiddle := (List.getElem_cons_eraseIdx_perm hk).append_left
        ((s.nodes d).wire.getD [])
      exact (List.perm_middle.symm.trans hmiddle).subperm
  | lose d k =>
      obtain rfl : d = c := Option.some.inj hnode
      cases hspec
      rw [nodes_set_self]
      refine ⟨[], rfl, ?_⟩
      by_cases hlate : (s.nodes d).late = []
      · exact Or.inl ⟨by simp [hlate], by simp [delivered]⟩
      · refine Or.inr ⟨Or.inr hlate, rfl, ?_⟩
        exact ((List.eraseIdx_sublist _ k).append_left _).subperm
  | prune before => cases hnode
  | other controller => cases hnode

/-- One step, for one connector: the decisions that arrive or are under way were under way,
or were taken from the channel just now. -/
theorem inFlight_step (h : step unmarshal cfg s e = some s') (c : ι) :
    ((part c (delivered s e) ++ (s'.nodes c).inFlight).filter isDecision).Subperm
      ((s.nodes c).inFlight.filter isDecision ++ (takenIn cfg c s e).filter isDecision) := by
  obtain ⟨new, hnew, ⟨hlate, hwire⟩ | ⟨-, rfl, hsub⟩⟩ := node_step h c
  · rw [← hnew, ← List.filter_append, Node.inFlight, Node.inFlight, hlate, ← List.append_assoc,
      hwire, List.append_assoc, List.append_assoc]
    exact ((List.perm_append_comm.append_left _).filter _).subperm
  · rw [← hnew, List.filter_nil, List.append_nil]
    exact hsub.filter _

/-- The same for a stream that does not break, where the order is kept. -/
theorem unbroken_step (h : step unmarshal cfg s e = some s') {c : ι}
    (hlate : (s.nodes c).late = []) (hunbroken : e ≠ .disconnect c) :
    (s'.nodes c).late = [] ∧
    (part c (delivered s e) ++ (s'.nodes c).inFlight).filter isDecision =
      (s.nodes c).inFlight.filter isDecision ++ (takenIn cfg c s e).filter isDecision := by
  obtain ⟨new, hnew, ⟨hlate', hwire⟩ | ⟨hbroken, -⟩⟩ := node_step h c
  · rw [hlate] at hlate'
    refine ⟨hlate', ?_⟩
    rw [← hnew, ← List.filter_append, Node.inFlight, Node.inFlight, hlate, hlate',
      List.append_nil, List.append_nil, hwire]
  · exact absurd hlate (hbroken.resolve_left hunbroken)

end Step

/-! ## The controller -/

/-- What the controller writes of a message to `audit_logs`. -/
def recorded (unmarshal : Unmarshal) (msg : Message) : Option Recorded :=
  if isDecision msg then (unmarshal.decision msg.payload).map .ofDecision else none

def rows (s : State ι L) : List Recorded := s.controller.auditLogs.map .ofRow

/-- A message leaves the row that is recorded of it, if PostgreSQL takes it. -/
theorem auditLogs_received (unmarshal : Unmarshal) (msg : Message) (now : SystemTime)
    (nowISO : String) (executed : Bool) (st : ControlPlane.ReceiveLoop.State) :
    ∃ new : List AuditLogRow,
      (received unmarshal msg now nowISO executed st).auditLogs = st.auditLogs ++ new ∧
      new.map Recorded.ofRow = if executed then (recorded unmarshal msg).toList else [] := by
  cases executed
  · exact ⟨[], (List.append_nil _).symm, rfl⟩
  have hother : ∀ st' : ControlPlane.ReceiveLoop.State, st'.auditLogs = st.auditLogs →
      msg.type ≠ "acl_decision" → ∃ new : List AuditLogRow, st'.auditLogs = st.auditLogs ++ new ∧
        new.map Recorded.ofRow = (recorded unmarshal msg).toList := by
    intro st' hlogs htype
    refine ⟨[], hlogs.trans (List.append_nil _).symm, ?_⟩
    simp [recorded, isDecision, htype]
  simp only [received, if_true]
  unfold receive
  split
  next htype => exact hother st rfl (by rw [htype]; decide)
  split
  next htype => exact hother _ rfl (by rw [htype]; decide)
  split
  next htype =>
    refine hother _ ?_ (by rw [htype]; decide)
    unfold ControlPlane.ReceiveLoop.agentHeartbeat
    split <;> rfl
  split
  next htype =>
    have hdecision : isDecision msg = true := by simp [isDecision, htype]
    simp only [recorded, hdecision, if_true, ControlPlane.ReceiveLoop.aclDecision]
    cases unmarshal.decision msg.payload with
    | none => exact ⟨[], (List.append_nil _).symm, rfl⟩
    | some d => exact ⟨_, rfl, rfl⟩
  next htype =>
    split
    · refine hother _ ?_ htype
      unfold ControlPlane.ReceiveLoop.agentLog
      split
      · split <;> rfl
      · rfl
    split
    · refine hother _ ?_ htype
      unfold ControlPlane.ReceiveLoop.scanReport
      split <;> rfl
    · exact hother st rfl htype

/-- The connector whose message leaves no row. -/
def Event.failed : Event ι → Option ι
  | .deliver c _ _ false | .deliverLate c _ _ _ false => some c
  | _ => none

/-- What the controller receives and can write down, and from whom. -/
def written (s : State ι L) (e : Event ι) : List (ι × Message) :=
  if e.failed = none then delivered s e else []

omit [DecidableEq ι] in
theorem written_sublist (s : State ι L) (e : Event ι) : (written s e).Sublist (delivered s e) := by
  unfold written
  split
  · exact List.Sublist.refl _
  · exact List.nil_sublist _

theorem part_written (s : State ι L) {e : Event ι} {c : ι} (h : e.failed ≠ some c) :
    part c (written s e) = part c (delivered s e) := by
  unfold written
  split
  · rfl
  next hfailed =>
    cases e with
    | deliver d now nowISO executed =>
        cases executed
        · have hd : c ≠ d := fun hd => h (congrArg some hd.symm)
          exact (part_map_of_ne hd _).symm
        · exact absurd rfl hfailed
    | deliverLate d k now nowISO executed =>
        cases executed
        · have hd : c ≠ d := fun hd => h (congrArg some hd.symm)
          cases hmsg : (s.nodes d).late[k]? with
          | none => simp [delivered, hmsg]
          | some msg => simpa [delivered, hmsg] using (part_map_of_ne hd [msg]).symm
        · exact absurd rfl hfailed
    | _ => exact absurd rfl hfailed

def IsPrune : Event ι → Prop
  | .prune _ => True
  | _ => False

/-- The log after the rows `new`; some may have been pruned. -/
structure Logged (pruned : Prop) (before new after : List AuditLogRow) : Prop where
  sublist : after.Sublist (before ++ new)
  unpruned : ¬ pruned → after = before ++ new

theorem Logged.of_eq {pruned : Prop} {before new after : List AuditLogRow}
    (h : after = before ++ new) : Logged pruned before new after :=
  ⟨h ▸ List.Sublist.refl _, fun _ => h⟩

/-- One step: what arrives is recorded, and old rows may go. -/
theorem rows_step {unmarshal : Unmarshal} {cfg : ι → Settings} {s s' : State ι L} {e : Event ι}
    (h : step unmarshal cfg s e = some s') :
    ∃ new, Logged (IsPrune e) s.controller.auditLogs new s'.controller.auditLogs ∧
      new.map Recorded.ofRow = (written s e).filterMap fun p => recorded unmarshal p.2 := by
  have hsame : s'.controller.auditLogs = s.controller.auditLogs → delivered s e = [] →
      ∃ new, Logged (IsPrune e) s.controller.auditLogs new s'.controller.auditLogs ∧
        new.map Recorded.ofRow = (written s e).filterMap fun p => recorded unmarshal p.2 := by
    intro hlogs hnone
    refine ⟨[], .of_eq (hlogs.trans (List.append_nil _).symm), ?_⟩
    rw [written, hnone, ite_self]
    rfl
  have hspec := step_spec h
  cases e with
  | server c e =>
      obtain ⟨-, server, -, rfl⟩ := hspec
      exact hsame rfl rfl
  | connect c =>
      obtain ⟨-, rfl⟩ := hspec
      exact hsame rfl rfl
  | disconnect c =>
      obtain ⟨wire, -, rfl⟩ := hspec
      exact hsame rfl rfl
  | forward c =>
      obtain ⟨msg, rest, wire, -, -, rfl⟩ := hspec
      exact hsame rfl rfl
  | heartbeat c =>
      obtain ⟨wire, -, rfl⟩ := hspec
      exact hsame rfl rfl
  | scanReport c payload =>
      obtain ⟨wire, -, rfl⟩ := hspec
      exact hsame rfl rfl
  | deliver c now nowISO executed =>
      obtain ⟨msg, rest, hwire, rfl⟩ := hspec
      obtain ⟨new, hnew, hrecorded⟩ :=
        auditLogs_received unmarshal msg now nowISO executed s.controller
      refine ⟨new, .of_eq hnew, hrecorded.trans ?_⟩
      cases executed
      · rfl
      · cases hmsg : recorded unmarshal msg <;>
          simp [written, Event.failed, delivered, hwire, hmsg]
  | deliverLate c k now nowISO executed =>
      obtain ⟨msg, hlate, rfl⟩ := hspec
      obtain ⟨new, hnew, hrecorded⟩ :=
        auditLogs_received unmarshal msg now nowISO executed s.controller
      refine ⟨new, .of_eq hnew, hrecorded.trans ?_⟩
      cases executed
      · rfl
      · cases hmsg : recorded unmarshal msg <;>
          simp [written, Event.failed, delivered, hlate, hmsg]
  | lose c k =>
      cases hspec
      exact hsame rfl rfl
  | prune before =>
      cases hspec
      refine ⟨[], ⟨?_, fun hno => absurd trivial hno⟩, rfl⟩
      rw [List.append_nil]
      exact List.filter_sublist
  | other controller =>
      cases hspec
      exact hsame rfl rfl

/-! ## Whole runs -/

section Runs

variable {unmarshal : Unmarshal} {cfg : ι → Settings} {start s : State ι L} {es : List (Event ι)}

/-- The rows that a run adds are of what arrives, one after the other. -/
theorem rows_run (hrun : run (step unmarshal cfg) start es = some s) :
    ∃ new, Logged (∃ e ∈ es, IsPrune e) start.controller.auditLogs new s.controller.auditLogs ∧
      new.map Recorded.ofRow = (outputs (step unmarshal cfg) written start es).filterMap
        fun p => recorded unmarshal p.2 := by
  refine run_history (motive := fun es s => ∃ new,
    Logged (∃ e ∈ es, IsPrune e) start.controller.auditLogs new s.controller.auditLogs ∧
      new.map Recorded.ofRow = (outputs (step unmarshal cfg) written start es).filterMap
        fun p => recorded unmarshal p.2) ?_ ?_ hrun
  · exact ⟨[], .of_eq (List.append_nil _).symm, rfl⟩
  · intro es s e s' hrun ⟨new, hlogged, hnew⟩ hstep
    obtain ⟨new', hlogged', hnew'⟩ := rows_step hstep
    refine ⟨new ++ new', ⟨?_, fun hno => ?_⟩, ?_⟩
    · rw [← List.append_assoc]
      exact hlogged'.sublist.trans (hlogged.sublist.append_right _)
    · have hes : ¬ ∃ e ∈ es, IsPrune e := by
        rintro ⟨x, hx, hprune⟩
        exact hno ⟨x, by simp [hx], hprune⟩
      rw [hlogged'.unpruned fun hprune => hno ⟨e, by simp, hprune⟩, hlogged.unpruned hes,
        List.append_assoc]
    · rw [outputs_concat hrun, List.filterMap_append, List.map_append, hnew, hnew']

/-- A connector's run. -/
theorem server_run (hrun : run (step unmarshal cfg) start es = some s) (c : ι) :
    run (Connector.AgentServer.step (cfg c)) (start.nodes c).server
      (es.flatMap (serverEvents c)) = some (s.nodes c).server :=
  run_project (fun s : State ι L => (s.nodes c).server) (serverEvents c)
    (fun s e s' (h : step unmarshal cfg s e = some s') => server_step h c) hrun

/-- What the control loop took from a connector's channel. -/
def takenBy (cfg : ι → Settings) (c : ι) (start : State ι L) (es : List (Event ι)) :
    List Message :=
  outputs (Connector.AgentServer.step (cfg c)) taken (start.nodes c).server
    (es.flatMap (serverEvents c))

theorem takenBy_concat (hrun : run (step unmarshal cfg) start es = some s) (c : ι) (e : Event ι) :
    takenBy cfg c start (es ++ [e]) = takenBy cfg c start es ++ takenIn cfg c s e := by
  rw [takenBy, List.flatMap_append, outputs_append (server_run hrun c)]
  simp [takenBy, takenIn]

/-- What arrives of a connector's decisions was taken from its channel, once each; and in that
order, if its stream never breaks. -/
theorem carried_run {c : ι} (hstart : (start.nodes c).inFlight = [])
    (hrun : run (step unmarshal cfg) start es = some s) :
    ((part c (outputs (step unmarshal cfg) delivered start es) ++
      (s.nodes c).inFlight).filter isDecision).Subperm
        ((takenBy cfg c start es).filter isDecision) ∧
    ((∀ e ∈ es, e ≠ .disconnect c) → (s.nodes c).late = [] ∧
      (part c (outputs (step unmarshal cfg) delivered start es) ++
        (s.nodes c).inFlight).filter isDecision =
          (takenBy cfg c start es).filter isDecision) := by
  refine run_history (motive := fun es s =>
    ((part c (outputs (step unmarshal cfg) delivered start es) ++
      (s.nodes c).inFlight).filter isDecision).Subperm
        ((takenBy cfg c start es).filter isDecision) ∧
    ((∀ e ∈ es, e ≠ .disconnect c) → (s.nodes c).late = [] ∧
      (part c (outputs (step unmarshal cfg) delivered start es) ++
        (s.nodes c).inFlight).filter isDecision =
          (takenBy cfg c start es).filter isDecision)) ?_ ?_ hrun
  · have hnone : (part c (outputs (step unmarshal cfg) delivered start []) ++
        (start.nodes c).inFlight).filter isDecision = [] := by
      rw [hstart]
      rfl
    rw [hnone]
    exact ⟨List.nil_subperm, fun _ => ⟨(List.append_eq_nil_iff.mp hstart).2, rfl⟩⟩
  · intro es s e s' hrun ⟨hsub, heq⟩ hstep
    have hnew := inFlight_step hstep c
    rw [outputs_concat hrun, part_append, takenBy_concat hrun]
    simp only [List.filter_append] at hsub heq hnew ⊢
    rw [List.append_assoc]
    constructor
    · refine ((List.subperm_append_left _).mpr hnew).trans ?_
      rw [← List.append_assoc]
      exact (List.subperm_append_right _).mpr hsub
    · intro hunbroken
      obtain ⟨hlate, heq⟩ := heq fun x hx => hunbroken x (by simp [hx])
      obtain ⟨hlate', hkept⟩ := unbroken_step hstep hlate (hunbroken e (by simp))
      rw [List.filter_append] at hkept
      exact ⟨hlate', by rw [hkept, ← List.append_assoc, heq]⟩

/-- The decisions of an agent stream of a connector, in the course of the run. -/
def decided (cfg : ι → Settings) (start : State ι L) (es : List (Event ι)) (c : ι) (i : Nat) :
    List DecisionPayload :=
  outputs (Connector.AgentServer.step (cfg c)) (decisions (cfg c) i) (start.nodes c).server
    (es.flatMap (serverEvents c))

/-- No decision of the connector is under way. -/
def Drained (s : State ι L) (c : ι) : Prop :=
  ((s.nodes c).server.sendCh ++ (s.nodes c).inFlight).filter isDecision = [] ∧
    ∀ i, waiting (s.nodes c).server i = []

/-- What one connector's part of the log is made of, by agent stream. -/
structure Carried (unbroken executed drained : Prop) (made g : Nat → List Message) : Prop where
  some : ∀ i, (g i).Subperm (made i)
  ordered : unbroken → ∀ i, (g i).Sublist (made i)
  initial : unbroken → executed → ∀ i, g i <+: made i
  all : unbroken → executed → drained → ∀ i, g i = made i

theorem Carried.of_all {unbroken executed drained : Prop} {made g : Nat → List Message}
    (h : ∀ i, g i = made i) : Carried unbroken executed drained made g where
  some i := h i ▸ List.Subperm.refl _
  ordered _ i := h i ▸ List.Sublist.refl _
  initial _ _ i := h i ▸ List.prefix_rfl
  all _ _ _ := h

/-- Where something is lost, what is left is in the same order. -/
theorem Carried.sublist {unbroken executed executed' drained : Prop}
    {made g g' : Nat → List Message} (h : Carried unbroken executed drained made g)
    (hsub : ∀ i, (g' i).Sublist (g i)) (hno : ¬ executed') :
    Carried unbroken executed' drained made g' where
  some i := (hsub i).subperm.trans (h.some i)
  ordered hunbroken i := (hsub i).trans (h.ordered hunbroken i)
  initial _ hexecuted := absurd hexecuted hno
  all _ hexecuted := absurd hexecuted hno

theorem merges_delivered {c : ι} {key : List UInt8} {grace : Duration}
    (hstart : start.nodes c = ⟨.start L key grace, none, []⟩)
    (hrun : run (step unmarshal cfg) start es = some s) :
    ∃ g : Nat → List Message,
      Merges g ((part c (outputs (step unmarshal cfg) delivered start es)).filter isDecision) ∧
      Carried (∀ e ∈ es, e ≠ .disconnect c) True (Drained s c)
        (fun i => (decided cfg start es c i).map sendDecision) g := by
  obtain ⟨hsub, heq⟩ := carried_run (c := c) (by rw [hstart]; rfl) hrun
  obtain ⟨sent, hmerges, hsent⟩ := Connector.AgentServer.decisions_merge
    (by rw [hstart]; rfl) (by rw [hstart]; rfl) (server_run hrun c)
  have hordered : ∀ i, sent i <+: (decided cfg start es c i).map sendDecision :=
    fun i => ⟨_, hsent i⟩
  have hmerged : Merges sent ((takenBy cfg c start es).filter isDecision ++
      (s.nodes c).server.sendCh.filter isDecision) := by
    rw [← List.filter_append]
    exact hmerges
  rw [List.filter_append] at hsub heq
  by_cases hunbroken : ∀ e ∈ es, e ≠ .disconnect c
  · obtain ⟨-, heq⟩ := heq hunbroken
    by_cases hdrained : Drained s c
    · obtain ⟨hflight, hwaiting⟩ := hdrained
      rw [List.filter_append, List.append_eq_nil_iff] at hflight
      rw [hflight.2, List.append_nil] at heq
      rw [hflight.1, List.append_nil, ← heq] at hmerged
      have hall : ∀ i, sent i = (decided cfg start es c i).map sendDecision := by
        intro i
        have := hsent i
        rwa [hwaiting i, List.append_nil] at this
      exact ⟨sent, hmerged, .of_all hall⟩
    · have hinitial : (part c (outputs (step unmarshal cfg) delivered start es)).filter isDecision
          <+: (takenBy cfg c start es).filter isDecision ++
            (s.nodes c).server.sendCh.filter isDecision := by
        rw [← heq, List.append_assoc]
        exact List.prefix_append _ _
      obtain ⟨g, hg, hmerges⟩ := hmerged.initial hinitial
      have hinitial : ∀ i, g i <+: (decided cfg start es c i).map sendDecision :=
        fun i => (hg i).trans (hordered i)
      exact ⟨g, hmerges, fun i => (hinitial i).sublist.subperm, fun _ i => (hinitial i).sublist,
        fun _ _ => hinitial, fun _ _ h => absurd h hdrained⟩
  · have hless : ((part c (outputs (step unmarshal cfg) delivered start es)).filter
        isDecision).Subperm ((takenBy cfg c start es).filter isDecision ++
          (s.nodes c).server.sendCh.filter isDecision) :=
      ((List.prefix_append _ _).sublist.subperm.trans hsub).trans
        (List.prefix_append _ _).sublist.subperm
    obtain ⟨g, hg, hmerges⟩ := hmerged.subperm hless
    exact ⟨g, hmerges, fun i => (hg i).trans (hordered i).sublist.subperm,
      fun h => absurd h hunbroken, fun h => absurd h hunbroken, fun h => absurd h hunbroken⟩

theorem part_outputs_written {c : ι} (h : ∀ e ∈ es, e.failed ≠ some c) :
    part c (outputs (step unmarshal cfg) written start es) =
      part c (outputs (step unmarshal cfg) delivered start es) := by
  unfold part
  rw [filterMap_outputs, filterMap_outputs]
  exact outputs_congr fun s e he => part_written s (h e he)

/-- The same of what is written: where an `INSERT` fails, the order is kept. -/
theorem merges_carried {c : ι} {key : List UInt8} {grace : Duration}
    (hstart : start.nodes c = ⟨.start L key grace, none, []⟩)
    (hrun : run (step unmarshal cfg) start es = some s) :
    ∃ g : Nat → List Message,
      Merges g ((part c (outputs (step unmarshal cfg) written start es)).filter isDecision) ∧
      Carried (∀ e ∈ es, e ≠ .disconnect c) (∀ e ∈ es, e.failed ≠ some c) (Drained s c)
        (fun i => (decided cfg start es c i).map sendDecision) g := by
  obtain ⟨g, hmerges, hcarried⟩ := merges_delivered hstart hrun
  by_cases hexecuted : ∀ e ∈ es, e.failed ≠ some c
  · rw [part_outputs_written hexecuted]
    exact ⟨g, hmerges, hcarried.some, hcarried.ordered, fun h _ => hcarried.initial h trivial,
      fun h _ => hcarried.all h trivial⟩
  · have hless : (part c (outputs (step unmarshal cfg) written start es)).Sublist
        (part c (outputs (step unmarshal cfg) delivered start es)) :=
      (outputs_sublist written_sublist es start).filterMap _
    obtain ⟨g', hsub, hmerges'⟩ := hmerges.sublist (hless.filter isDecision)
    exact ⟨g', hmerges', hcarried.sublist hsub hexecuted⟩

/-- What is recorded of decisions that were sent. -/
theorem recorded_sendDecision (hreads : Reads unmarshal) (p : DecisionPayload) :
    recorded unmarshal (sendDecision p) = some (.ofPayload p) := by
  have hdecision : isDecision (sendDecision p) = true := rfl
  rw [recorded, hdecision, if_pos rfl, decision_received p hreads]

theorem recorded_decided (hreads : Reads unmarshal) (made : List DecisionPayload) :
    (made.map sendDecision).filterMap (recorded unmarshal) = made.map Recorded.ofPayload := by
  rw [List.filterMap_map, ← List.filterMap_eq_map]
  exact List.filterMap_congr fun p _ => recorded_sendDecision hreads p

theorem recorded_filter (msgs : List Message) :
    (msgs.filter isDecision).filterMap (recorded unmarshal) =
      msgs.filterMap (recorded unmarshal) := by
  rw [List.filterMap_filter]
  refine List.filterMap_congr fun msg _ => ?_
  by_cases hdecision : isDecision msg <;> simp [recorded, hdecision]

end Runs

/-- What the rows that a run added to the log say of the decisions of the run. -/
structure Trail (cfg : ι → Settings) (start s : State ι L) (es : List (Event ι))
    (added : List AuditLogRow) (of : ι × Nat → List Recorded) : Prop where
  /-- The rows are those from before, and what was added; some may have been pruned. -/
  logged : Logged (∃ e ∈ es, IsPrune e) start.controller.auditLogs added s.controller.auditLogs
  /-- Every row is of some agent stream. -/
  merged : Merges of (added.map .ofRow)
  /-- What is recorded was decided, once each. -/
  made : ∀ c i, (of (c, i)).Subperm ((decided cfg start es c i).map .ofPayload)
  /-- In order, from a connector whose stream never broke. -/
  ordered : ∀ c, (∀ e ∈ es, e ≠ .disconnect c) → ∀ i,
    (of (c, i)).Sublist ((decided cfg start es c i).map .ofPayload)
  /-- Without a gap, if no `INSERT` failed. -/
  initial : ∀ c, (∀ e ∈ es, e ≠ .disconnect c) → (∀ e ∈ es, e.failed ≠ some c) → ∀ i,
    of (c, i) <+: (decided cfg start es c i).map .ofPayload
  /-- And all of it, when nothing is under way. -/
  complete : ∀ c, (∀ e ∈ es, e ≠ .disconnect c) → (∀ e ∈ es, e.failed ≠ some c) → Drained s c →
    ∀ i, of (c, i) = (decided cfg start es c i).map .ofPayload

theorem trail_run {unmarshal : Unmarshal} {cfg : ι → Settings} {start s : State ι L}
    {es : List (Event ι)} (hreads : Reads unmarshal) {policyKey : ι → List UInt8}
    {staleGrace : ι → Duration} (hstart : ∀ c, start.nodes c =
      ⟨.start L (policyKey c) (staleGrace c), none, []⟩)
    (hrun : run (step unmarshal cfg) start es = some s) :
    ∃ added of, Trail cfg start s es added of := by
  let log := outputs (step unmarshal cfg) written start es
  obtain ⟨added, hlogged, hadded⟩ := rows_run hrun
  have hnodes : ∀ c, ∃ g : Nat → List Message,
      Merges g ((part c log).filter isDecision) ∧
      Carried (∀ e ∈ es, e ≠ .disconnect c) (∀ e ∈ es, e.failed ≠ some c) (Drained s c)
        (fun i => (decided cfg start es c i).map sendDecision) g :=
    fun c => merges_carried (hstart c) hrun
  choose g hg hcarried using hnodes
  have hparts : ∀ c, Merges (fun i => (g c i).filterMap (recorded unmarshal))
      ((part c log).filterMap (recorded unmarshal)) := by
    intro c
    rw [← recorded_filter]
    exact (hg c).filterMap (recorded unmarshal)
  have hlog : Merges (fun c : ι => part c log) (log.map Prod.snd) := ⟨log, rfl, fun _ => rfl⟩
  have hmerged := (hlog.filterMap (recorded unmarshal)).join hparts
  rw [List.filterMap_map] at hmerged
  refine ⟨added, fun p => (g p.1 p.2).filterMap (recorded unmarshal), hlogged,
    hadded ▸ hmerged, fun c i => ?_, fun c hunbroken i => ?_, fun c hunbroken hexecuted i => ?_,
    fun c hunbroken hexecuted hdrained i => ?_⟩
  all_goals rw [← recorded_decided hreads]
  · exact subperm_filterMap ((hcarried c).some i) _
  · exact ((hcarried c).ordered hunbroken i).filterMap _
  · exact ((hcarried c).initial hunbroken hexecuted i).filterMap _
  · exact congrArg _ ((hcarried c).all hunbroken hexecuted hdrained i)

/-- **The audit trail.**  After any run of agents, connectors and controller, in any order of
their steps, the log has the rows from before and rows of decisions: none of anything else,
none twice; of a connector whose stream never broke those of each agent stream in the order
they were made in, and if no `INSERT` failed all of them but what is still under way. -/
theorem audit_trail (unmarshal : Unmarshal) (hreads : Reads unmarshal) (cfg : ι → Settings)
    (policyKey : ι → List UInt8) (staleGrace : ι → Duration)
    (controller : ControlPlane.ReceiveLoop.State) (es : List (Event ι)) (s : State ι L)
    (hrun : run (step unmarshal cfg) (.start ι L policyKey staleGrace controller) es = some s) :
    ∃ added of, Trail cfg (.start ι L policyKey staleGrace controller) s es added of :=
  trail_run hreads (fun _ => rfl) hrun

/-! ## A request that is denied -/

open Connector.AgentServer.Enrolled (peer settings allow server allow_step connect_step)

namespace Denied

/-- `json.Unmarshal`, for the decisions. -/
def unmarshal : Unmarshal where
  agents _ := none
  agentHeartbeat _ := none
  decision payload := Connector.parseSlice readDecision payload
  agentLog _ := none
  scanReport _ := none

theorem reads : Reads unmarshal where
  decision _ := Connector.parseSlice_render Connector.escapes_serdeEscape rfl

def request : Message where
  type := "agent_request"
  payload := jsonVec (.obj [("destination", .str "db.internal"), ("protocol", .str "tcp"),
    ("port", .num 443)])

def denial : DecisionPayload :=
  ⟨"agent-1", peer, "", "db.internal", "tcp", 443, "deny", "no_snapshot", "con-1"⟩

/-- An agent is allowed and connects, and asks before there is a policy. -/
def events : List (Event Unit) :=
  [.connect (), .server () allow, .server () (.connect (some peer)),
    .server () (.message 0 request 0), .server () (.put 0), .forward (),
    .deliver () 0 "" true, .deliver () 0 "" true]

abbrev start : State Unit (.recorded []) :=
  .start Unit (.recorded []) (fun _ => []) (fun _ => 0) ControlPlane.ReceiveLoop.oneConnector

theorem decides : Connector.AgentServer.decideRequest
    (Connector.AgentServer.State.start (.recorded []) [] 0).handler.acl peer "agent-1"
    settings.connectorId request.payload 0 = some denial := by
  have hrequest : Connector.parseSlice Connector.AgentServer.AgentRequest.ofJson request.payload =
      some ⟨"db.internal", "tcp", 443⟩ := by
    refine (Connector.parseSlice_render Connector.escapes_serdeEscape rfl).trans ?_
    simp [Connector.AgentServer.AgentRequest.ofJson, Connector.structFields, Connector.required,
      Connector.member, Connector.decodeString, Connector.decodeU16]
  simp only [Connector.AgentServer.decideRequest, hrequest]
  rfl

theorem handles (registry : Connector.AgentServer.AgentRegistry) :
    Connector.AgentServer.handleAgentMessage settings
      (Connector.AgentServer.State.start (.recorded []) [] 0).handler.acl registry
      ⟨peer, "agent-1", .selecting⟩ request 0 = (registry, .sending (sendDecision denial)) := by
  have hbeat : request.type ≠ "agent_heartbeat" := by decide
  have htype : request.type = "agent_request" := rfl
  simp only [Connector.AgentServer.handleAgentMessage, if_neg hbeat, if_pos htype, decides]

def running (server : Connector.AgentServer.State (.recorded [])) (wire : List Message) :
    State Unit (.recorded []) where
  nodes _ := ⟨server, some wire, []⟩
  controller := ControlPlane.ReceiveLoop.oneConnector

theorem set_running (server : Connector.AgentServer.State (.recorded [])) (wire : List Message)
    (n : Node (.recorded [])) :
    (running server wire).set () n = { running server wire with nodes := fun _ => n } := by
  rw [State.set, Function.update_eq_const_of_subsingleton]
  rfl

theorem server_running {before after : Connector.AgentServer.State (.recorded [])}
    {e : Connector.AgentServer.Event} (wire : List Message)
    (h : Connector.AgentServer.step settings before e = some after) (he : e ≠ .recv) :
    step unmarshal (fun _ => settings) (running before wire) (.server () e) =
      some (running after wire) := by
  have hstep : step unmarshal (fun _ => settings) (running before wire) (.server () e) =
      (Connector.AgentServer.step settings before e).map fun server =>
        (running before wire).set () ⟨server, some wire, []⟩ := by
    cases e <;> first | rfl | exact absurd rfl he
  rw [hstep, h, Option.map_some, set_running]
  rfl

theorem rows_deliver {s s' : State Unit (.recorded [])} {msg : Message} {rest : List Message}
    (h : step unmarshal (fun _ => settings) s (.deliver () 0 "" true) = some s')
    (hwire : (s.nodes ()).wire = some (msg :: rest)) :
    rows s' = rows s ++ (recorded unmarshal msg).toList := by
  simp only [step, hwire, Option.some.injEq] at h
  subst h
  obtain ⟨new, hnew, hrecorded⟩ := auditLogs_received unmarshal msg 0 "" true s.controller
  rw [rows, hnew, List.map_append, hrecorded]
  rfl

theorem run_events : ∃ s, run (step unmarshal fun _ => settings) start events = some s ∧
    rows s = [.ofPayload denial] := by
  have hconnect : step unmarshal (fun _ => settings) start (.connect ()) =
      some (running (.start (.recorded []) [] 0) [hello]) := by
    show some (start.set () _) = _
    rw [State.set, Function.update_eq_const_of_subsingleton]
    rfl
  have hrequest : Connector.AgentServer.step settings
      (server ∅ [⟨peer, "agent-1", .selecting⟩] []) (.message 0 request 0) =
        some (server ∅ [⟨peer, "agent-1", .sending (sendDecision denial)⟩] []) := by
    simp only [Connector.AgentServer.step, server, List.getElem?_cons_zero, handles]
    rfl
  have hput : Connector.AgentServer.step settings
      (server ∅ [⟨peer, "agent-1", .sending (sendDecision denial)⟩] []) (.put 0) =
        some (server ∅ [⟨peer, "agent-1", .selecting⟩] [sendDecision denial]) := rfl
  have hforward : step unmarshal (fun _ => settings)
      (running (server ∅ [⟨peer, "agent-1", .selecting⟩] [sendDecision denial]) [hello])
      (.forward ()) = some (running (server ∅ [⟨peer, "agent-1", .selecting⟩] [])
        [hello, sendDecision denial]) := by
    simp only [step, running, server, Connector.AgentServer.step, Option.bind_some,
      State.transmit, State.set, Function.update_eq_const_of_subsingleton]
    rfl
  obtain ⟨s, hhello, hwire⟩ : ∃ s, step unmarshal (fun _ => settings)
      (running (server ∅ [⟨peer, "agent-1", .selecting⟩] []) [hello, sendDecision denial])
      (.deliver () 0 "" true) = some s ∧ (s.nodes ()).wire = some [sendDecision denial] :=
    ⟨_, rfl, rfl⟩
  obtain ⟨s', harrives⟩ : ∃ s', step unmarshal (fun _ => settings) s (.deliver () 0 "" true) =
      some s' := by
    simp only [step, hwire]
    exact ⟨_, rfl⟩
  have hrun : run (step unmarshal fun _ => settings) start events = some s' := by
    rw [events]
    refine run_cons.mpr ⟨_, hconnect, ?_⟩
    refine run_cons.mpr ⟨_, server_running [hello] allow_step (by intro h; cases h), ?_⟩
    refine run_cons.mpr ⟨_, server_running [hello] connect_step (by intro h; cases h), ?_⟩
    refine run_cons.mpr ⟨_, server_running [hello] hrequest (by intro h; cases h), ?_⟩
    refine run_cons.mpr ⟨_, server_running [hello] hput (by intro h; cases h), ?_⟩
    exact run_cons.mpr ⟨_, hforward, run_cons.mpr ⟨_, hhello, run_cons.mpr ⟨_, harrives, rfl⟩⟩⟩
  refine ⟨s', hrun, ?_⟩
  have hnone : recorded unmarshal hello = none := rfl
  have hrows : rows (running (server ∅ [⟨peer, "agent-1", .selecting⟩] [])
      [hello, sendDecision denial]) = [] := rfl
  rw [rows_deliver harrives hwire, rows_deliver hhello rfl, hrows, hnone,
    recorded_sendDecision reads, Option.toList_none, Option.toList_some, List.nil_append,
    List.nil_append]

end Denied

theorem denied_trail : ∃ s added of,
    run (step Denied.unmarshal fun _ => settings) Denied.start Denied.events = some s ∧
    Trail (fun _ => settings) Denied.start s Denied.events added of := by
  obtain ⟨s, hrun, -⟩ := Denied.run_events
  obtain ⟨added, of, htrail⟩ := audit_trail Denied.unmarshal Denied.reads
    (fun _ => settings) (fun _ => []) (fun _ => 0) ControlPlane.ReceiveLoop.oneConnector
    Denied.events s hrun
  exact ⟨s, added, of, hrun, htrail⟩

/-! ## What a row says -/

/-- The answer of a connector to an agent's request, as it is recorded. -/
def Answers (u : Connector.AgentServer.State L) (stream : Connector.AgentServer.Stream)
    (payload : ByteArray) (now : SystemTime) (r : Recorded) : Prop :=
  match Connector.parseSlice Connector.AgentServer.AgentRequest.ofJson payload with
  | none => r = ⟨stream.spiffeId, stream.agentId, "", "", "", 0, "deny", "invalid_request"⟩
  | some req => ∃ allowed resourceId reason,
      u.handler.acl.allowed stream.spiffeId req.destination req.protocol req.port now =
        some (allowed, resourceId, reason) ∧
      r = ⟨stream.spiffeId, stream.agentId, resourceId, req.destination, req.protocol, req.port,
        if allowed then "allow" else "deny", reason⟩

theorem answers_of_decisions {cfg : Settings} {i : Nat} {u : Connector.AgentServer.State L}
    {e : Connector.AgentServer.Event} {p : DecisionPayload} (h : p ∈ decisions cfg i u e) :
    ∃ msg now stream, e = .message i msg now ∧ u.streams[i]? = some stream ∧
      msg.type = "agent_request" ∧ Answers u stream msg.payload now (.ofPayload p) := by
  unfold decisions at h
  split at h
  next j msg now =>
    split at h
    next stream hstream =>
      rw [List.mem_ite_nil_right] at h
      obtain ⟨⟨rfl, hrequest⟩, hdecide⟩ := h
      refine ⟨msg, now, stream, rfl, hstream, hrequest, ?_⟩
      rw [Option.mem_toList] at hdecide
      unfold Connector.AgentServer.decideRequest at hdecide
      unfold Answers
      cases hreq : Connector.parseSlice Connector.AgentServer.AgentRequest.ofJson msg.payload with
      | none =>
          rw [hreq] at hdecide
          obtain rfl := Option.some.inj hdecide
          rfl
      | some req =>
          rw [hreq] at hdecide
          obtain ⟨⟨allowed, resourceId, reason⟩, hallowed, rfl⟩ :=
            Option.map_eq_some_iff.mp hdecide
          exact ⟨allowed, resourceId, reason, hallowed, rfl⟩
    · cases h
  · cases h

/-- **The audit log is true.**  Every row that a run adds answers a request of an agent whose
stream was admitted: it names the SPIFFE ID that was verified then, what was asked for, and
what the policy of the connector said to it at that moment. -/
theorem audit_rows_true (unmarshal : Unmarshal) (hreads : Reads unmarshal) (cfg : ι → Settings)
    (policyKey : ι → List UInt8) (staleGrace : ι → Duration)
    (controller : ControlPlane.ReceiveLoop.State) (es : List (Event ι)) (s : State ι L)
    (hrun : run (step unmarshal cfg) (.start ι L policyKey staleGrace controller) es = some s) :
    ∃ added, Logged (∃ e ∈ es, IsPrune e) controller.auditLogs added s.controller.auditLogs ∧
      ∀ row ∈ added, ∃ c i msg now pre post u stream,
        es = pre ++ .server c (.message i msg now) :: post ∧
        run (step unmarshal cfg) (.start ι L policyKey staleGrace controller) pre = some u ∧
        (u.nodes c).server.streams[i]? = some stream ∧
        Connector.AgentServer.Admitted (cfg c) (.start L (policyKey c) (staleGrace c))
          (pre.flatMap (serverEvents c)) stream.spiffeId stream.agentId ∧
        msg.type = "agent_request" ∧
        Answers (u.nodes c).server stream msg.payload now (.ofRow row) := by
  obtain ⟨added, of, htrail⟩ := trail_run hreads (fun _ => rfl) hrun
  refine ⟨added, htrail.logged, fun row hrow => ?_⟩
  obtain ⟨⟨c, i⟩, hmem⟩ := htrail.merged.exists_mem (List.mem_map_of_mem hrow)
  obtain ⟨p, hp, hrecorded⟩ := List.mem_map.mp ((htrail.made c i).subset hmem)
  -- the decision was made in some step of the connector, and so in one of the system
  rw [decided, outputs_project _ (fun s : State ι L => (s.nodes c).server) (serverEvents c)
    (fun s e s' (h : step unmarshal cfg s e = some s') => server_step h c) hrun,
    mem_outputs hrun] at hp
  obtain ⟨pre, e, post, u, hes, hu, hp⟩ := hp
  cases e with
  | server d e =>
      by_cases hd : d = c
      · rw [serverEvents, if_pos hd, outputs_singleton] at hp
        obtain ⟨msg, now, stream, rfl, hstream, hrequest, hanswers⟩ := answers_of_decisions hp
        refine ⟨c, i, msg, now, pre, post, u, stream, hd ▸ hes, hu, hstream, ?_, hrequest,
          hrecorded ▸ hanswers⟩
        exact Connector.AgentServer.admitted_run rfl (server_run hu c) stream
          (List.mem_of_getElem? hstream)
      · rw [serverEvents, if_neg hd] at hp
        cases hp
  | forward d =>
      by_cases hd : d = c
      · rw [serverEvents, if_pos hd, outputs_singleton] at hp
        cases hp
      · rw [serverEvents, if_neg hd] at hp
        cases hp
  | _ => cases hp

theorem denied_true : ∃ s, run (step Denied.unmarshal fun _ => settings) Denied.start
      Denied.events = some s ∧ rows s = [.ofPayload Denied.denial] ∧
    ∃ added, Logged (∃ e ∈ Denied.events, IsPrune e) [] added s.controller.auditLogs ∧
      ∀ row ∈ added, ∃ c i msg now pre post u stream,
        Denied.events = pre ++ .server c (.message i msg now) :: post ∧
        run (step Denied.unmarshal fun _ => settings) Denied.start pre = some u ∧
        (u.nodes c).server.streams[i]? = some stream ∧
        Connector.AgentServer.Admitted settings (.start (.recorded []) [] 0)
          (pre.flatMap (serverEvents c)) stream.spiffeId stream.agentId ∧
        msg.type = "agent_request" ∧
        Answers (u.nodes c).server stream msg.payload now (.ofRow row) := by
  obtain ⟨s, hrun, hrows⟩ := Denied.run_events
  exact ⟨s, hrun, hrows, audit_rows_true Denied.unmarshal Denied.reads (fun _ => settings)
    (fun _ => []) (fun _ => 0) ControlPlane.ReceiveLoop.oneConnector Denied.events s hrun⟩

end ZeroTrust.System.AuditTrail
