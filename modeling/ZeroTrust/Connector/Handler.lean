/-
# `ZeroTrust.Connector.Handler` — what the controller's messages do

`handle_control_message` of `main.rs` with the state it writes: the agent
allowlist of `allowlist.rs`, the policy cache, and the firewall policy that is
kept for new agents and broadcast to the connected ones.

    message            effect
    agent_allowlist    the allowlist is replaced
    agent_allow        one SPIFFE ID is added to it
    policy_snapshot    the policy is replaced; if accepted, the ports of the
                       protected resources go out to the agents
    anything else      nothing

A payload that does not parse has no effect.
-/
import ZeroTrust.Connector.PolicyCache

namespace ZeroTrust.Connector

open Lib (Json)

structure ControlMessage where
  type : String
  payload : ByteArray

/-! ## The agent allowlist -/

structure AgentInfo where
  agentId : String
  spiffeId : String
  deriving DecidableEq

def AgentInfo.ofJson (j : Json) : Option AgentInfo := do
  let kvs ← structFields ["agent_id", "spiffe_id"] j
  let agentId ← required decodeString "agent_id" kvs
  let spiffeId ← required decodeString "spiffe_id" kvs
  some { agentId, spiffeId }

/-- In-memory SPIFFE-ID allowlist for agents. -/
abbrev AgentAllowlist := Finset String

namespace AgentAllowlist

def allowed (a : AgentAllowlist) (spiffeId : String) : Bool := spiffeId ∈ a

def replace (items : List AgentInfo) : AgentAllowlist :=
  ((items.filter fun i => !i.spiffeId.isEmpty).map AgentInfo.spiffeId).toFinset

def add (a : AgentAllowlist) (spiffeId : String) : AgentAllowlist :=
  if spiffeId.isEmpty then a else insert spiffeId a

end AgentAllowlist

/-! ## The firewall policy for the agents -/

def portRule (port : Nat) (protocol : String) : Json :=
  .obj [("port", .num port), ("protocol", .str protocol)]

def extractPortRules (r : PolicyResource) : List Json :=
  match r.portFrom, r.portTo with
  | some first, some last =>
      (List.range' first.toNat (last.toNat + 1 - first.toNat)).map (portRule · r.protocol)
  | _, _ => if r.port > 0 then [portRule r.port.toNat r.protocol] else []

def firewallPolicy (snap : PolicySnapshot) : Json :=
  let rules :=
    (snap.resources.filter fun r => r.firewallStatus = "protected").flatMap extractPortRules
  .obj [("action", .str "sync"), ("protected_ports", .arr rules)]

/-! ## The handler -/

/-- What a control message can change.  `firewallTx` is what was broadcast so far. -/
structure HandlerState (L : Libraries) where
  allowlist : AgentAllowlist
  acl : PolicyCache L
  latestFwPolicy : Option ByteArray
  firewallTx : List ByteArray

variable {L : Libraries}

/-- `none` is a panic while the snapshot's expiry is computed. -/
def handlePolicySnapshot (s : HandlerState L) (payload : ByteArray) (now : SystemTime) :
    Option (HandlerState L) :=
  match fromSlice payload with
  | none => some s
  | some snap =>
      match s.acl.replaceSnapshot snap now with
      | none => none
      | some (acl, false) => some { s with acl }
      | some (acl, true) =>
          let data := (String.ofList (Json.render serdeEscape (firewallPolicy snap))).toUTF8
          some { s with acl, latestFwPolicy := some data, firewallTx := s.firewallTx ++ [data] }

def handleControlMessage (s : HandlerState L) (msg : ControlMessage) (now : SystemTime) :
    Option (HandlerState L) :=
  if msg.type = "agent_allowlist" then
    match parseSlice (decodeVec AgentInfo.ofJson) msg.payload with
    | some items => some { s with allowlist := .replace items }
    | none => some s
  else if msg.type = "agent_allow" then
    match parseSlice AgentInfo.ofJson msg.payload with
    | some item => some { s with allowlist := s.allowlist.add item.spiffeId }
    | none => some s
  else if msg.type = "policy_snapshot" then handlePolicySnapshot s msg.payload now
  else some s

/-- What a message does to the cache: nothing, or what `replace_snapshot` does. -/
theorem handlePolicySnapshot_spec {s s' : HandlerState L} {payload : ByteArray}
    {now : SystemTime} (h : handlePolicySnapshot s payload now = some s') :
    (fromSlice payload = none ∧ s' = s) ∨
    ∃ snap accepted, fromSlice payload = some snap ∧
      s.acl.replaceSnapshot snap now = some (s'.acl, accepted) := by
  cases hdecode : fromSlice payload with
  | none =>
      simp only [handlePolicySnapshot, hdecode, Option.some.injEq] at h
      exact Or.inl ⟨rfl, h.symm⟩
  | some snap =>
      cases hreplace : s.acl.replaceSnapshot snap now with
      | none =>
          simp only [handlePolicySnapshot, hdecode, hreplace] at h
          cases h
      | some result =>
          obtain ⟨acl, accepted⟩ := result
          refine Or.inr ⟨snap, accepted, rfl, ?_⟩
          cases accepted <;>
            (simp only [handlePolicySnapshot, hdecode, hreplace] at h; cases h; exact hreplace)

/-- A snapshot that is decoded and accepted is the policy from then on. -/
theorem handlePolicySnapshot_accepted {s s' : HandlerState L} {payload : ByteArray}
    {now : SystemTime} {snap : PolicySnapshot} {acl : PolicyCache L}
    (hdecode : fromSlice payload = some snap)
    (haccepted : s.acl.replaceSnapshot snap now = some (acl, true))
    (h : handlePolicySnapshot s payload now = some s') : s'.acl = acl := by
  simp only [handlePolicySnapshot, hdecode, haccepted] at h
  cases h
  rfl

/-- The policy changes with a snapshot only, to what the cache makes of it. -/
theorem handleControlMessage_acl {s s' : HandlerState L} {msg : ControlMessage}
    {now : SystemTime} (h : handleControlMessage s msg now = some s') :
    s'.acl = s.acl ∨ ∃ snap accepted, msg.type = "policy_snapshot" ∧
      fromSlice msg.payload = some snap ∧
      s.acl.replaceSnapshot snap now = some (s'.acl, accepted) := by
  unfold handleControlMessage at h
  split at h
  · split at h <;> exact Or.inl (congrArg HandlerState.acl (Option.some.inj h)).symm
  split at h
  · split at h <;> exact Or.inl (congrArg HandlerState.acl (Option.some.inj h)).symm
  split at h
  next htype =>
    rcases handlePolicySnapshot_spec h with ⟨-, rfl⟩ | ⟨snap, accepted, hdecode, hreplace⟩
    · exact Or.inl rfl
    · exact Or.inr ⟨snap, accepted, htype, hdecode, hreplace⟩
  · exact Or.inl (congrArg HandlerState.acl (Option.some.inj h)).symm

theorem handlePolicySnapshot_of_accepts {s : HandlerState L} {payload : ByteArray}
    {now validUntil : SystemTime} {snap : PolicySnapshot}
    (hdecode : fromSlice payload = some snap) (haccepts : s.acl.Accepts snap now validUntil) :
    ∃ s', handlePolicySnapshot s payload now = some s' ∧
      s'.acl = { s.acl with inner := PolicyCache.indexSnapshot L snap validUntil } := by
  simp only [handlePolicySnapshot, hdecode, PolicyCache.replaceSnapshot_of_accepts haccepts]
  exact ⟨_, rfl, rfl⟩

end ZeroTrust.Connector
