/-
# `ZeroTrust.Agent.Inbound` — the messages an agent receives

`handle_inbound_message` of `run.rs` and `handle_firewall_policy` of `firewall.rs`: a
`firewall_policy` message is decoded, its list is synchronized, and what was applied is
reported in an `agent_log`.  A payload that does not decode changes nothing and is not
reported; any other message is ignored.

    `ofJson_portRule`       a port rule of the connector's is decoded as it was written
    `mapM_eq_of_forall`     so is a list of things that each decode
    `mem_of_mapM`           and then it has the elements of that list
-/
import ZeroTrust.Agent.Restart
import ZeroTrust.Connector.Handler

namespace ZeroTrust.Agent

open Lib (Json)
open Connector (ControlMessage structFields required decodeString decodeU16 decodeVec parseSlice
  serdeEscape portRule)

def PortRule.ofJson (j : Json) : Option PortRule := do
  let kvs ← structFields ["port", "protocol"] j
  let port ← required decodeU16 "port" kvs
  let protocol ← required decodeString "protocol" kvs
  some { port, protocol }

def FirewallPolicy.ofJson (j : Json) : Option FirewallPolicy := do
  let kvs ← structFields ["action", "protected_ports"] j
  let action ← required decodeString "action" kvs
  let protectedPorts ← required (decodeVec PortRule.ofJson) "protected_ports" kvs
  some { action, protectedPorts }

structure FirewallPolicySummary where
  action : String
  protectedPortCount : Nat
  ports : String

def formatPortRules (rules : List PortRule) : String :=
  let ports := rules.map fun rule => toString rule.port.toNat ++ "/" ++ rule.protocol
  if ports.isEmpty then "none" else String.intercalate "," ports

section Inbound

variable (env : Environment)

/-- `handle_firewall_policy`; `none` is its error. -/
def handleFirewallPolicy (h : Host) (payload : ByteArray) :
    Option (Host × FirewallPolicySummary) :=
  (parseSlice FirewallPolicy.ofJson payload).map fun policy =>
    (h.handleFirewallPolicy env policy, {
      action := policy.action
      protectedPortCount := policy.protectedPorts.length
      ports := formatPortRules policy.protectedPorts })

/-- The text of the report. -/
def appliedMessage (summary : FirewallPolicySummary) : String :=
  "firewall policy applied: action=" ++ summary.action ++
    " reason=connector pushed protected resource firewall update protected_ports=" ++
    toString summary.protectedPortCount ++ " ports=" ++ summary.ports

/-- What a message does to the machine, and what is sent back. -/
def handleInboundMessage (agentId : String) (h : Host) (msg : ControlMessage) :
    Host × Option ControlMessage :=
  if msg.type = "firewall_policy" then
    match handleFirewallPolicy env h msg.payload with
    | none => (h, none)
    | some (h, summary) =>
        let payload := Json.obj
          [("agent_id", .str agentId), ("message", .str (appliedMessage summary))]
        (h, some {
          type := "agent_log"
          payload := (String.ofList (Json.render serdeEscape payload)).toUTF8 })
  else (h, none)

end Inbound

/-! ## Decoding -/

theorem ofJson_members {kvs : List (String × Json)} {port : UInt16} {protocol : String}
    (hport : required decodeU16 "port" kvs = some port)
    (hprotocol : required decodeString "protocol" kvs = some protocol) :
    PortRule.ofJson (.obj kvs) = some ⟨port, protocol⟩ := by
  simp only [PortRule.ofJson, structFields, hport, hprotocol, Option.bind_eq_bind,
    Option.bind_some]

theorem ofJson_portRule (port : UInt16) (protocol : String) :
    PortRule.ofJson (portRule port.toNat protocol) = some ⟨port, protocol⟩ := by
  have hport : required decodeU16 "port"
      [("port", Json.num port.toNat), ("protocol", Json.str protocol)] = some port :=
    (Connector.required_of_filter _ (by rfl)).trans (Connector.decodeU16_toNat port)
  have hprotocol : required decodeString "protocol"
      [("port", Json.num port.toNat), ("protocol", Json.str protocol)] = some protocol :=
    (Connector.required_of_filter decodeString (v := .str protocol) (by rfl)).trans rfl
  exact ofJson_members hport hprotocol

theorem mapM_eq_of_forall {α β : Type} {decode : α → Option β} :
    ∀ {xs : List α}, (∀ x ∈ xs, ∃ y, decode x = some y) → ∃ ys, xs.mapM decode = some ys
  | [], _ => ⟨[], rfl⟩
  | x :: xs, h => by
      obtain ⟨hx, hxs⟩ := List.forall_mem_cons.mp h
      obtain ⟨y, hy⟩ := hx
      obtain ⟨ys, hys⟩ := mapM_eq_of_forall hxs
      exact ⟨y :: ys, by simp [List.mapM_cons, hy, hys]⟩

theorem mem_of_mapM {α β : Type} {decode : α → Option β} :
    ∀ {xs : List α} {ys : List β}, xs.mapM decode = some ys →
      ∀ y, y ∈ ys ↔ ∃ x ∈ xs, decode x = some y
  | [], ys, h, y => by
      obtain rfl : [] = ys := by simpa using h
      simp
  | x :: xs, ys, h, y => by
      simp only [List.mapM_cons, Option.bind_eq_bind, Option.bind_eq_some_iff] at h
      obtain ⟨z, hz, zs, hzs, hys⟩ := h
      obtain rfl : z :: zs = ys := by simpa using hys
      simp only [List.mem_cons, mem_of_mapM hzs, exists_eq_or_imp, hz, Option.some.injEq,
        @eq_comm _ y z]

end ZeroTrust.Agent
