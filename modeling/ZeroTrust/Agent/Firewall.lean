/-
# `ZeroTrust.Agent.Firewall` — the agent's firewall enforcer

`firewall.rs`: the agent closes ports with nftables rules.  A protected port has
three of them, in this order:

    iifname "lo"  <proto> dport <port> accept
    iifname <tun> <proto> dport <port> accept
                  <proto> dport <port> drop

The enforcer remembers the handles of the rules it added, by port, and works off
the difference between that map and the ports desired.

The kernel's chain and the `nft` command are modelled here: a command fails or
succeeds, a failed one has no effect, a successful `add` appends a rule under a
handle never used before.  Which commands fail, which handles come out and in
which order a `HashMap` is iterated is up to an `Environment`.
-/
import Mathlib.Data.List.AList
import ZeroTrust.Lib.FirstMatch
import ZeroTrust.Lib.Table
import ZeroTrust.Text

namespace ZeroTrust.Agent

open Lib

/-! ## The chain -/

inductive Verdict where
  | accept
  | drop
  deriving DecidableEq

/-- A rule of the chain; `none` is any interface.  `proto` is nft's keyword. -/
structure Rule where
  iifname : Option String
  proto : String
  dport : UInt16
  verdict : Verdict
  deriving DecidableEq

structure Packet where
  iif : String
  proto : String
  dport : UInt16

def Rule.applies (r : Rule) (p : Packet) : Bool :=
  (r.iifname = none || r.iifname = some p.iif) && r.proto = p.proto && r.dport = p.dport

structure Kernel where
  /-- The rules in order, with their handles. -/
  chain : List (Nat × Rule)
  /-- Every handle given out so far. -/
  used : List Nat
  /-- How many commands were run. -/
  commands : Nat

/-- `policy accept`, and the first rule that matches. -/
def Kernel.verdict (k : Kernel) (p : Packet) : Verdict :=
  firstMatch (fun e p => Rule.applies e.2 p) (fun e => e.2.verdict) .accept k.chain p

/-- A table and a chain that were just created. -/
def Kernel.initialized : Kernel := ⟨[], [], 0⟩

/-- What the program does not decide. -/
structure Environment where
  unicode : UnicodeData
  /-- Does the n-th command fail? -/
  fails : Nat → Bool
  /-- The handle of the next rule, given those already used. -/
  handle : List Nat → Nat
  handle_fresh : ∀ used, handle used ∉ used
  /-- The order in which a map's keys are iterated, after n commands. -/
  order : Nat → List UInt16 → List UInt16
  order_perm : ∀ n keys, (order n keys).Perm keys

section Commands

variable (env : Environment)

/-- `add_rule`: the handle, or an error. -/
def addRule (k : Kernel) (rule : Rule) : Kernel × Option Nat :=
  if env.fails k.commands then ({ k with commands := k.commands + 1 }, none)
  else
    ({ chain := k.chain ++ [(env.handle k.used, rule)]
       used := env.handle k.used :: k.used
       commands := k.commands + 1 }, some (env.handle k.used))

/-- One `delete rule … handle h`; an error is only logged. -/
def deleteRule (k : Kernel) (h : Nat) : Kernel :=
  if env.fails k.commands then { k with commands := k.commands + 1 }
  else
    { k with
      chain := k.chain.filter fun e => e.1 ≠ h
      commands := k.commands + 1 }

def deleteRules (k : Kernel) (handles : List Nat) : Kernel :=
  handles.foldl (deleteRule env) k

/-! ## The enforcer -/

def acceptOn (iif proto : String) (port : UInt16) : Rule := ⟨some iif, proto, port, .accept⟩

def dropAll (proto : String) (port : UInt16) : Rule := ⟨none, proto, port, .drop⟩

/-- `protect_port`: the three handles, or an error after rolling back. -/
def protectPort (tunName : String) (k : Kernel) (port : UInt16) (protocol : String) :
    Kernel × Option (List Nat) :=
  let proto := env.unicode.toLowercase protocol
  -- Rule 1: accept from lo
  match addRule env k (acceptOn "lo" proto port) with
  | (k, none) => (k, none)
  | (k, some h1) =>
      -- Rule 2: accept from TUN
      match addRule env k (acceptOn tunName proto port) with
      | (k, none) => (deleteRules env k [h1], none)
      | (k, some h2) =>
          -- Rule 3: drop all other traffic to this port
          match addRule env k (dropAll proto port) with
          | (k, none) => (deleteRules env k [h1, h2], none)
          | (k, some h3) => (k, some [h1, h2, h3])

structure PortRule where
  port : UInt16
  protocol : String
  deriving DecidableEq

structure ProtectionEntry where
  port : UInt16
  protocol : String
  ruleHandles : List Nat
  deriving DecidableEq

/-- The enforcer's map, with the chain it works on. -/
structure Enforcer where
  tunName : String
  kernel : Kernel
  protectedMap : AList fun _ : UInt16 => ProtectionEntry

/-- A new enforcer on a chain. -/
def Enforcer.new (tunName : String) (kernel : Kernel) : Enforcer := ⟨tunName, kernel, ∅⟩

namespace Enforcer

/-- Forget a port and delete its rules. -/
def remove (s : Enforcer) (port : UInt16) : Enforcer :=
  match s.protectedMap.lookup port with
  | none => s
  | some entry =>
      { s with
        protectedMap := s.protectedMap.erase port
        kernel := deleteRules env s.kernel entry.ruleHandles }

/-- Protect one desired port, unless it is protected already. -/
def ensure (s : Enforcer) (rule : PortRule) : Enforcer :=
  if (s.protectedMap.lookup rule.port).isSome then s
  else
    match protectPort env s.tunName s.kernel rule.port rule.protocol with
    | (kernel, some handles) =>
        { s with
          kernel
          protectedMap := s.protectedMap.insert rule.port ⟨rule.port, rule.protocol, handles⟩ }
    | (kernel, none) => { s with kernel }

/-- The ports protected and no longer desired. -/
def stale (s : Enforcer) (desired : List PortRule) : List UInt16 :=
  (env.order s.kernel.commands s.protectedMap.keys).filter
    fun p => p ∉ desired.map PortRule.port

/-- Diff current protected ports vs desired and add/remove as needed. -/
def syncPolicy (s : Enforcer) (desired : List PortRule) : Enforcer :=
  desired.foldl (ensure env) ((s.stale env desired).foldl (remove env) s)

/-- Remove protection for a specific port. -/
def unprotectPort (s : Enforcer) (port : UInt16) : Enforcer := s.remove env port

/-- `get_state`: the protected ports, in some order. -/
def getState (s : Enforcer) : List PortRule :=
  ((env.order s.kernel.commands s.protectedMap.keys).filterMap fun p => s.protectedMap.lookup p).map
    fun e => ⟨e.port, e.protocol⟩

def restoreFromState (s : Enforcer) (ports : List PortRule) : Enforcer :=
  if ports.isEmpty then s else s.syncPolicy env ports

end Enforcer

end Commands

end ZeroTrust.Agent
