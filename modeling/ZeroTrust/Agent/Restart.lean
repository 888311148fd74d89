/-
# `ZeroTrust.Agent.Restart` — the firewall across restarts of the agent

Three things hold the firewall's state: the kernel's chain and the state file, which
survive the process, and the enforcer's map, which does not.  A process stopped by
Ctrl-C deletes the table; one that crashes, or is terminated by its service manager,
leaves the chain behind.  The next one adds the ports of the state file to that chain
and never reads the rules that are in it already.

So the rules in force at a crash stay until the table is deleted:

    `Kept`              the chain is what the crashes since the last Ctrl-C left, then
                        the rules of the ports of the last list
    `closes_last_iff`   it closes exactly the ports of the next list iff that list
                        wants every port that was closed at such a crash
-/
import ZeroTrust.Lib.Run
import ZeroTrust.Agent.Sync

namespace ZeroTrust.Agent

open Lib

/-! ## The agent's process -/

structure FirewallPolicy where
  action : String
  protectedPorts : List PortRule

/-- A machine with the agent installed. -/
structure Host where
  /-- The chain, with the map of the process if one is up. -/
  enforcer : Enforcer
  /-- `firewall_state.json`. -/
  stateFile : Option (List PortRule)
  up : Bool

inductive Event where
  | start
  /-- A `firewall_policy` message of the connector. -/
  | policy (p : FirewallPolicy)
  /-- Ctrl-C. -/
  | interrupt
  /-- A crash, or a signal that `run` does not wait for. -/
  | crash

/-- `delete table`: the chain goes with it. -/
def Kernel.deleteTable (k : Kernel) : Kernel := ⟨[], [], k.commands + 1⟩

namespace Host

variable (env : Environment)

def initial (tunName : String) : Host := ⟨.new tunName .initialized, none, false⟩

/-- `handle_firewall_policy`, after parsing. -/
def handleFirewallPolicy (h : Host) (policy : FirewallPolicy) : Host :=
  if policy.action = "sync" then
    let enforcer := h.enforcer.syncPolicy env policy.protectedPorts
    -- Persist state after sync
    { h with enforcer, stateFile := some (enforcer.getState env) }
  else h

/-- The firewall part of `run`: a new enforcer, on a chain that may exist already. -/
def startUp (h : Host) : Host :=
  let enforcer := Enforcer.new h.enforcer.tunName h.enforcer.kernel
  match h.stateFile with
  | some ports => { h with enforcer := enforcer.restoreFromState env ports, up := true }
  | none => { h with enforcer, up := true }

/-- The process ends, with this chain left. -/
def ended (h : Host) (kernel : Kernel) : Host :=
  { h with enforcer := .new h.enforcer.tunName kernel, up := false }

def step (h : Host) : Event → Option Host
  | .start => if h.up then none else some (h.startUp env)
  | .policy p => if h.up then some (h.handleFirewallPolicy env p) else none
  | .interrupt => if h.up then some (h.ended h.enforcer.kernel.deleteTable) else none
  | .crash => if h.up then some (h.ended h.enforcer.kernel) else none

end Host

/-! ## What the events say -/

/-- The list a message asks for. -/
def Event.desired? : Event → Option (List PortRule)
  | .policy p => if p.action = "sync" then some p.protectedPorts else none
  | _ => none

/-- The last list asked for. -/
def lastDesired (events : List Event) : List PortRule :=
  (events.filterMap Event.desired?).getLastD []

def Wants (desired : List PortRule) (port : UInt16) : Prop := ∃ r ∈ desired, r.port = port

/-- The port was wanted closed at a crash after which nobody deleted the table. -/
def LeftBehind (events : List Event) (port : UInt16) : Prop :=
  ∃ before since, events = before ++ .crash :: since ∧ .interrupt ∉ since ∧
    Wants (lastDesired before) port

theorem lastDesired_concat (events : List Event) (e : Event) :
    lastDesired (events ++ [e]) = e.desired?.getD (lastDesired events) := by
  cases h : e.desired? <;> simp [lastDesired, List.filterMap_append, h]

theorem leftBehind_concat {events : List Event} {e : Event} {port : UInt16} :
    LeftBehind (events ++ [e]) port ↔
      (e = .crash ∧ Wants (lastDesired events) port) ∨
        (e ≠ .interrupt ∧ LeftBehind events port) := by
  constructor
  · rintro ⟨before, since, heq, hsince, hwants⟩
    rcases List.eq_nil_or_concat since with rfl | ⟨since, last, rfl⟩
    · obtain ⟨rfl, hlast⟩ := List.append_inj' heq rfl
      exact Or.inl ⟨(List.singleton_inj.mp hlast), hwants⟩
    · rw [List.concat_eq_append, ← List.cons_append, ← List.append_assoc] at heq
      obtain ⟨rfl, hlast⟩ := List.append_inj' heq rfl
      obtain rfl := List.singleton_inj.mp hlast
      rw [List.concat_eq_append, List.mem_append, List.mem_singleton, not_or] at hsince
      exact Or.inr ⟨fun h => hsince.2 h.symm, before, since, rfl, hsince.1, hwants⟩
  · rintro (⟨rfl, hwants⟩ | ⟨hne, before, since, rfl, hsince, hwants⟩)
    · exact ⟨events, [], rfl, by simp, hwants⟩
    · refine ⟨before, since ++ [e], by simp, ?_, hwants⟩
      rw [List.mem_append, List.mem_singleton, not_or]
      exact ⟨hsince, fun h => hne h.symm⟩

/-! ## The invariant -/

/-- The chain drops the packet by a rule of this part of it. -/
def Drops (rules : List (Nat × Rule)) (p : Packet) : Prop := ∃ x ∈ rules, x.2.applies p = true

/-- `protoOf` is the protocol each port comes with, lower-cased. -/
structure Kept (env : Environment) (tunName : String) (protoOf : UInt16 → String)
    (events : List Event) (h : Host) : Prop where
  tun : h.enforcer.tunName = tunName
  file : ∀ port, Wants (h.stateFile.getD []) port ↔ Wants (lastDesired events) port
  file_proto : ∀ r ∈ h.stateFile.getD [], env.unicode.toLowercase r.protocol = protoOf r.port
  laid : ∃ base entries, Laid env base h.enforcer entries ∧
    ∀ p : Packet, p.iif ≠ "lo" → p.iif ≠ tunName →
      (Drops base p ↔ LeftBehind events p.dport ∧ protoOf p.dport = p.proto)
  tracked : ∀ port, (h.enforcer.protocol? port).isSome ↔
    h.up = true ∧ Wants (lastDesired events) port
  tracked_proto : ∀ port protocol, h.enforcer.protocol? port = some protocol →
    env.unicode.toLowercase protocol = protoOf port

section Kept

variable {env : Environment} {tunName : String} {protoOf : UInt16 → String}
  {events : List Event} {h : Host}

/-- The chain of a laid enforcer: what was there, and what is tracked. -/
theorem drops_chain_iff {base : List (Nat × Rule)} {s : Enforcer}
    {entries : List ProtectionEntry} (hlaid : Laid env base s entries) (p : Packet) :
    Drops s.kernel.chain p ↔ Drops base p ∨
      ∃ protocol, s.protocol? p.dport = some protocol ∧
        env.unicode.toLowercase protocol = p.proto := by
  rw [tracked_iff hlaid, Drops, hlaid.chain]
  constructor
  · rintro ⟨x, hx, happlies⟩
    rcases List.mem_append.mp hx with hx | hx
    · exact Or.inl ⟨x, hx, happlies⟩
    · obtain ⟨e, he, hx⟩ := List.mem_flatMap.mp hx
      exact Or.inr ⟨e, he, of_applies hx happlies⟩
  · rintro (⟨x, hx, happlies⟩ | ⟨e, he, hlive⟩)
    · exact ⟨x, List.mem_append_left _ hx, happlies⟩
    · obtain ⟨x, hx, happlies⟩ := (hlaid.block_decides he hlive).1
      exact ⟨x, List.mem_append_right _ (List.mem_flatMap.mpr ⟨e, he, hx⟩), happlies⟩

theorem find_isSome_iff_wants {desired : List PortRule} {port : UInt16} :
    (desired.find? fun r => r.port = port).isSome ↔ Wants desired port := by
  simp [Wants]

theorem kept_initial (env : Environment) (tunName : String) (protoOf : UInt16 → String) :
    Kept env tunName protoOf [] (.initial tunName) where
  tun := rfl
  file := by simp [Host.initial, lastDesired]
  file_proto := by simp [Host.initial]
  laid := by
    refine ⟨[], [], laid_new (guarded_initialized env tunName), ?_⟩
    intro p _ _
    simp [Drops, LeftBehind]
  tracked := by simp [Host.initial, Enforcer.protocol?, Enforcer.new]
  tracked_proto := by simp [Host.initial, Enforcer.protocol?, Enforcer.new]

/-- All of the chain: what was left behind, and the last list while the process is up. -/
theorem Kept.chain (hk : Kept env tunName protoOf events h) {p : Packet} (hlo : p.iif ≠ "lo")
    (htun : p.iif ≠ tunName) :
    Drops h.enforcer.kernel.chain p ↔
      (LeftBehind events p.dport ∨ (h.up = true ∧ Wants (lastDesired events) p.dport)) ∧
        protoOf p.dport = p.proto := by
  obtain ⟨base, entries, hlaid, hbase⟩ := hk.laid
  rw [drops_chain_iff hlaid, hbase p hlo htun, or_and_right, ← hk.tracked]
  refine or_congr_right ?_
  constructor
  · rintro ⟨protocol, hprotocol, hproto⟩
    exact ⟨by simp [hprotocol], (hk.tracked_proto _ _ hprotocol).symm.trans hproto⟩
  · rintro ⟨hsome, hproto⟩
    obtain ⟨protocol, hprotocol⟩ := Option.isSome_iff_exists.mp hsome
    exact ⟨protocol, hprotocol, (hk.tracked_proto _ _ hprotocol).trans hproto⟩

/-- The process ends; what is left of the chain is what was left behind. -/
theorem kept_ended (hk : Kept env tunName protoOf events h) {e : Event}
    (hdesired : e.desired? = none) {kernel : Kernel}
    (hguarded : Guarded env (.new h.enforcer.tunName kernel))
    (hchain : ∀ p : Packet, p.iif ≠ "lo" → p.iif ≠ tunName →
      (Drops kernel.chain p ↔ LeftBehind (events ++ [e]) p.dport ∧ protoOf p.dport = p.proto)) :
    Kept env tunName protoOf (events ++ [e]) (h.ended kernel) where
  tun := hk.tun
  file port := by
    rw [lastDesired_concat, hdesired]
    exact hk.file port
  file_proto := hk.file_proto
  laid := ⟨kernel.chain, [], laid_new hguarded, hchain⟩
  tracked := by simp [Host.ended, Enforcer.protocol?, Enforcer.new]
  tracked_proto := by simp [Host.ended, Enforcer.protocol?, Enforcer.new]

theorem kept_crash (hk : Kept env tunName protoOf events h) (hup : h.up = true) :
    Kept env tunName protoOf (events ++ [.crash]) (h.ended h.enforcer.kernel) := by
  obtain ⟨base, entries, hlaid, -⟩ := hk.laid
  refine kept_ended hk rfl (guarded_new hlaid.guarded.live hlaid.guarded.closed) ?_
  intro p hlo htun
  rw [hk.chain hlo htun, leftBehind_concat]
  simp [hup, or_comm]

theorem kept_interrupt (hk : Kept env tunName protoOf events h) :
    Kept env tunName protoOf (events ++ [.interrupt])
      (h.ended h.enforcer.kernel.deleteTable) := by
  refine kept_ended hk rfl (guarded_new ?_ ?_) fun p _ _ => ?_
  · simp [Kernel.deleteTable]
  · simp [Kernel.deleteTable]
  · simp [Drops, Kernel.deleteTable, leftBehind_concat]

/-- A state file gives back the ports it was written from. -/
theorem mem_getState {base : List (Nat × Rule)} {s : Enforcer} {entries : List ProtectionEntry}
    (hlaid : Laid env base s entries) {r : PortRule} :
    r ∈ s.getState env ↔ s.protocol? r.port = some r.protocol := by
  simp only [Enforcer.getState, List.mem_map, List.mem_filterMap, (env.order_perm _ _).mem_iff]
  constructor
  · rintro ⟨e, ⟨port, -, he⟩, rfl⟩
    obtain ⟨-, rfl⟩ := (hlaid.lookup port e).mp he
    simp [Enforcer.protocol?, he]
  · intro hprotocol
    obtain ⟨e, he, hproto⟩ := Option.map_eq_some_iff.mp hprotocol
    obtain ⟨-, hport⟩ := (hlaid.lookup _ e).mp he
    refine ⟨e, ⟨r.port, ?_, he⟩, by rw [hport, hproto]⟩
    exact AList.lookup_isSome.mp (by rw [he]; rfl)

theorem protocol_restoreFromState (hok : ∀ n, env.fails n = false) (s : Enforcer)
    (ports : List PortRule) (q : UInt16) (hnone : s.protocol? q = none) :
    (s.restoreFromState env ports).protocol? q =
      (ports.find? fun r => r.port = q).map PortRule.protocol := by
  unfold Enforcer.restoreFromState
  split
  next hempty =>
    rw [List.isEmpty_iff.mp hempty]
    exact hnone
  · simp [protocol_syncPolicy hok, hnone]

theorem laid_restoreFromState (hok : ∀ n, env.fails n = false) {base : List (Nat × Rule)}
    {s : Enforcer} {entries : List ProtectionEntry} (hlaid : Laid env base s entries)
    (ports : List PortRule) :
    ∃ entries, Laid env base (s.restoreFromState env ports) entries := by
  unfold Enforcer.restoreFromState
  split
  · exact ⟨entries, hlaid⟩
  · exact laid_syncPolicy hok hlaid ports

theorem tunName_restoreFromState (s : Enforcer) (ports : List PortRule) :
    (s.restoreFromState env ports).tunName = s.tunName := by
  unfold Enforcer.restoreFromState
  split
  · rfl
  · exact tunName_syncPolicy env s ports

/-- No state file is an empty one. -/
theorem startUp_eq (h : Host) : h.startUp env =
    { h with
      enforcer := (Enforcer.new h.enforcer.tunName h.enforcer.kernel).restoreFromState env
        (h.stateFile.getD [])
      up := true } := by
  unfold Host.startUp
  cases h.stateFile <;> rfl

/-- A new process adds the ports of the state file to the chain it finds. -/
theorem kept_start (hok : ∀ n, env.fails n = false) (hk : Kept env tunName protoOf events h)
    (hdown : h.up = false) : Kept env tunName protoOf (events ++ [.start]) (h.startUp env) := by
  have hfind : ∀ q, ((h.startUp env).enforcer.protocol? q) =
      ((h.stateFile.getD []).find? fun r => r.port = q).map PortRule.protocol := by
    intro q
    rw [startUp_eq]
    exact protocol_restoreFromState hok _ _ q (by simp [Enforcer.protocol?, Enforcer.new])
  refine
    { tun := ?tun
      file := ?file
      file_proto := ?file_proto
      laid := ?laid
      tracked := ?tracked
      tracked_proto := ?tracked_proto }
  case tun =>
    rw [startUp_eq]
    exact (tunName_restoreFromState _ _).trans hk.tun
  case file =>
    rw [startUp_eq, lastDesired_concat]
    exact hk.file
  case file_proto =>
    rw [startUp_eq]
    exact hk.file_proto
  case laid =>
    obtain ⟨base, entries, hlaid, -⟩ := hk.laid
    have hnew : Guarded env (.new h.enforcer.tunName h.enforcer.kernel) :=
      guarded_new hlaid.guarded.live hlaid.guarded.closed
    obtain ⟨restored, hrestored⟩ :=
      laid_restoreFromState hok (laid_new hnew) (h.stateFile.getD [])
    refine ⟨_, restored, by rw [startUp_eq]; exact hrestored, ?_⟩
    intro p hlo htun
    rw [hk.chain hlo htun, leftBehind_concat]
    simp [hdown]
  case tracked =>
    intro port
    rw [hfind, Option.isSome_map, find_isSome_iff_wants, hk.file, lastDesired_concat, startUp_eq]
    simp [Event.desired?]
  case tracked_proto =>
    intro port protocol hprotocol
    rw [hfind] at hprotocol
    obtain ⟨r, hr, rfl⟩ := Option.map_eq_some_iff.mp hprotocol
    obtain rfl : r.port = port := by simpa using List.find?_some hr
    exact hk.file_proto r (List.mem_of_find?_eq_some hr)

theorem kept_sync (hok : ∀ n, env.fails n = false) (hk : Kept env tunName protoOf events h)
    (hup : h.up = true) {p : FirewallPolicy} (hsync : p.action = "sync")
    (hsame : ∀ r ∈ p.protectedPorts, env.unicode.toLowercase r.protocol = protoOf r.port) :
    Kept env tunName protoOf (events ++ [.policy p]) (h.handleFirewallPolicy env p) := by
  have hdesired : lastDesired (events ++ [.policy p]) = p.protectedPorts := by
    simp [lastDesired_concat, Event.desired?, hsync]
  have hhandle : h.handleFirewallPolicy env p =
      ⟨h.enforcer.syncPolicy env p.protectedPorts,
        some ((h.enforcer.syncPolicy env p.protectedPorts).getState env), h.up⟩ := by
    simp [Host.handleFirewallPolicy, hsync]
  obtain ⟨base, entries, hlaid, hbase⟩ := hk.laid
  obtain ⟨entries', hlaid'⟩ := laid_syncPolicy hok hlaid p.protectedPorts
  have hsome : ∀ port, ((h.enforcer.syncPolicy env p.protectedPorts).protocol? port).isSome ↔
      Wants p.protectedPorts port := by
    intro port
    rw [protocol_syncPolicy hok, Option.isSome_map, find_isSome_iff_wants]
  have hproto : ∀ port protocol,
      (h.enforcer.syncPolicy env p.protectedPorts).protocol? port = some protocol →
        env.unicode.toLowercase protocol = protoOf port := by
    intro port protocol hprotocol
    rw [protocol_syncPolicy hok] at hprotocol
    obtain ⟨r, hr, rfl⟩ := Option.map_eq_some_iff.mp hprotocol
    obtain rfl : r.port = port := by simpa using List.find?_some hr
    cases hold : h.enforcer.protocol? r.port with
    | none => exact hsame r (List.mem_of_find?_eq_some hr)
    | some old => exact hk.tracked_proto _ old hold
  rw [hhandle]
  refine ⟨(tunName_syncPolicy env _ _).trans hk.tun, ?_, ?_, ⟨base, entries', hlaid', ?_⟩, ?_,
    hproto⟩
  · intro port
    rw [hdesired, ← hsome]
    simp only [Wants, Option.getD_some, mem_getState hlaid', Option.isSome_iff_exists]
    constructor
    · rintro ⟨r, hr, rfl⟩
      exact ⟨_, hr⟩
    · rintro ⟨protocol, hprotocol⟩
      exact ⟨⟨port, protocol⟩, hprotocol, rfl⟩
  · intro r hr
    exact hproto _ _ ((mem_getState hlaid').mp hr)
  · intro q hlo htun
    rw [hbase q hlo htun, leftBehind_concat]
    simp
  · intro port
    rw [hdesired, hsome]
    simp [hup]

theorem kept_ignored (hk : Kept env tunName protoOf events h) {p : FirewallPolicy}
    (hother : p.action ≠ "sync") :
    Kept env tunName protoOf (events ++ [.policy p]) (h.handleFirewallPolicy env p) := by
  have hdesired : lastDesired (events ++ [.policy p]) = lastDesired events := by
    simp [lastDesired_concat, Event.desired?, hother]
  have hhandle : h.handleFirewallPolicy env p = h := if_neg hother
  obtain ⟨base, entries, hlaid, hbase⟩ := hk.laid
  rw [hhandle]
  refine ⟨hk.tun, hdesired ▸ hk.file, hk.file_proto, ⟨base, entries, hlaid, ?_⟩,
    hdesired ▸ hk.tracked, hk.tracked_proto⟩
  intro q hlo htun
  rw [hbase q hlo htun, leftBehind_concat]
  simp

/-- A port comes with one protocol throughout. -/
def SameProtocol (env : Environment) (protoOf : UInt16 → String) (events : List Event) : Prop :=
  ∀ e ∈ events, ∀ desired, e.desired? = some desired →
    ∀ r ∈ desired, env.unicode.toLowercase r.protocol = protoOf r.port

theorem kept_step (hok : ∀ n, env.fails n = false) (hk : Kept env tunName protoOf events h)
    {e : Event} {h' : Host} (hsame : ∀ desired, e.desired? = some desired →
      ∀ r ∈ desired, env.unicode.toLowercase r.protocol = protoOf r.port)
    (hstep : h.step env e = some h') : Kept env tunName protoOf (events ++ [e]) h' := by
  cases e with
  | start =>
      simp only [Host.step, Option.ite_none_left_eq_some, Bool.not_eq_true] at hstep
      obtain ⟨hdown, hstep⟩ := hstep
      cases hstep
      exact kept_start hok hk hdown
  | policy p =>
      simp only [Host.step, Option.ite_none_right_eq_some] at hstep
      obtain ⟨hup, hstep⟩ := hstep
      cases hstep
      by_cases hsync : p.action = "sync"
      · exact kept_sync hok hk hup hsync (hsame _ (if_pos hsync))
      · exact kept_ignored hk hsync
  | interrupt =>
      simp only [Host.step, Option.ite_none_right_eq_some] at hstep
      obtain ⟨-, hstep⟩ := hstep
      cases hstep
      exact kept_interrupt hk
  | crash =>
      simp only [Host.step, Option.ite_none_right_eq_some] at hstep
      obtain ⟨hup, hstep⟩ := hstep
      cases hstep
      exact kept_crash hk hup

theorem kept_run (hok : ∀ n, env.fails n = false) (hsame : SameProtocol env protoOf events)
    (hrun : run (Host.step env) (.initial tunName) events = some h) :
    Kept env tunName protoOf events h := by
  refine run_history
    (motive := fun events h => SameProtocol env protoOf events → Kept env tunName protoOf events h)
    (fun _ => kept_initial env tunName protoOf) ?_ hrun hsame
  intro events h e h' _ ih hstep hsame
  exact kept_step hok (ih fun e' he' => hsame e' (List.mem_append_left _ he'))
    (hsame e (by simp)) hstep

end Kept

/-- From elsewhere, exactly the ports of the list are closed, each for its protocol. -/
def Closes (env : Environment) (s : Enforcer) (desired : List PortRule) : Prop :=
  ∀ p : Packet, p.iif ≠ "lo" → p.iif ≠ s.tunName →
    (s.kernel.verdict p = .drop ↔
      ∃ r ∈ desired, r.port = p.dport ∧ env.unicode.toLowercase r.protocol = p.proto)

/-- **Restart theorem.**  In every run of starts, policies, crashes and Ctrl-Cs with no
command failing and one protocol a port: after a synchronization exactly the desired
ports are closed iff it wants every port that was wanted at a crash since the table was
last deleted. -/
theorem closes_last_iff (env : Environment) (hok : ∀ n, env.fails n = false) (tunName : String)
    (protoOf : UInt16 → String) (events : List Event) (desired : List PortRule) (h : Host)
    (hsame : SameProtocol env protoOf (events ++ [.policy ⟨"sync", desired⟩]))
    (hrun : run (Host.step env) (.initial tunName) (events ++ [.policy ⟨"sync", desired⟩]) =
      some h) :
    Closes env h.enforcer desired ↔
      ∀ before since, events = before ++ .crash :: since → .interrupt ∉ since →
        ∀ r ∈ lastDesired before, ∃ r' ∈ desired, r'.port = r.port := by
  have hk := kept_run hok hsame hrun
  obtain ⟨base, entries, hlaid, -⟩ := hk.laid
  have hup : h.up = true := by
    obtain ⟨t, -, hstep⟩ := run_concat.mp hrun
    simp only [Host.step, Option.ite_none_right_eq_some] at hstep
    obtain ⟨hup, hstep⟩ := hstep
    cases hstep
    exact hup
  have hdropped : ∀ p : Packet, p.iif ≠ "lo" → p.iif ≠ tunName →
      (h.enforcer.kernel.verdict p = .drop ↔
        (LeftBehind events p.dport ∨ Wants desired p.dport) ∧ protoOf p.dport = p.proto) := by
    intro p hlo htun
    have hchain := hk.chain hlo htun
    rw [leftBehind_concat, lastDesired_concat] at hchain
    rw [dropped_iff_applies hlaid.guarded hlo (hk.tun ▸ htun)]
    show Drops _ p ↔ _
    simpa [hup, Event.desired?] using hchain
  have hwants : ∀ p : Packet,
      (∃ r ∈ desired, r.port = p.dport ∧ env.unicode.toLowercase r.protocol = p.proto) ↔
        Wants desired p.dport ∧ protoOf p.dport = p.proto := by
    have hproto : ∀ r ∈ desired, env.unicode.toLowercase r.protocol = protoOf r.port :=
      hsame (.policy ⟨"sync", desired⟩) (by simp) desired rfl
    intro p
    constructor
    · rintro ⟨r, hr, hport, hlower⟩
      exact ⟨⟨r, hr, hport⟩, hport ▸ (hproto r hr).symm.trans hlower⟩
    · rintro ⟨⟨r, hr, hport⟩, hlower⟩
      exact ⟨r, hr, hport, (hproto r hr).trans (hport ▸ hlower)⟩
  constructor
  · intro hcloses before since heq hsince r hr
    obtain ⟨iif, hlo, hiif⟩ := exists_foreign tunName
    have hdrop := (hdropped ⟨iif, protoOf r.port, r.port⟩ hlo hiif).mpr
      ⟨Or.inl ⟨before, since, heq, hsince, r, hr, rfl⟩, rfl⟩
    obtain ⟨r', hr', hport, -⟩ := (hcloses _ hlo (hk.tun ▸ hiif)).mp hdrop
    exact ⟨r', hr', hport⟩
  · intro hall p hlo htun
    rw [hdropped p hlo (hk.tun ▸ htun), hwants]
    refine and_congr_left fun _ => or_iff_right_of_imp ?_
    rintro ⟨before, since, heq, hsince, r, hr, hport⟩
    obtain ⟨r', hr', hport'⟩ := hall before since heq hsince r hr
    exact ⟨r', hr', hport'.trans hport⟩

/-- Each port of the examples below comes with `tcp`. -/
theorem sameProtocol_tcp {events : List Event}
    (h : ∀ e ∈ events, ∀ desired, e.desired? = some desired → ∀ r ∈ desired, r.protocol = "tcp") :
    SameProtocol (.counting []) (fun _ => "tcp") events := by
  intro e he desired hdesired r hr
  rw [h e he desired hdesired r hr]
  rfl

/-- A crash, and a list that still wants the port. -/
def recoveredEvents : List Event :=
  [.start, .policy ⟨"sync", [⟨22, "tcp"⟩]⟩, .crash, .start]

theorem recovered_closes :
    ∃ h, run (Host.step (.counting [])) (.initial "tun0")
        (recoveredEvents ++ [.policy ⟨"sync", [⟨22, "tcp"⟩, ⟨80, "tcp"⟩]⟩]) = some h ∧
      Closes (.counting []) h.enforcer [⟨22, "tcp"⟩, ⟨80, "tcp"⟩] := by
  refine ⟨_, rfl, ?_⟩
  refine (closes_last_iff (.counting []) (fun _ => rfl) "tun0" (fun _ => "tcp") recoveredEvents
    [⟨22, "tcp"⟩, ⟨80, "tcp"⟩] _ (sameProtocol_tcp ?_) rfl).mpr ?_
  · simp [recoveredEvents, Event.desired?]
  · intro before since heq _ r hr
    -- the only crash is the third event
    obtain rfl : before = [.start, .policy ⟨"sync", [⟨22, "tcp"⟩]⟩] := by
      rcases before with _ | ⟨_, _ | ⟨_, _ | ⟨_, _ | ⟨_, before⟩⟩⟩⟩ <;>
        simp_all [recoveredEvents]
    obtain rfl := List.mem_singleton.mp hr
    exact ⟨⟨22, "tcp"⟩, by simp, rfl⟩

/-- A crash, and a list that no longer wants the port: it stays closed. -/
theorem orphaned_port_closed :
    SameProtocol (.counting []) (fun _ => "tcp") (recoveredEvents ++ [.policy ⟨"sync", []⟩]) ∧
    ∃ h, run (Host.step (.counting [])) (.initial "tun0")
        (recoveredEvents ++ [.policy ⟨"sync", []⟩]) = some h ∧
      ¬ Closes (.counting []) h.enforcer [] := by
  refine ⟨sameProtocol_tcp (by simp [recoveredEvents, Event.desired?]), _, rfl, ?_⟩
  intro hcloses
  have hdrop := (hcloses ⟨"eth0", "tcp", 22⟩ (by decide) (by decide)).mp (by decide)
  simp at hdrop

end ZeroTrust.Agent
