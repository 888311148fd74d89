/-
# `ZeroTrust.Agent.Reboot` — the firewall across a reboot of the machine

A reboot empties the kernel.  What is left is the state file: one port and protocol
for each entry of the map, in the order the map was iterated when it was saved.  The
next process makes a new table, reads the file, and protects its ports one after
another, so the new chain has the same blocks of rules in another order and under
other handles.

    `protocol_reboot`   the new map tracks each port with the protocol of the old one
    `reboot_verdict`    a packet meets the rules of at most one port, so the order of
                        the blocks does not matter: every packet gets the old verdict
-/
import ZeroTrust.Lib.Run
import ZeroTrust.Agent.Restart

namespace ZeroTrust.Agent

open Lib

/-- `FirewallEnforcer::initialize`: a table and a chain are made, unless they exist already. -/
def initializeTable (kernel : Option Kernel) : Kernel := kernel.getD .initialized

namespace Host

/-- `save_firewall_state` of the present state. -/
def saveFirewallState (env : Environment) (h : Host) : Host :=
  { h with stateFile := some (h.enforcer.getState env) }

/-- The machine goes down and comes up with no table; the agent is started on it. -/
def reboot (env : Environment) (h : Host) : Host :=
  (h.ended (initializeTable none)).startUp env

end Host

section Reboot

variable {env env' : Environment} {s : Enforcer}

theorem laid_step (hok : ∀ n, env.fails n = false) {s' : Enforcer} {call : Call}
    (hs : ∃ entries, Laid env [] s entries) (h : step env s call = some s') :
    ∃ entries, Laid env [] s' entries := by
  obtain ⟨entries, hlaid⟩ := hs
  cases call with
  | syncPolicy desired =>
      cases h
      exact laid_syncPolicy hok hlaid desired
  | unprotectPort port =>
      cases h
      exact ⟨_, laid_remove hok hlaid port⟩

theorem laid_run (hok : ∀ n, env.fails n = false) {tunName : String} {calls : List Call}
    (hrun : run (step env) (.new tunName .initialized) calls = some s) :
    ∃ entries, Laid env [] s entries := by
  refine run_invariant (motive := fun t => ∃ entries, Laid env [] t entries) ?_ ?_ hrun
  · intro t call t' ht hstep
    exact laid_step hok ht hstep
  · exact ⟨[], laid_new (guarded_initialized env tunName)⟩

/-- The state lists each tracked port once, whatever the order. -/
theorem find_getState {base : List (Nat × Rule)} {entries : List ProtectionEntry}
    (hlaid : Laid env base s entries) (port : UInt16) :
    ((s.getState env).find? fun r => r.port = port).map PortRule.protocol = s.protocol? port := by
  cases hfind : (s.getState env).find? fun r => r.port = port with
  | none =>
      cases hprotocol : s.protocol? port with
      | none => rfl
      | some protocol =>
          have hmem : ⟨port, protocol⟩ ∈ s.getState env := (mem_getState hlaid).mpr hprotocol
          simpa using List.find?_eq_none.mp hfind _ hmem
  | some r =>
      obtain rfl : r.port = port := by simpa using List.find?_some hfind
      exact ((mem_getState hlaid).mp (List.mem_of_find?_eq_some hfind)).symm

theorem reboot_eq (h : Host) :
    ((h.saveFirewallState env).reboot env').enforcer =
      (Enforcer.new h.enforcer.tunName .initialized).restoreFromState env'
        (h.enforcer.getState env) := by
  rw [Host.reboot, startUp_eq]
  rfl

theorem protocol_reboot (hok' : ∀ n, env'.fails n = false) {h : Host}
    {entries : List ProtectionEntry} (hlaid : Laid env [] h.enforcer entries) (port : UInt16) :
    ((h.saveFirewallState env).reboot env').enforcer.protocol? port =
      h.enforcer.protocol? port := by
  rw [reboot_eq, protocol_restoreFromState hok' _ _ _ (by simp [Enforcer.protocol?, Enforcer.new])]
  exact find_getState hlaid port

end Reboot

/-- **Reboot theorem.**  After any synchronizations and removals with no command failing:
saving the state, losing the kernel's tables and starting again gives every packet the
verdict it had before, whatever handles come out and in whatever order the maps are
iterated before (`env`) and after (`env'`). -/
theorem reboot_verdict (env env' : Environment) (hok : ∀ n, env.fails n = false)
    (hok' : ∀ n, env'.fails n = false) (hunicode : env'.unicode = env.unicode)
    (tunName : String) (calls : List Call) (h : Host)
    (hrun : run (step env) (.new tunName .initialized) calls = some h.enforcer) (p : Packet) :
    ((h.saveFirewallState env).reboot env').enforcer.kernel.verdict p =
      h.enforcer.kernel.verdict p := by
  obtain ⟨entries, hlaid⟩ := laid_run hok hrun
  have hrebooted : ∃ entries, Laid env' [] ((h.saveFirewallState env).reboot env').enforcer
      entries := by
    rw [reboot_eq]
    exact laid_restoreFromState hok' (laid_new (guarded_initialized env' _)) _
  obtain ⟨entries', hlaid'⟩ := hrebooted
  have htun : ((h.saveFirewallState env).reboot env').enforcer.tunName = h.enforcer.tunName := by
    rw [reboot_eq]
    exact tunName_restoreFromState _ _
  have hdrop : ((h.saveFirewallState env).reboot env').enforcer.kernel.verdict p = .drop ↔
      h.enforcer.kernel.verdict p = .drop := by
    rw [dropped_iff_tracked hlaid', dropped_iff_tracked hlaid, protocol_reboot hok' hlaid, htun,
      hunicode]
  -- there are two verdicts
  cases hbefore : h.enforcer.kernel.verdict p with
  | drop => exact hdrop.mpr hbefore
  | accept =>
      cases hafter : ((h.saveFirewallState env).reboot env').enforcer.kernel.verdict p with
      | accept => rfl
      | drop =>
          rw [hdrop.mp hafter] at hbefore
          cases hbefore

/-- A kernel whose maps are iterated backwards after the reboot. -/
def Environment.backwards : Environment :=
  { Environment.counting [] with
    order := fun _ keys => keys.reverse
    order_perm := fun _ keys => keys.reverse_perm }

/-- Three ports, one of them removed again; then a reboot. -/
theorem rebooted_ports_closed :
    ∃ s, run (step (.counting [])) (.new "tun0" .initialized)
        [.syncPolicy [⟨22, "TCP"⟩, ⟨53, "udp"⟩, ⟨80, "tcp"⟩], .unprotectPort 80] = some s ∧
      ∀ p, (((⟨s, none, true⟩ : Host).saveFirewallState (.counting [])).reboot
        .backwards).enforcer.kernel.verdict p = s.kernel.verdict p := by
  refine ⟨_, rfl, fun p => ?_⟩
  exact reboot_verdict (.counting []) .backwards (fun _ => rfl) (fun _ => rfl) rfl "tun0"
    [.syncPolicy [⟨22, "TCP"⟩, ⟨53, "udp"⟩, ⟨80, "tcp"⟩], .unprotectPort 80] ⟨_, none, true⟩ rfl p

end ZeroTrust.Agent
