/-
# `ZeroTrust.Connector.Discovery` — which hosts a scan visits

`discovery/scope.rs`: a list of networks in CIDR notation is turned into the list of
their hosts, without loopback, multicast and unspecified addresses, and no longer than
the limit of the command; `discovery/scan.rs` caps that limit.

The count is looked at only after a host was added.  So a limit of nought does not stop
the first host, and a network without hosts does not meet it either.

    `pushHosts_eq`           one network: everything up to the limit, and whether it was met
    `scopeExact_iff`         the scope is exact iff the limit is positive, or there is nothing
                             to scan
    `length_scanTargets_le`  no scan visits more than 512 hosts

Parsing a network and listing its hosts are the `ipnet` crate's (`Networks`).
-/
import Mathlib.Tactic.Common

namespace ZeroTrust.Connector.Discovery

/-! ## Addresses and networks -/

/-- `std::net::IpAddr`. -/
inductive IpAddr where
  | v4 (bits : BitVec 32)
  | v6 (bits : BitVec 128)
  deriving DecidableEq

namespace IpAddr

def isLoopback : IpAddr → Bool
  | v4 bits => bits.extractLsb' 24 8 = 127#8
  | v6 bits => bits = 1#128

/-- `224.0.0.0/4` and `ff00::/8`. -/
def isMulticast : IpAddr → Bool
  | v4 bits => bits.extractLsb' 28 4 = 0xe#4
  | v6 bits => bits.extractLsb' 120 8 = 0xff#8

def isUnspecified : IpAddr → Bool
  | v4 bits => bits = 0#32
  | v6 bits => bits = 0#128

end IpAddr

structure Networks where
  IpNet : Type
  /-- `str::parse::<IpNet>`. -/
  parse : String → Option IpNet
  /-- `IpNet::hosts`. -/
  hosts : IpNet → List IpAddr

def isInvalidTarget (ip : IpAddr) : Bool := ip.isLoopback || ip.isMulticast || ip.isUnspecified

structure ScanScope where
  targets : List IpAddr

/-! ## Resolving a scope -/

/-- The loop over the hosts of one network; it ends with `true` if the limit is met. -/
def pushHosts (maxTargets : UInt32) : List IpAddr → List IpAddr → Bool × List IpAddr
  | [], targets => (false, targets)
  | ip :: ips, targets =>
      if isInvalidTarget ip then pushHosts maxTargets ips targets
      else
        let targets := targets ++ [ip]
        -- `targets.len() as u32`
        if UInt32.ofNat targets.length ≥ maxTargets then (true, targets)
        else pushHosts maxTargets ips targets

/-- The loop over the networks. -/
def resolveFrom (N : Networks) (maxTargets : UInt32) :
    List String → List IpAddr → Except String ScanScope
  | [], targets => .ok ⟨targets⟩
  | c :: cidrs, targets =>
      match N.parse c with
      | none => .error ("invalid cidr: " ++ c)
      | some net =>
          match pushHosts maxTargets (N.hosts net) targets with
          | (true, targets) => .ok ⟨targets⟩
          | (false, targets) => resolveFrom N maxTargets cidrs targets

def resolveScope (N : Networks) (cidrs : List String) (maxTargets : UInt32) :
    Except String ScanScope := resolveFrom N maxTargets cidrs []

/-! ## The command -/

structure ScanCommand where
  targets : List String
  ports : List UInt16
  maxTargets : UInt32

def maxPorts : Nat := 16

/-- `MAX_TARGETS`. -/
def targetsCap : UInt32 := 512

/-- `execute_scan` up to the hosts that it pings; an error goes into the report. -/
def scanTargets (N : Networks) (cmd : ScanCommand) : Except String ScanScope :=
  if cmd.targets = [] then .error "no targets specified"
  else if cmd.ports = [] then .error "no ports specified"
  else if cmd.ports.length > maxPorts then .error "too many ports (max 16)"
  else resolveScope N cmd.targets (min cmd.maxTargets targetsCap)

/-! ## The scope that is meant -/

def usable (ips : List IpAddr) : List IpAddr := ips.filter fun ip => !isInvalidTarget ip

theorem usable_cons (ip : IpAddr) (ips : List IpAddr) :
    usable (ip :: ips) = if isInvalidTarget ip then usable ips else ip :: usable ips := by
  by_cases hip : isInvalidTarget ip = true <;> simp [usable, hip]

/-- The hosts that a string contributes; none if it is no network. -/
def usableHosts (N : Networks) (c : String) : List IpAddr :=
  match N.parse c with
  | none => []
  | some net => usable (N.hosts net)

/-- Some string is no network, and those before it do not reach the limit. -/
def Invalid (N : Networks) (cidrs : List String) (limit : Nat) : Prop :=
  ∃ i c, cidrs[i]? = some c ∧ N.parse c = none ∧
    ((cidrs.take i).flatMap (usableHosts N)).length < limit

/-- An error iff there is an invalid string before the limit is reached, and otherwise the
first hosts up to the limit. -/
structure ScopeExact (N : Networks) (cidrs : List String) (maxTargets : UInt32) : Prop where
  error_iff : (∃ e, resolveScope N cidrs maxTargets = .error e) ↔
    Invalid N cidrs maxTargets.toNat
  targets : ∀ scope, resolveScope N cidrs maxTargets = .ok scope →
    scope.targets = (cidrs.flatMap (usableHosts N)).take maxTargets.toNat
  bounded : ∀ scope, resolveScope N cidrs maxTargets = .ok scope →
    scope.targets.length ≤ maxTargets.toNat

theorem invalid_cons {N : Networks} {c : String} {cidrs : List String} {limit : Nat} :
    Invalid N (c :: cidrs) limit ↔
      N.parse c = none ∧ 0 < limit ∨ Invalid N cidrs (limit - (usableHosts N c).length) := by
  constructor
  · rintro ⟨i, d, hd, hnone, hlt⟩
    cases i with
    | zero =>
        obtain rfl : c = d := by simpa using hd
        exact Or.inl ⟨hnone, by simpa using hlt⟩
    | succ i =>
        refine Or.inr ⟨i, d, by simpa using hd, hnone, ?_⟩
        rw [List.take_succ_cons, List.flatMap_cons, List.length_append] at hlt
        omega
  · rintro (⟨hnone, hpos⟩ | ⟨i, d, hd, hnone, hlt⟩)
    · exact ⟨0, c, rfl, hnone, by simpa using hpos⟩
    · refine ⟨i + 1, d, by simpa using hd, hnone, ?_⟩
      rw [List.take_succ_cons, List.flatMap_cons, List.length_append]
      omega

theorem not_invalid_zero {N : Networks} {cidrs : List String} : ¬ Invalid N cidrs 0 := by
  rintro ⟨i, c, -, -, hlt⟩
  exact Nat.not_lt_zero _ hlt

/-! ## A positive limit -/

section Positive

variable {N : Networks} {maxTargets : UInt32}

/-- As long as the limit is not met, the count does not wrap. -/
theorem toNat_ofNat_length {targets : List IpAddr} (h : targets.length ≤ maxTargets.toNat) :
    (UInt32.ofNat targets.length).toNat = targets.length := by
  have hlt : targets.length < 2 ^ 32 := Nat.lt_of_le_of_lt h maxTargets.toNat_lt
  exact UInt32.toNat_ofNat_of_lt' hlt

theorem pushHosts_eq {ips targets : List IpAddr} (h : targets.length < maxTargets.toNat) :
    pushHosts maxTargets ips targets =
      (decide (maxTargets.toNat ≤ (targets ++ usable ips).length),
        (targets ++ usable ips).take maxTargets.toNat) := by
  induction ips generalizing targets with
  | nil =>
      have hnot : ¬ maxTargets.toNat ≤ targets.length := Nat.not_le.mpr h
      simp [pushHosts, usable, hnot, List.take_of_length_le (Nat.le_of_lt h)]
  | cons ip ips ih =>
      rw [pushHosts, usable_cons]
      split
      · exact ih h
      · have hlength : (targets ++ [ip]).length = targets.length + 1 := by simp
        have hcount : (UInt32.ofNat (targets ++ [ip]).length).toNat = targets.length + 1 := by
          rw [toNat_ofNat_length (by rw [hlength]; exact h), hlength]
        have hmet : UInt32.ofNat (targets ++ [ip]).length ≥ maxTargets ↔
            maxTargets.toNat ≤ targets.length + 1 := by
          rw [ge_iff_le, UInt32.le_iff_toNat_le, hcount]
        rw [List.append_cons targets ip (usable ips)]
        dsimp only
        rw [if_congr hmet rfl rfl]
        split
        next hle =>
          -- this host is the last one
          have hmax : maxTargets.toNat = (targets ++ [ip]).length := by omega
          rw [hmax, List.take_left]
          simp
        next hgt => exact ih (by omega)

theorem resolveFrom_ok {cidrs : List String} {targets : List IpAddr} {scope : ScanScope}
    (h : targets.length < maxTargets.toNat)
    (hok : resolveFrom N maxTargets cidrs targets = .ok scope) :
    scope.targets = (targets ++ cidrs.flatMap (usableHosts N)).take maxTargets.toNat := by
  induction cidrs generalizing targets with
  | nil =>
      obtain rfl : ScanScope.mk targets = scope := Except.ok.inj hok
      rw [List.flatMap_nil, List.append_nil, List.take_of_length_le (Nat.le_of_lt h)]
  | cons c cidrs ih =>
      rw [resolveFrom] at hok
      cases hnet : N.parse c with
      | none =>
          rw [hnet] at hok
          cases hok
      | some net =>
          have hhosts : usableHosts N c = usable (N.hosts net) := by rw [usableHosts, hnet]
          rw [List.flatMap_cons, hhosts, ← List.append_assoc]
          simp only [hnet, pushHosts_eq h] at hok
          by_cases hmet : maxTargets.toNat ≤ (targets ++ usable (N.hosts net)).length
          · simp only [decide_eq_true hmet] at hok
            obtain rfl := Except.ok.inj hok
            exact (List.take_append_of_le_length hmet).symm
          · simp only [decide_eq_false hmet] at hok
            have hlt := Nat.not_le.mp hmet
            rw [List.take_of_length_le (Nat.le_of_lt hlt)] at hok
            exact ih hlt hok

theorem resolveFrom_error_iff {cidrs : List String} {targets : List IpAddr}
    (h : targets.length < maxTargets.toNat) :
    (∃ e, resolveFrom N maxTargets cidrs targets = .error e) ↔
      Invalid N cidrs (maxTargets.toNat - targets.length) := by
  induction cidrs generalizing targets with
  | nil =>
      constructor
      · rintro ⟨e, he⟩
        cases he
      · rintro ⟨i, c, hc, -⟩
        simp at hc
  | cons c cidrs ih =>
      rw [resolveFrom, invalid_cons]
      cases hnet : N.parse c with
      | none =>
          constructor
          · intro _
            exact Or.inl ⟨rfl, Nat.sub_pos_of_lt h⟩
          · intro _
            exact ⟨_, rfl⟩
      | some net =>
          have hhosts : usableHosts N c = usable (N.hosts net) := by rw [usableHosts, hnet]
          have hlength : (targets ++ usable (N.hosts net)).length =
              targets.length + (usable (N.hosts net)).length := List.length_append
          simp only [reduceCtorEq, false_and, false_or, hhosts, pushHosts_eq h]
          by_cases hmet : maxTargets.toNat ≤ (targets ++ usable (N.hosts net)).length
          · have hzero :
                maxTargets.toNat - targets.length - (usable (N.hosts net)).length = 0 := by omega
            simp only [decide_eq_true hmet, hzero, not_invalid_zero, iff_false]
            rintro ⟨e, he⟩
            cases he
          · have hlt := Nat.not_le.mp hmet
            have hrest : maxTargets.toNat - targets.length - (usable (N.hosts net)).length =
                maxTargets.toNat - (targets ++ usable (N.hosts net)).length := by omega
            simp only [decide_eq_false hmet, List.take_of_length_le (Nat.le_of_lt hlt), hrest]
            exact ih hlt

theorem resolveScope_ok {cidrs : List String} {scope : ScanScope} (h : 0 < maxTargets.toNat)
    (hok : resolveScope N cidrs maxTargets = .ok scope) :
    scope.targets = (cidrs.flatMap (usableHosts N)).take maxTargets.toNat := by
  have hnone : ([] : List IpAddr).length < maxTargets.toNat := h
  have hall := resolveFrom_ok hnone hok
  rwa [List.nil_append] at hall

theorem scopeExact_of_pos {cidrs : List String} (h : 0 < maxTargets.toNat) :
    ScopeExact N cidrs maxTargets where
  error_iff := resolveFrom_error_iff h
  targets := fun scope hok => resolveScope_ok h hok
  bounded := fun scope hok => by
    rw [resolveScope_ok h hok]
    exact List.length_take_le _ _

end Positive

/-! ## A limit of nought -/

/-- The first host is taken all the same. -/
theorem pushHosts_zero (ips : List IpAddr) :
    pushHosts 0 ips [] = (!(usable ips).isEmpty, (usable ips).take 1) := by
  induction ips with
  | nil => rfl
  | cons ip ips ih =>
      rw [pushHosts, usable_cons]
      split
      · exact ih
      · rfl

/-- Nothing is scanned without an error only if there is nothing to scan. -/
theorem resolveScope_zero {N : Networks} {cidrs : List String} :
    resolveScope N cidrs 0 = .ok ⟨[]⟩ ↔
      ∀ c ∈ cidrs, N.parse c ≠ none ∧ usableHosts N c = [] := by
  rw [resolveScope]
  induction cidrs with
  | nil => simp [resolveFrom]
  | cons c cidrs ih =>
      rw [resolveFrom, List.forall_mem_cons, ← ih]
      cases hnet : N.parse c with
      | none => simp
      | some net =>
          have hhosts : usableHosts N c = usable (N.hosts net) := by rw [usableHosts, hnet]
          simp only [pushHosts_zero, hhosts]
          cases husable : usable (N.hosts net) with
          | nil => simp
          | cons ip ips => simp

theorem scopeExact_zero {N : Networks} {cidrs : List String} :
    ScopeExact N cidrs 0 ↔ resolveScope N cidrs 0 = .ok ⟨[]⟩ := by
  constructor
  · intro h
    cases hscope : resolveScope N cidrs 0 with
    | error e => exact absurd (h.error_iff.mp ⟨e, hscope⟩) not_invalid_zero
    | ok scope =>
        have hnil : scope.targets = [] := by simpa using h.targets scope hscope
        rw [← hnil]
  · intro h
    have hscope : ∀ {scope}, resolveScope N cidrs 0 = .ok scope → scope = ⟨[]⟩ := by
      intro scope hok
      rw [h] at hok
      exact (Except.ok.inj hok).symm
    refine ⟨⟨?_, fun hinvalid => absurd hinvalid not_invalid_zero⟩, ?_, ?_⟩
    · rintro ⟨e, he⟩
      rw [h] at he
      cases he
    · intro scope hok
      rw [hscope hok]
      rfl
    · intro scope hok
      rw [hscope hok]
      exact Nat.le_refl 0

/-- **The scope is exact**, for all strings and all libraries, iff the limit is positive, or
every string is a network and none of them has a usable host. -/
theorem scopeExact_iff (N : Networks) (cidrs : List String) (maxTargets : UInt32) :
    ScopeExact N cidrs maxTargets ↔
      maxTargets ≠ 0 ∨ ∀ c ∈ cidrs, N.parse c ≠ none ∧ usableHosts N c = [] := by
  by_cases hzero : maxTargets = 0
  · rw [hzero, scopeExact_zero, resolveScope_zero]
    simp
  · have hpos : 0 < maxTargets.toNat := by
      refine Nat.pos_of_ne_zero fun h => hzero ?_
      exact UInt32.toNat.inj h
    exact iff_of_true (scopeExact_of_pos hpos) (Or.inl hzero)

/-- The libraries as they answer for one host. -/
def oneHost : Networks where
  IpNet := Unit
  parse c := if c = "10.0.0.1/32" then some () else none
  hosts _ := [.v4 0x0a000001]

theorem nought_scans_one : ¬ ScopeExact oneHost ["10.0.0.1/32"] 0 := by
  rw [scopeExact_iff]
  decide

/-! ## What the command can ask for -/

theorem length_resolveScope_zero {N : Networks} {cidrs : List String} {scope : ScanScope}
    (h : resolveScope N cidrs 0 = .ok scope) : scope.targets.length ≤ 1 := by
  rw [resolveScope] at h
  induction cidrs with
  | nil =>
      obtain rfl := Except.ok.inj h
      exact Nat.zero_le 1
  | cons c cidrs ih =>
      rw [resolveFrom] at h
      cases hnet : N.parse c with
      | none =>
          rw [hnet] at h
          cases h
      | some net =>
          simp only [hnet, pushHosts_zero] at h
          cases husable : usable (N.hosts net) with
          | nil =>
              rw [husable] at h
              exact ih h
          | cons ip ips =>
              rw [husable] at h
              obtain rfl := Except.ok.inj h
              exact Nat.le_refl 1

theorem toNat_min_le (a b : UInt32) : (min a b).toNat ≤ b.toNat := by
  show (if a ≤ b then a else b).toNat ≤ b.toNat
  split
  next hle => exact UInt32.le_iff_toNat_le.mp hle
  · exact Nat.le_refl _

/-- A scan never visits more than 512 hosts. -/
theorem length_scanTargets_le {N : Networks} {cmd : ScanCommand} {scope : ScanScope}
    (h : scanTargets N cmd = .ok scope) : scope.targets.length ≤ targetsCap.toNat := by
  unfold scanTargets at h
  split at h
  · cases h
  split at h
  · cases h
  split at h
  · cases h
  by_cases hzero : min cmd.maxTargets targetsCap = 0
  · rw [hzero] at h
    exact Nat.le_trans (length_resolveScope_zero h) (by decide)
  · have hexact := (scopeExact_iff N cmd.targets _).mpr (Or.inl hzero)
    exact Nat.le_trans (hexact.bounded scope h) (toNat_min_le _ _)

end ZeroTrust.Connector.Discovery
