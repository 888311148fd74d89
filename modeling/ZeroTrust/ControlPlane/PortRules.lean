/-
# `ZeroTrust.ControlPlane.PortRules` — two readings of a resource's ports

The ports of a resource are read three times.  `policyResources` of the controller
takes `port_from` and `port_to` from the table and derives `port`; in the connector
`port_matches` decides which ports the policy grants, and `extract_port_rules` lists
the ports that the agents must close to everybody else.  On the bounds the two
readings in the connector go

    port_from   port_to    port_matches      extract_port_rules
    null        null       every port        none
    null        b          0 … b             none
    a           null       a                 a
    a           0          a                 none
    a           b > 0      a … b             a … b

and bounds that are all 0 grant every port.  Where the policy grants less than that,
the listed ports are the granted ones iff the row is not one of those where the list
is empty although something is granted.

    `mem_listedPorts_range`, `mem_listedPorts_single`
                               the listed ports
    `port_receivedResource`    how `port` follows from the bounds
    `listedPorts_eq_grantedPorts_iff`
                               the comparison, for the connector's resources
-/
import ZeroTrust.Connector.Decision
import ZeroTrust.ControlPlane.Replacement

namespace ZeroTrust.ControlPlane

open Connector (portRule extractPortRules PortAdmits)
open Connector.PolicyCache (portMatches portMatches_iff)
open Replacement (BoundsInRange portInRange_zero)

/-- The ports of the rules that the agents get for a resource. -/
def listedPorts (r : Connector.PolicyResource) : Set Nat :=
  {n | portRule n r.protocol ∈ extractPortRules r}

/-- The ports that the policy grants. -/
def grantedPorts (r : Connector.PolicyResource) : Set Nat :=
  {n | ∃ port : UInt16, port.toNat = n ∧ portMatches r port = true}

theorem portRule_inj {m n : Nat} {protocol : String} :
    portRule m protocol = portRule n protocol ↔ m = n := by
  simp [portRule]

theorem mem_listedPorts_range {r : Connector.PolicyResource} {first last : UInt16} {n : Nat}
    (hfrom : r.portFrom = some first) (hto : r.portTo = some last) :
    n ∈ listedPorts r ↔ first.toNat ≤ n ∧ n ≤ last.toNat := by
  simp only [listedPorts, extractPortRules, hfrom, hto, Set.mem_ofPred_eq, List.mem_map,
    List.mem_range'_1, portRule_inj, exists_eq_right]
  omega

theorem mem_listedPorts_single {r : Connector.PolicyResource} {n : Nat}
    (h : r.portFrom = none ∨ r.portTo = none) :
    n ∈ listedPorts r ↔ 0 < r.port ∧ n = r.port.toNat := by
  have hrules : extractPortRules r =
      if r.port > 0 then [portRule r.port.toNat r.protocol] else [] := by
    unfold extractPortRules
    split
    next hfrom hto => simp [hfrom, hto] at h
    · rfl
  simp only [listedPorts, hrules, Set.mem_ofPred_eq]
  by_cases hport : 0 < r.port
  · simp [hport, portRule_inj]
  · simp [hport]

/-! ## The port derived from the bounds -/

def derivedPort (portFrom portTo : Option UInt16) : UInt16 :=
  match portTo with
  | some last => if portFrom.getD 0 = 0 ∨ portFrom.getD 0 ≠ last then 0 else portFrom.getD 0
  | none => portFrom.getD 0

theorem receivedPort_inj {p q : Int64} (hp : PortInRange p) (hq : PortInRange q) :
    receivedPort p = receivedPort q ↔ p = q := by
  constructor
  · intro h
    have hnat := congrArg (fun x : UInt16 => (x.toNat : Int)) h
    simp only [toNat_receivedPort hp, toNat_receivedPort hq] at hnat
    exact Int64.toInt_inj.mp hnat
  · rintro rfl
    rfl

theorem port_receivedResource {C : Controller.Libraries} {db : Controller.Database}
    {row : Controller.ResourceRow} (h : BoundsInRange row) :
    (receivedResource (Controller.policyResource C db row)).port =
      derivedPort (row.portFrom.map receivedPort) (row.portTo.map receivedPort) := by
  have hzero : receivedPort 0 = 0 := rfl
  have hfrom : PortInRange (row.portFrom.getD 0) := by
    cases hp : row.portFrom with
    | none => exact portInRange_zero
    | some p => exact h.portFrom p hp
  have hgetD : (row.portFrom.map receivedPort).getD 0 = receivedPort (row.portFrom.getD 0) := by
    cases row.portFrom with
    | none => rfl
    | some p => rfl
  simp only [receivedResource, Controller.policyResource, derivedPort, hgetD]
  cases hto : row.portTo with
  | none => rfl
  | some last =>
      have hlast := h.portTo last hto
      have hfromZero : receivedPort (row.portFrom.getD 0) = 0 ↔ row.portFrom.getD 0 = 0 := by
        rw [← hzero]
        exact receivedPort_inj hfrom portInRange_zero
      simp only [Option.map_some, hfromZero, ne_eq, receivedPort_inj hfrom hlast]
      split
      · exact hzero
      · rfl

/-! ## The comparison -/

theorem mem_grantedPorts {r : Connector.PolicyResource} {n : Nat} :
    n ∈ grantedPorts r ↔ ∃ port : UInt16, port.toNat = n ∧ PortAdmits r port := by
  simp only [grantedPorts, Set.mem_ofPred_eq, portMatches_iff]

/-- Every number below `2 ^ 16` is a port. -/
theorem exists_port_iff {P : Nat → Prop} {n : Nat} (hP : P n → n < 2 ^ 16) :
    (∃ port : UInt16, port.toNat = n ∧ P port.toNat) ↔ P n := by
  constructor
  · rintro ⟨port, rfl, h⟩
    exact h
  · intro h
    have hn : (UInt16.ofNat n).toNat = n := by
      rw [UInt16.toNat_ofNat', Nat.mod_eq_of_lt (hP h)]
    exact ⟨UInt16.ofNat n, hn, hn.symm ▸ h⟩

section Comparison

variable {r : Connector.PolicyResource}

/-- Only a lower bound: both readings are that port. -/
theorem listedPorts_eq_of_portTo_none (hport : r.port = derivedPort r.portFrom r.portTo)
    (hto : r.portTo = none) (hsome : ¬ ∀ port, portMatches r port = true) :
    listedPorts r = grantedPorts r := by
  ext n
  rw [mem_listedPorts_single (Or.inr hto), mem_grantedPorts, hport, hto, derivedPort]
  cases hfrom : r.portFrom with
  | none =>
      refine absurd (fun port => ?_) hsome
      rw [portMatches_iff, PortAdmits, hfrom, hto, hport]
      exact Or.inl (by simp [derivedPort, hfrom, hto])
  | some first =>
      have hfirst : first ≠ 0 := by
        rintro rfl
        refine hsome fun port => ?_
        rw [portMatches_iff, PortAdmits, hfrom, hto]
        exact Or.inl rfl
      have hpos : 0 < first := UInt16.pos_iff_ne_zero.mpr hfirst
      simp only [PortAdmits, hfrom, hto, hfirst, false_or, Option.getD_some, hpos, true_and,
        exists_eq_right]
      exact eq_comm

/-- Both bounds: the same range, unless the upper one is 0. -/
theorem listedPorts_eq_of_range {first last : UInt16} (hfrom : r.portFrom = some first)
    (hto : r.portTo = some last) (hlast : last ≠ 0) : listedPorts r = grantedPorts r := by
  ext n
  rw [mem_listedPorts_range hfrom hto, mem_grantedPorts]
  simp only [PortAdmits, hfrom, hto, hlast, and_false, if_false, false_or, UInt16.le_iff_toNat_le]
  refine (exists_port_iff (P := fun n => first.toNat ≤ n ∧ n ≤ last.toNat) ?_).symm
  rintro ⟨-, hle⟩
  exact Nat.lt_of_le_of_lt hle last.toNat_lt

/-- An upper bound alone grants port 0 and lists nothing. -/
theorem listedPorts_ne_of_portFrom_none {last : UInt16} (hfrom : r.portFrom = none)
    (hto : r.portTo = some last) (hport : r.port = derivedPort r.portFrom r.portTo) :
    listedPorts r ≠ grantedPorts r := by
  intro heq
  have hgranted : 0 ∈ grantedPorts r := by
    rw [mem_grantedPorts]
    refine ⟨0, rfl, ?_⟩
    simp only [PortAdmits, hfrom, hto]
    exact Or.inr UInt16.zero_le
  rw [← heq, mem_listedPorts_single (Or.inl hfrom), hport, hfrom, hto] at hgranted
  simp [derivedPort] at hgranted

/-- An upper bound of 0 grants the lower bound's port and lists nothing. -/
theorem listedPorts_ne_of_portTo_zero {first : UInt16} (hfrom : r.portFrom = some first)
    (hto : r.portTo = some 0) (hsome : ¬ ∀ port, portMatches r port = true) :
    listedPorts r ≠ grantedPorts r := by
  intro heq
  have hfirst : first ≠ 0 := by
    rintro rfl
    refine hsome fun port => ?_
    rw [portMatches_iff, PortAdmits, hfrom, hto]
    exact Or.inl ⟨rfl, rfl⟩
  have hgranted : first.toNat ∈ grantedPorts r := by
    rw [mem_grantedPorts]
    refine ⟨first, rfl, ?_⟩
    simp [PortAdmits, hfrom, hto]
  rw [← heq, mem_listedPorts_range hfrom hto] at hgranted
  have hzero : first.toNat = 0 := Nat.le_zero.mp hgranted.2
  exact hfirst (UInt16.toNat_inj.mp hzero)

theorem listedPorts_eq_grantedPorts_iff (hport : r.port = derivedPort r.portFrom r.portTo)
    (hsome : ¬ ∀ port, portMatches r port = true) :
    listedPorts r = grantedPorts r ↔
      r.portTo = none ∨ (r.portFrom ≠ none ∧ r.portTo ≠ some 0) := by
  cases hto : r.portTo with
  | none => simp [listedPorts_eq_of_portTo_none hport hto hsome]
  | some last =>
      cases hfrom : r.portFrom with
      | none => simp [listedPorts_ne_of_portFrom_none hfrom hto hport]
      | some first =>
          by_cases hlast : last = 0
          · subst hlast
            simp [listedPorts_ne_of_portTo_zero hfrom hto hsome]
          · simp [listedPorts_eq_of_range hfrom hto hlast, hlast]

end Comparison

/-- **When the two readings agree.**  For a compiled row whose policy does not grant every
port, the agents are told to close the granted ports, and no others, iff the row has no
upper bound, or it has a lower bound too and the upper one is not 0. -/
theorem compiled_ports_agree_iff (C : Controller.Libraries) (db : Controller.Database)
    (row : Controller.ResourceRow) (hbounds : BoundsInRange row)
    (hsome : ¬ ∀ port,
      portMatches (receivedResource (Controller.policyResource C db row)) port = true) :
    listedPorts (receivedResource (Controller.policyResource C db row)) =
        grantedPorts (receivedResource (Controller.policyResource C db row)) ↔
      row.portTo = none ∨ (row.portFrom ≠ none ∧ row.portTo ≠ some 0) := by
  have hport : (receivedResource (Controller.policyResource C db row)).port =
      derivedPort (row.portFrom.map receivedPort) (row.portTo.map receivedPort) :=
    port_receivedResource hbounds
  rw [listedPorts_eq_grantedPorts_iff hport hsome]
  show row.portTo.map receivedPort = none ∨
      (row.portFrom.map receivedPort ≠ none ∧ row.portTo.map receivedPort ≠ some 0) ↔ _
  cases hto : row.portTo with
  | none => simp
  | some last =>
      have hzero : receivedPort last = 0 ↔ last = 0 :=
        receivedPort_inj (q := 0) (hbounds.portTo last hto) portInRange_zero
      simp [hzero]

def portRow (portFrom portTo : Option Int64) : Controller.ResourceRow where
  id := "res_1"
  type := "dns"
  address := "web.internal"
  protocol := "TCP"
  portFrom := portFrom
  portTo := portTo
  remoteNetworkId := "net_1"
  firewallStatus := "protected"

/-- The row of port 443 alone, where both readings are that port. -/
theorem port_443_agrees :
    listedPorts (receivedResource
        (Controller.policyResource ampersandController ampersandDatabase
          (portRow (some 443) (some 443)))) =
      grantedPorts (receivedResource
        (Controller.policyResource ampersandController ampersandDatabase
          (portRow (some 443) (some 443)))) := by
  have h443 : PortInRange 443 := by decide
  refine (compiled_ports_agree_iff _ _ _ ⟨?_, ?_⟩ ?_).mpr (Or.inr ⟨?_, ?_⟩)
  · exact fun p hp => Option.some.inj hp ▸ h443
  · exact fun p hp => Option.some.inj hp ▸ h443
  · exact fun hall => absurd (hall 80) (by decide)
  · exact Option.some_ne_none _
  · decide

/-- The row with bounds 80 and 0: the policy grants port 80, and the agents are not told
to close it. -/
theorem port_80_to_0_disagrees :
    ¬ ∀ (C : Controller.Libraries) (db : Controller.Database) (row : Controller.ResourceRow),
      BoundsInRange row →
      (¬ ∀ port,
        portMatches (receivedResource (Controller.policyResource C db row)) port = true) →
      listedPorts (receivedResource (Controller.policyResource C db row)) =
        grantedPorts (receivedResource (Controller.policyResource C db row)) := by
  intro hall
  have h80 : PortInRange 80 := by decide
  have hsome : ¬ ∀ port, portMatches (receivedResource (Controller.policyResource
      ampersandController ampersandDatabase (portRow (some 80) (some 0)))) port = true :=
    fun h => absurd (h 443) (by decide)
  refine listedPorts_ne_of_portTo_zero rfl rfl hsome (hall _ _ _ ⟨?_, ?_⟩ hsome)
  · exact fun p hp => Option.some.inj hp ▸ h80
  · exact fun p hp => Option.some.inj hp ▸ portInRange_zero

end ZeroTrust.ControlPlane
