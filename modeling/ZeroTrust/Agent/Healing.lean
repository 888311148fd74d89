/-
# `ZeroTrust.Agent.Healing` — what a failed command leaves in the chain

An `add` that fails is made up for: the port is not in the map, so the next
synchronization tries again.  A `delete` that fails is not: the entry is out of the
map by then, or, in a rollback, was never in it, and nobody knows the handle any more.

    `Tidy`               every rule of the chain is tracked by an entry of the map
    `tidy_remove_iff`    removing a port keeps the chain tidy iff its deletions succeed
    `tidy_ensure_iff`    protecting one does iff it succeeds or rolls back
    `tidy_synced_iff`    so the chain is tidy after a run iff no deletion of it failed
    `healed_iff`         an untidy chain never becomes tidy again, and a tidy one lacks
                         nothing that a synchronization without failures does not add
-/
import ZeroTrust.Lib.Run
import ZeroTrust.Agent.Sync

namespace ZeroTrust.Agent

open Lib

/-- The same environment, from when on no command fails. -/
def Environment.healed (env : Environment) : Environment := { env with fails := fun _ => false }

/-- Some entry of the map has the handle. -/
def Enforcer.Tracks (s : Enforcer) (handle : Nat) : Prop :=
  ∃ port entry, s.protectedMap.lookup port = some entry ∧ handle ∈ entry.ruleHandles

def Tidy (s : Enforcer) : Prop := ∀ e ∈ s.kernel.chain, s.Tracks e.1

/-- If the port is protected, its rules are deleted. -/
def RemovesRules (env : Environment) (s : Enforcer) (port : UInt16) : Prop :=
  ∀ entry, s.protectedMap.lookup port = some entry →
    Succeed env s.kernel.commands entry.ruleHandles.length

/-- If the port is to be protected, that succeeds or is rolled back. -/
def LeavesNothing (env : Environment) (s : Enforcer) (rule : PortRule) : Prop :=
  s.protectedMap.lookup rule.port = none → RollsBack env s.kernel

/-- No deletion of the synchronization fails, of a port or in a rollback. -/
def DeletesSucceed (env : Environment) (s : Enforcer) (desired : List PortRule) : Prop :=
  Meets (fun s port => some (s.remove env port)) (RemovesRules env) s (s.stale env desired) ∧
    Meets (fun s rule => some (s.ensure env rule)) (LeavesNothing env)
      ((s.stale env desired).foldl (Enforcer.remove env) s) desired

/-! ## One round -/

/-- `Guarded`, and no handle is on two rules. -/
structure Regular (env : Environment) (s : Enforcer) : Prop where
  guarded : Guarded env s
  distinct : (s.kernel.chain.map Prod.fst).Nodup

section Rounds

variable {env : Environment} {s : Enforcer}

/-- The rules of an entry are in the chain. -/
theorem Guarded.handle_mem (hs : Guarded env s) {port : UInt16} {entry : ProtectionEntry}
    (h : s.protectedMap.lookup port = some entry) {handle : Nat}
    (hmem : handle ∈ entry.ruleHandles) : ∃ e ∈ s.kernel.chain, e.1 = handle := by
  obtain ⟨-, h1, h2, h3, hhandles, -, hsub⟩ := hs.owned port entry h
  have hfst := (hsub.map Prod.fst).subset (show handle ∈ List.map Prod.fst (triple _ _ _ _ _ _) by
    simpa [triple, hhandles] using hmem)
  obtain ⟨e, he, heq⟩ := List.mem_map.mp hfst
  exact ⟨e, he, heq⟩

theorem tidy_remove_iff (hs : Guarded env s) (port : UInt16) :
    Tidy (s.remove env port) ↔ Tidy s ∧ RemovesRules env s port := by
  cases hlookup : s.protectedMap.lookup port with
  | none =>
      have hself : s.remove env port = s := by simp [Enforcer.remove, hlookup]
      simp [hself, RemovesRules, hlookup]
  | some entry =>
      obtain ⟨gone, hsub, hchain, -, hall⟩ := deleteRules_spec env entry.ruleHandles s.kernel
      have hremove : s.remove env port = ⟨s.tunName, deleteRules env s.kernel entry.ruleHandles,
          s.protectedMap.erase port⟩ := by simp [Enforcer.remove, hlookup]
      have hnodup : entry.ruleHandles.Nodup := by
        obtain ⟨-, h1, h2, h3, hhandles, hnodup, -⟩ := hs.owned port entry hlookup
        exact hhandles ▸ hnodup
      have hremoves : RemovesRules env s port ↔ entry.ruleHandles ⊆ gone := by
        simp [RemovesRules, hlookup, hall hnodup]
      have htracks : ∀ {handle : Nat}, (s.remove env port).Tracks handle ↔
          ∃ q e, q ≠ port ∧ s.protectedMap.lookup q = some e ∧ handle ∈ e.ruleHandles := by
        intro handle
        rw [hremove]
        simp only [Enforcer.Tracks, lookup_erase_eq_some, and_assoc]
      have hkept : ∀ {e : Nat × Rule}, e ∈ (s.remove env port).kernel.chain ↔
          e ∈ s.kernel.chain ∧ e.1 ∉ gone := by
        intro e
        rw [hremove]
        simp [hchain]
      rw [hremoves]
      constructor
      · intro htidy
        refine ⟨fun e he => ?_, fun handle hmem => ?_⟩
        · by_cases hgone : e.1 ∈ gone
          · exact ⟨port, entry, hlookup, hsub hgone⟩
          · obtain ⟨q, f, -, hf, hmem⟩ := htracks.mp (htidy e (hkept.mpr ⟨he, hgone⟩))
            exact ⟨q, f, hf, hmem⟩
        · -- a rule of the entry that stays is on no other entry
          by_contra hgone
          obtain ⟨e, he, rfl⟩ := hs.handle_mem hlookup hmem
          obtain ⟨q, f, hq, hf, hmem'⟩ := htracks.mp (htidy e (hkept.mpr ⟨he, hgone⟩))
          exact hs.disjoint q port f entry hf hlookup hq hmem' hmem
      · rintro ⟨htidy, hgone⟩ e he
        obtain ⟨he, hnot⟩ := hkept.mp he
        obtain ⟨q, f, hf, hmem⟩ := htidy e he
        refine htracks.mpr ⟨q, f, ?_, hf, hmem⟩
        rintro rfl
        rw [hlookup] at hf
        cases hf
        exact hnot (hgone hmem)

theorem tidy_ensure_iff (hs : Guarded env s) (rule : PortRule) :
    Tidy (s.ensure env rule) ↔ Tidy s ∧ LeavesNothing env s rule := by
  cases hlookup : s.protectedMap.lookup rule.port with
  | some entry =>
      have hself : s.ensure env rule = s := by simp [Enforcer.ensure, hlookup]
      simp [hself, LeavesNothing, hlookup]
  | none =>
      rcases hprotect : protectPort env s.tunName s.kernel rule.port rule.protocol with
        ⟨kernel, _ | handles⟩
      · have hensure : s.ensure env rule = { s with kernel } := by
          simp [Enforcer.ensure, hlookup, hprotect]
        rcases protectPort_cases hs.live hprotect with ⟨_, _, _, heq, -⟩ |
          ⟨-, orphans, hchain, -, hnone, -, hfresh⟩
        · cases heq
        rw [hensure, LeavesNothing, forall_prop_of_true hlookup, ← hnone]
        constructor
        · intro htidy
          refine ⟨fun e he => htidy e (by simp [hchain, he]), ?_⟩
          -- the handle of what is left is on no entry, as it was not in use
          rw [List.eq_nil_iff_forall_not_mem]
          intro e he
          obtain ⟨q, f, hf, hmem⟩ := htidy e (by simp [hchain, he])
          exact (hfresh e he).2.1 (hs.used hf e.1 hmem)
        · rintro ⟨htidy, rfl⟩ e he
          simp only [hchain, List.append_nil] at he
          exact htidy e he
      · rcases protectPort_cases hs.live hprotect with
          ⟨h1, h2, h3, heq, -, hfresh, hchain, -, hrolls⟩ | ⟨heq, -⟩
        · cases heq
          have hensure : s.ensure env rule = ⟨s.tunName, kernel,
              s.protectedMap.insert rule.port ⟨rule.port, rule.protocol, [h1, h2, h3]⟩⟩ := by
            simp [Enforcer.ensure, hlookup, hprotect]
          have hleaves : LeavesNothing env s rule := fun _ => hrolls
          rw [hensure, and_iff_left hleaves]
          constructor
          · intro htidy e he
            obtain ⟨q, f, hf, hmem⟩ := htidy e (by simp [hchain, he])
            rcases lookup_insert_eq_some.mp hf with ⟨-, rfl⟩ | ⟨-, hold⟩
            · exact absurd (hs.live e he) (hfresh e.1 hmem)
            · exact ⟨q, f, hold, hmem⟩
          · intro htidy e he
            simp only [hchain, List.mem_append] at he
            rcases he with he | he
            · obtain ⟨q, f, hf, hmem⟩ := htidy e he
              have hq : q ≠ rule.port := by
                rintro rfl
                rw [hlookup] at hf
                cases hf
              exact ⟨q, f, lookup_insert_eq_some.mpr (Or.inr ⟨hq, hf⟩), hmem⟩
            · refine ⟨rule.port, _, AList.lookup_insert _, ?_⟩
              have hmem := List.mem_map_of_mem (f := Prod.fst) he
              simpa [triple] using hmem
        · cases heq

theorem regular_remove (hs : Regular env s) (port : UInt16) :
    Regular env (s.remove env port) := by
  refine ⟨guarded_remove hs.guarded port, ?_⟩
  unfold Enforcer.remove
  split
  · exact hs.distinct
  next entry _ =>
    obtain ⟨gone, -, hchain, -⟩ := deleteRules_spec env entry.ruleHandles s.kernel
    simp only [hchain]
    exact (List.filter_sublist.map _).nodup hs.distinct

theorem regular_ensure (hs : Regular env s) (rule : PortRule) :
    Regular env (s.ensure env rule) := by
  refine ⟨guarded_ensure hs.guarded rule, ?_⟩
  have happend : ∀ {added : List (Nat × Rule)}, (added.map Prod.fst).Nodup →
      (∀ e ∈ added, e.1 ∉ s.kernel.used) → ((s.kernel.chain ++ added).map Prod.fst).Nodup := by
    intro added hnodup hfresh
    rw [List.map_append]
    refine hs.distinct.append hnodup ?_
    intro h hold hnew
    obtain ⟨e, he, rfl⟩ := List.mem_map.mp hold
    obtain ⟨f, hf, heq⟩ := List.mem_map.mp hnew
    exact hfresh f hf (heq ▸ hs.guarded.live e he)
  unfold Enforcer.ensure
  split
  · exact hs.distinct
  split
  next kernel handles hprotect =>
    rcases protectPort_cases hs.guarded.live hprotect with
      ⟨h1, h2, h3, -, hnodup, hfresh, hchain, -⟩ | ⟨heq, -⟩
    · simp only [hchain]
      refine happend (by simpa [triple] using hnodup) fun e he => hfresh e.1 ?_
      simpa [triple] using List.mem_map_of_mem (f := Prod.fst) he
    · cases heq
  next kernel hprotect =>
    rcases protectPort_cases hs.guarded.live hprotect with ⟨_, _, _, heq, -⟩ |
      ⟨-, orphans, hchain, -, -, hnodup, hfresh⟩
    · cases heq
    · simp only [hchain]
      exact happend hnodup fun e he => (hfresh e he).2.1

/-- A round that protects a port gives it the rule's protocol. -/
theorem protocol_of_ensure {rule : PortRule} {q : UInt16} {protocol : String}
    (h : (s.ensure env rule).protocol? q = some protocol) :
    s.protocol? q = some protocol ∨ q = rule.port ∧ protocol = rule.protocol := by
  unfold Enforcer.ensure at h
  split at h
  · exact Or.inl h
  split at h
  · by_cases hq : q = rule.port
    · subst hq
      simp only [Enforcer.protocol?, AList.lookup_insert, Option.map_some, Option.some.injEq] at h
      exact Or.inr ⟨rfl, h.symm⟩
    · simp only [Enforcer.protocol?, AList.lookup_insert_ne hq] at h
      exact Or.inl h
  · exact Or.inl h

end Rounds

/-! ## Synchronizations -/

section Synced

variable {env : Environment} {s : Enforcer}

theorem regular_syncPolicy (hs : Regular env s) (desired : List PortRule) :
    Regular env (s.syncPolicy env desired) :=
  syncPolicy_induction hs (fun _ port ht => regular_remove ht port)
    (fun _ rule ht => regular_ensure ht rule) desired

theorem regular_synced (env : Environment) (tunName : String) (lists : List (List PortRule)) :
    Regular env (synced env tunName lists) := by
  induction lists using List.reverseRecOn with
  | nil => exact ⟨guarded_initialized env tunName, List.nodup_nil⟩
  | append_singleton lists desired ih =>
      rw [synced_concat]
      exact regular_syncPolicy ih desired

theorem tidy_syncPolicy_iff (hs : Regular env s) (desired : List PortRule) :
    Tidy (s.syncPolicy env desired) ↔ Tidy s ∧ DeletesSucceed env s desired := by
  have hremoved : Regular env ((s.stale env desired).foldl (Enforcer.remove env) s) :=
    foldl_invariant (motive := Regular env) (fun _ port ht => regular_remove ht port) _ hs
  have hremoves : ∀ t port, Regular env t →
      (Tidy (t.remove env port) ↔ Tidy t ∧ RemovesRules env t port) :=
    fun _ port ht => tidy_remove_iff ht.guarded port
  have hensures : ∀ t rule, Regular env t →
      (Tidy (t.ensure env rule) ↔ Tidy t ∧ LeavesNothing env t rule) :=
    fun _ rule ht => tidy_ensure_iff ht.guarded rule
  have hremove := foldl_iff_meets (fun _ port ht => regular_remove ht port) hremoves
    (s.stale env desired) hs
  have hensure := foldl_iff_meets (fun _ rule ht => regular_ensure ht rule) hensures desired
    hremoved
  rw [Enforcer.syncPolicy, hensure, hremove, and_assoc, DeletesSucceed]

theorem tidy_synced_iff (env : Environment) (tunName : String) (lists : List (List PortRule)) :
    Tidy (synced env tunName lists) ↔
      Meets (fun s desired => some (s.syncPolicy env desired)) (DeletesSucceed env)
        (.new tunName .initialized) lists := by
  have hstart : Tidy (.new tunName .initialized) := by
    intro e he
    cases he
  have hsync : ∀ s desired, Regular env s →
      (Tidy (s.syncPolicy env desired) ↔ Tidy s ∧ DeletesSucceed env s desired) :=
    fun _ desired hs => tidy_syncPolicy_iff hs desired
  have hiff := foldl_iff_meets (fun _ desired hs => regular_syncPolicy hs desired) hsync lists
    (regular_synced env tunName [])
  exact hiff.trans (and_iff_right hstart)

/-- Each port is tracked with the protocol it comes with. -/
theorem protocol_of_synced {tunName : String} {protoOf : UInt16 → String}
    {lists : List (List PortRule)}
    (hsame : ∀ desired ∈ lists, ∀ r ∈ desired,
      env.unicode.toLowercase r.protocol = protoOf r.port) :
    ∀ port protocol, (synced env tunName lists).protocol? port = some protocol →
      env.unicode.toLowercase protocol = protoOf port := by
  have hensureAll : ∀ (desired : List PortRule) (t : Enforcer),
      (∀ r ∈ desired, env.unicode.toLowercase r.protocol = protoOf r.port) →
      (∀ port protocol, t.protocol? port = some protocol →
        env.unicode.toLowercase protocol = protoOf port) →
      ∀ port protocol, (desired.foldl (Enforcer.ensure env) t).protocol? port = some protocol →
        env.unicode.toLowercase protocol = protoOf port := by
    intro desired
    induction desired with
    | nil => exact fun _ _ ht => ht
    | cons r desired ih =>
        intro t hr ht
        rw [List.forall_mem_cons] at hr
        refine ih _ hr.2 fun port protocol hprotocol => ?_
        rcases protocol_of_ensure hprotocol with hold | ⟨rfl, rfl⟩
        · exact ht port protocol hold
        · exact hr.1
  induction lists using List.reverseRecOn with
  | nil => simp [synced, Enforcer.protocol?, Enforcer.new]
  | append_singleton lists desired ih =>
      rw [synced_concat]
      refine hensureAll desired _ (hsame desired (by simp)) fun port protocol hprotocol => ?_
      rw [protocol_removeAll] at hprotocol
      split at hprotocol
      · cases hprotocol
      · exact ih (fun l hl => hsame l (List.mem_append_left _ hl)) port protocol hprotocol

end Synced

/-! ## The last synchronization -/

/-- The three rules of a port. -/
def portRules (tunName proto : String) (port : UInt16) : List Rule :=
  [acceptOn "lo" proto port, acceptOn tunName proto port, dropAll proto port]

/-- The chain has the rules of these ports and no others, and drops for no other port. -/
structure Healed (env : Environment) (s : Enforcer) (desired : List PortRule) : Prop where
  rules : (s.kernel.chain.map Prod.snd).Perm (desired.flatMap fun r =>
    portRules s.tunName (env.unicode.toLowercase r.protocol) r.port)
  drops : ∀ p, s.kernel.verdict p = .drop → ∃ r ∈ desired, r.port = p.dport

section Healed

variable {env : Environment} {s : Enforcer} {desired : List PortRule}

theorem regular_healed : Regular env.healed s ↔ Regular env s := by
  constructor
  · exact fun hs => ⟨⟨hs.guarded.live, hs.guarded.closed, hs.guarded.owned, hs.guarded.disjoint⟩,
      hs.distinct⟩
  · exact fun hs => ⟨⟨hs.guarded.live, hs.guarded.closed, hs.guarded.owned, hs.guarded.disjoint⟩,
      hs.distinct⟩

/-- The map has these ports and no others, each with a spelling of its protocol. -/
def Covers (env : Environment) (s : Enforcer) (desired : List PortRule) : Prop :=
  ∀ port protocol, (∃ entry, s.protectedMap.lookup port = some entry ∧
      env.unicode.toLowercase entry.protocol = protocol) ↔
    ∃ r ∈ desired, r.port = port ∧ env.unicode.toLowercase r.protocol = protocol

/-- The blocks of these ports, one after another. -/
def Enforcer.blocks (env : Environment) (s : Enforcer) (desired : List PortRule) :
    List (Nat × Rule) :=
  desired.flatMap fun r =>
    ((s.protectedMap.lookup r.port).map fun e => e.rules env s.tunName).getD []

theorem rules_of_owned (hs : Guarded env s) {port : UInt16} {entry : ProtectionEntry}
    (h : s.protectedMap.lookup port = some entry) :
    entry.rules env s.tunName ⊆ s.kernel.chain ∧
      (entry.rules env s.tunName).map Prod.fst = entry.ruleHandles ∧
      (entry.rules env s.tunName).map Prod.snd =
        portRules s.tunName (env.unicode.toLowercase entry.protocol) port ∧
      entry.ruleHandles.Nodup := by
  obtain ⟨rfl, h1, h2, h3, hhandles, hnodup, hsub⟩ := hs.owned port entry h
  have hrules : entry.rules env s.tunName =
      triple s.tunName (env.unicode.toLowercase entry.protocol) entry.port h1 h2 h3 := by
    simp [ProtectionEntry.rules, triple, hhandles]
  rw [hrules, hhandles]
  exact ⟨hsub.subset, rfl, rfl, hnodup⟩

theorem mem_blocks {e : Nat × Rule} :
    e ∈ s.blocks env desired ↔ ∃ r ∈ desired, ∃ entry,
      s.protectedMap.lookup r.port = some entry ∧ e ∈ entry.rules env s.tunName := by
  simp only [Enforcer.blocks, List.mem_flatMap]
  refine exists_congr fun r => and_congr_right fun _ => ?_
  cases s.protectedMap.lookup r.port <;> simp

theorem blocks_subset (hs : Guarded env s) : s.blocks env desired ⊆ s.kernel.chain := by
  intro e he
  obtain ⟨r, -, entry, hentry, hmem⟩ := mem_blocks.mp he
  exact (rules_of_owned hs hentry).1 hmem

theorem blocks_nodup (hs : Guarded env s) (hports : (desired.map PortRule.port).Nodup) :
    ((s.blocks env desired).map Prod.fst).Nodup := by
  rw [Enforcer.blocks, List.map_flatMap, List.nodup_flatMap]
  refine ⟨fun r _ => ?_, ?_⟩
  · cases hlookup : s.protectedMap.lookup r.port with
    | none => simp
    | some entry =>
        obtain ⟨-, hfst, -, hnodup⟩ := rules_of_owned hs hlookup
        simpa [hfst] using hnodup
  · refine (List.pairwise_map.mp hports).imp fun {r r'} hne => ?_
    refine List.disjoint_left.mpr fun handle hmem hmem' => ?_
    cases hlookup : s.protectedMap.lookup r.port with
    | none => simp [hlookup] at hmem
    | some entry =>
        cases hlookup' : s.protectedMap.lookup r'.port with
        | none => simp [hlookup'] at hmem'
        | some entry' =>
            simp only [hlookup, hlookup', Option.map_some, Option.getD_some,
              (rules_of_owned hs hlookup).2.1, (rules_of_owned hs hlookup').2.1] at hmem hmem'
            exact hs.disjoint r.port r'.port entry entry' hlookup hlookup' hne hmem hmem'

theorem snd_blocks (hs : Guarded env s) (hcovers : Covers env s desired) :
    (s.blocks env desired).map Prod.snd = desired.flatMap fun r =>
      portRules s.tunName (env.unicode.toLowercase r.protocol) r.port := by
  rw [Enforcer.blocks, List.map_flatMap]
  refine List.flatMap_congr fun r hr => ?_
  obtain ⟨entry, hentry, hproto⟩ := (hcovers r.port _).mpr ⟨r, hr, rfl, rfl⟩
  simp only [hentry, Option.map_some, Option.getD_some, (rules_of_owned hs hentry).2.2.1, hproto]

/-- A regular chain over a map of these ports is healed iff it is tidy. -/
theorem healed_iff_tidy (hs : Regular env s) (hcovers : Covers env s desired)
    (hports : (desired.map PortRule.port).Nodup) :
    Healed env s desired ↔ Tidy s := by
  have hsnd := snd_blocks hs.guarded hcovers
  have hnodup := blocks_nodup hs.guarded hports
  constructor
  · intro hhealed e he
    -- a rule that no entry tracks would be one too many
    by_contra huntracked
    have hnot : e ∉ s.blocks env desired := by
      intro hmem
      obtain ⟨r, -, entry, hentry, hrule⟩ := mem_blocks.mp hmem
      exact huntracked ⟨r.port, entry, hentry, mem_handles_of_mem_rules hrule⟩
    have hlonger : (e :: s.blocks env desired).length ≤ s.kernel.chain.length := by
      refine (List.subperm_of_subset (List.nodup_cons.mpr ⟨hnot, hnodup.of_map⟩) ?_).length_le
      exact List.cons_subset.mpr ⟨he, blocks_subset hs.guarded⟩
    have hlength := hhealed.rules.length_eq
    rw [← hsnd, List.length_map, List.length_map] at hlength
    rw [List.length_cons, hlength] at hlonger
    exact Nat.not_succ_le_self _ hlonger
  · intro htidy
    have hmem : ∀ e, e ∈ s.kernel.chain ↔ e ∈ s.blocks env desired := by
      refine fun e => ⟨fun he => ?_, fun he => blocks_subset hs.guarded he⟩
      obtain ⟨port, entry, hentry, hhandle⟩ := htidy e he
      obtain ⟨r, hr, rfl, -⟩ := (hcovers port _).mp ⟨entry, hentry, rfl⟩
      obtain ⟨hsub, hfst, -⟩ := rules_of_owned hs.guarded hentry
      rw [← hfst] at hhandle
      obtain ⟨f, hf, heq⟩ := List.mem_map.mp hhandle
      obtain rfl : f = e := List.inj_on_of_nodup_map hs.distinct (hsub hf) he heq
      exact mem_blocks.mpr ⟨r, hr, entry, hentry, hf⟩
    have hperm : s.kernel.chain.Perm (s.blocks env desired) :=
      (List.perm_ext_iff_of_nodup hs.distinct.of_map hnodup.of_map).mpr hmem
    refine ⟨hsnd ▸ hperm.map _, fun p hdrop => ?_⟩
    by_contra hnone
    have haccept : s.kernel.verdict p = .accept := by
      refine firstMatch_of_none fun e he => Bool.eq_false_iff.mpr fun happlies => hnone ?_
      obtain ⟨r, hr, entry, hentry, hrule⟩ := mem_blocks.mp ((hmem e).mp he)
      have hport := (of_applies hrule happlies).1
      exact ⟨r, hr, (hs.guarded.owned _ _ hentry).1.symm.trans hport⟩
    rw [haccept] at hdrop
    cases hdrop

/-- The last synchronization makes the map cover its list. -/
theorem covers_syncPolicy {protoOf : UInt16 → String}
    (hkept : ∀ port protocol, s.protocol? port = some protocol →
      env.unicode.toLowercase protocol = protoOf port)
    (hsame : ∀ r ∈ desired, env.unicode.toLowercase r.protocol = protoOf r.port) :
    Covers env (s.syncPolicy env.healed desired) desired := by
  have hlower : ∀ {port : UInt16} {r : PortRule}, r ∈ desired → r.port = port →
      env.unicode.toLowercase ((s.protocol? port).getD r.protocol) = protoOf port := by
    rintro _ r hr rfl
    cases hold : s.protocol? r.port with
    | none => exact hsame r hr
    | some protocol => exact hkept _ _ hold
  have hprotocol : ∀ q, (s.syncPolicy env.healed desired).protocol? q =
      (desired.find? fun r => r.port = q).map fun r => (s.protocol? q).getD r.protocol :=
    protocol_syncPolicy (fun _ => rfl) s desired
  intro port protocol
  constructor
  · rintro ⟨entry, hentry, rfl⟩
    have hfind : (s.syncPolicy env.healed desired).protocol? port = some entry.protocol := by
      rw [Enforcer.protocol?, hentry, Option.map_some]
    rw [hprotocol, Option.map_eq_some_iff] at hfind
    obtain ⟨r, hr, hproto⟩ := hfind
    have hmem := List.mem_of_find?_eq_some hr
    obtain rfl : r.port = port := by simpa using List.find?_some hr
    exact ⟨r, hmem, rfl, by rw [hsame r hmem, ← hproto, hlower hmem rfl]⟩
  · rintro ⟨r, hr, rfl, rfl⟩
    obtain ⟨first, hfirst⟩ : ∃ first, desired.find? (fun x => x.port = r.port) = some first :=
      Option.isSome_iff_exists.mp (List.find?_isSome.mpr ⟨r, hr, by simp⟩)
    have hfind := hprotocol r.port
    rw [hfirst, Option.map_some, Enforcer.protocol?, Option.map_eq_some_iff] at hfind
    obtain ⟨entry, hentry, hproto⟩ := hfind
    have hport : first.port = r.port := by simpa using List.find?_some hfirst
    exact ⟨entry, hentry, by
      rw [hproto, hlower (List.mem_of_find?_eq_some hfirst) hport, hsame r hr]⟩

end Healed

/-- **Healing theorem.**  For any pattern of failing commands during any synchronizations,
with one protocol a port: one more synchronization without failures leaves exactly the
rules of its ports iff no deletion failed before. -/
theorem healed_iff (env : Environment) (tunName : String) (protoOf : UInt16 → String)
    (lists : List (List PortRule)) (desired : List PortRule)
    (hports : ∀ l ∈ lists ++ [desired], (l.map PortRule.port).Nodup)
    (hsame : ∀ l ∈ lists ++ [desired], ∀ r ∈ l,
      env.unicode.toLowercase r.protocol = protoOf r.port) :
    Healed env ((synced env tunName lists).syncPolicy env.healed desired) desired ↔
      Meets (fun s l => some (s.syncPolicy env l)) (DeletesSucceed env)
        (.new tunName .initialized) lists := by
  have hregular := regular_healed.mpr (regular_synced env tunName lists)
  have hafter := regular_healed.mp (regular_syncPolicy hregular desired)
  have hcovers : Covers env ((synced env tunName lists).syncPolicy env.healed desired) desired :=
    covers_syncPolicy
      (protocol_of_synced fun l hl => hsame l (List.mem_append_left _ hl))
      (hsame desired (by simp))
  -- in the last synchronization nothing fails
  have hlast : DeletesSucceed env.healed (synced env tunName lists) desired :=
    ⟨meets_of_forall fun _ _ _ _ _ _ _ => rfl, meets_of_forall fun _ _ _ _ =>
      ⟨fun _ _ _ _ => rfl, fun _ _ _ _ _ => rfl⟩⟩
  rw [healed_iff_tidy hafter hcovers (hports desired (by simp)), tidy_syncPolicy_iff hregular,
    and_iff_left hlast, tidy_synced_iff]

/-- Both attempts to close port 22 fail, at the second rule and at the third, and roll
back; the next one succeeds. -/
theorem failed_adds_heal :
    Healed (.counting [1, 5]) ((synced (.counting [1, 5]) "tun0"
      [[⟨22, "tcp"⟩], [⟨22, "tcp"⟩]]).syncPolicy (Environment.counting [1, 5]).healed
      [⟨22, "tcp"⟩]) [⟨22, "tcp"⟩] := by
  refine (healed_iff (.counting [1, 5]) "tun0" (fun _ => "tcp") [[⟨22, "tcp"⟩], [⟨22, "tcp"⟩]]
    [⟨22, "tcp"⟩] (by simp) (by simp; rfl)).mpr ?_
  rw [← tidy_synced_iff]
  intro e he
  cases he

/-- The port is no longer wanted, and deleting its drop rule fails: no later
synchronization opens it. -/
theorem failed_delete_stays :
    ¬ ∀ (env : Environment) (tunName : String) (protoOf : UInt16 → String)
      (lists : List (List PortRule)) (desired : List PortRule),
      (∀ l ∈ lists ++ [desired], (l.map PortRule.port).Nodup) →
      (∀ l ∈ lists ++ [desired], ∀ r ∈ l,
        env.unicode.toLowercase r.protocol = protoOf r.port) →
      Healed env ((synced env tunName lists).syncPolicy env.healed desired) desired := by
  intro hall
  have hhealed := hall (.counting [5]) "tun0" (fun _ => "tcp") [[⟨22, "tcp"⟩], []] []
    (by simp) (by simp; rfl)
  obtain ⟨r, hr, -⟩ := hhealed.drops ⟨"eth0", "tcp", 22⟩ (by decide)
  cases hr

end ZeroTrust.Agent
