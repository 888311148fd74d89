/-
# `ZeroTrust.Agent.Sync` — what the chain means, when no command fails

The enforcer's map is keyed by port alone, while a rule is for a port and a protocol.
So the chain of a sequence of synchronizations means the last list only as long as
each port keeps its protocol.

    `Laid`                  the chain is what it was at the start, then the rules of
                            the tracked entries, one block after another
    `protocol_syncPolicy`   a desired port keeps the protocol it is tracked with;
                            a new one takes that of its first rule
    `Opens`                 the rule a port got its protocol from, told from the
                            lists alone
-/
import Mathlib.Data.List.Induction
import ZeroTrust.Agent.Protection

namespace ZeroTrust.Agent

open Lib

/-- The rules of an entry, under its handles. -/
def ProtectionEntry.rules (env : Environment) (tunName : String) (e : ProtectionEntry) :
    List (Nat × Rule) :=
  let proto := env.unicode.toLowercase e.protocol
  e.ruleHandles.zip
    [acceptOn "lo" proto e.port, acceptOn tunName proto e.port, dropAll proto e.port]

/-- The chain: `base`, and then the blocks of the entries tracked. -/
structure Laid (env : Environment) (base : List (Nat × Rule)) (s : Enforcer)
    (entries : List ProtectionEntry) : Prop where
  guarded : Guarded env s
  chain : s.kernel.chain = base ++ entries.flatMap fun e => e.rules env s.tunName
  lookup : ∀ port e, s.protectedMap.lookup port = some e ↔ e ∈ entries ∧ e.port = port
  /-- No entry owns a rule of `base`. -/
  apart : ∀ e ∈ entries, ∀ h ∈ e.ruleHandles, h ∉ base.map Prod.fst

/-- The protocol a port is tracked with. -/
def Enforcer.protocol? (s : Enforcer) (port : UInt16) : Option String :=
  (s.protectedMap.lookup port).map ProtectionEntry.protocol

section Laid

variable {env : Environment} {base : List (Nat × Rule)} {s : Enforcer}
  {entries : List ProtectionEntry}

theorem laid_new {tunName : String} {kernel : Kernel} (h : Guarded env (.new tunName kernel)) :
    Laid env kernel.chain (.new tunName kernel) [] where
  guarded := h
  chain := by simp [Enforcer.new]
  lookup := by simp [Enforcer.new]
  apart := by simp

theorem mem_handles_of_mem_rules {tunName : String} {e : ProtectionEntry} {x : Nat × Rule}
    (h : x ∈ e.rules env tunName) : x.1 ∈ e.ruleHandles :=
  (List.of_mem_zip (a := x.1) (b := x.2) h).1

/-- Deleting an entry's handles deletes its block. -/
theorem filter_blocks {tunName : String} {gone : ProtectionEntry} :
    ∀ {entries : List ProtectionEntry},
      (∀ e ∈ entries, e.port = gone.port → e = gone) →
      (∀ e ∈ entries, e.port ≠ gone.port → List.Disjoint e.ruleHandles gone.ruleHandles) →
      (entries.flatMap fun e => e.rules env tunName).filter (fun x => x.1 ∉ gone.ruleHandles) =
        (entries.filter fun e => e.port ≠ gone.port).flatMap fun e => e.rules env tunName
  | [], _, _ => rfl
  | e :: entries, hsame, hapart => by
      rw [List.forall_mem_cons] at hsame hapart
      rw [List.flatMap_cons, List.filter_append, filter_blocks hsame.2 hapart.2]
      by_cases hport : e.port = gone.port
      · have hblock : (e.rules env tunName).filter (fun x => x.1 ∉ gone.ruleHandles) = [] := by
          rw [List.filter_eq_nil_iff]
          intro x hx
          simpa using hsame.1 hport ▸ mem_handles_of_mem_rules hx
        rw [hblock, List.filter_cons_of_neg (by simp [hport]), List.nil_append]
      · have hblock : (e.rules env tunName).filter (fun x => x.1 ∉ gone.ruleHandles) =
            e.rules env tunName := by
          rw [List.filter_eq_self]
          intro x hx
          exact decide_eq_true fun hgone =>
            hapart.1 hport (mem_handles_of_mem_rules hx) hgone
        rw [hblock, List.filter_cons_of_pos (by simp [hport]), List.flatMap_cons]

theorem deleteRules_chain (hok : ∀ n, env.fails n = false) : ∀ (handles : List Nat) (k : Kernel),
    (deleteRules env k handles).chain = k.chain.filter fun e => e.1 ∉ handles
  | [], k => by simp [deleteRules]
  | h :: handles, k => by
      rw [deleteRules_cons, deleteRules_chain hok handles, deleteRule, if_neg (by simp [hok])]
      simp only [List.filter_filter, List.mem_cons, not_or]
      refine List.filter_congr fun e _ => ?_
      simp [Bool.and_comm]

theorem laid_remove (hok : ∀ n, env.fails n = false) (h : Laid env base s entries)
    (port : UInt16) :
    Laid env base (s.remove env port) (entries.filter fun e => e.port ≠ port) := by
  have hguarded := guarded_remove h.guarded port
  cases hlookup : s.protectedMap.lookup port with
  | none =>
      have hself : s.remove env port = s := by simp [Enforcer.remove, hlookup]
      have hkeep : entries.filter (fun e => e.port ≠ port) = entries := by
        rw [List.filter_eq_self]
        intro e he
        refine decide_eq_true fun hport => ?_
        rw [(h.lookup port e).mpr ⟨he, hport⟩] at hlookup
        cases hlookup
      rw [hself, hkeep]
      exact h
  | some gone =>
      obtain ⟨-, hport⟩ := (h.lookup port gone).mp hlookup
      have hremove : s.remove env port = ⟨s.tunName, deleteRules env s.kernel gone.ruleHandles,
          s.protectedMap.erase port⟩ := by simp [Enforcer.remove, hlookup]
      rw [hremove] at hguarded ⊢
      refine ⟨hguarded, ?_, ?_, fun e he => h.apart e (List.mem_of_mem_filter he)⟩
      · have hbase : base.filter (fun x => x.1 ∉ gone.ruleHandles) = base := by
          rw [List.filter_eq_self]
          intro x hx
          refine decide_eq_true fun hmem => ?_
          exact h.apart gone ((h.lookup port gone).mp hlookup).1 x.1 hmem (List.mem_map_of_mem hx)
        simp only [deleteRules_chain hok, h.chain, List.filter_append, hbase, ← hport]
        rw [filter_blocks]
        · intro e he heq
          have := (h.lookup port e).mpr ⟨he, heq.trans hport⟩
          exact Option.some.inj (this.symm.trans hlookup)
        · intro e he hne
          exact h.guarded.disjoint e.port port e gone ((h.lookup _ e).mpr ⟨he, rfl⟩) hlookup
            (hport ▸ hne)
      · intro q e
        rw [lookup_erase_eq_some, h.lookup]
        simp only [List.mem_filter, decide_eq_true_eq]
        constructor
        · rintro ⟨hq, he, rfl⟩
          exact ⟨⟨he, hq⟩, rfl⟩
        · rintro ⟨⟨he, hq⟩, rfl⟩
          exact ⟨hq, he, rfl⟩

theorem protectPort_ok (hok : ∀ n, env.fails n = false) (tunName : String) (k : Kernel)
    (port : UInt16) (protocol : String) :
    ∃ k' handles, protectPort env tunName k port protocol = (k', some handles) := by
  simp [protectPort, addRule, hok]

theorem laid_ensure (hok : ∀ n, env.fails n = false) (h : Laid env base s entries)
    (rule : PortRule) : ∃ entries, Laid env base (s.ensure env rule) entries := by
  have hguarded := guarded_ensure h.guarded rule
  cases hlookup : s.protectedMap.lookup rule.port with
  | some entry =>
      have hself : s.ensure env rule = s := by simp [Enforcer.ensure, hlookup]
      rw [hself]
      exact ⟨entries, h⟩
  | none =>
      obtain ⟨kernel, handles, hprotect⟩ :=
        protectPort_ok hok s.tunName s.kernel rule.port rule.protocol
      have hensure : s.ensure env rule = ⟨s.tunName, kernel,
          s.protectedMap.insert rule.port ⟨rule.port, rule.protocol, handles⟩⟩ := by
        simp [Enforcer.ensure, hlookup, hprotect]
      rw [hensure] at hguarded ⊢
      rcases protectPort_cases h.guarded.live hprotect with
        ⟨h1, h2, h3, hresult, -, hfresh, hchain, -⟩ | ⟨hnone, -⟩
      · cases hresult
        refine ⟨entries ++ [⟨rule.port, rule.protocol, [h1, h2, h3]⟩], hguarded, ?_, ?_, ?_⟩
        · simp only [hchain, h.chain, List.flatMap_append, List.flatMap_singleton,
            List.append_assoc]
          rfl
        · intro q e
          rw [lookup_insert_eq_some, h.lookup, List.mem_append, List.mem_singleton]
          constructor
          · rintro (⟨rfl, rfl⟩ | ⟨-, he, hport⟩)
            · exact ⟨Or.inr rfl, rfl⟩
            · exact ⟨Or.inl he, hport⟩
          · rintro ⟨he | rfl, hport⟩
            · refine Or.inr ⟨?_, he, hport⟩
              rintro rfl
              rw [(h.lookup rule.port e).mpr ⟨he, hport⟩] at hlookup
              cases hlookup
            · exact Or.inl ⟨hport.symm, rfl⟩
        · intro e he
          rcases List.mem_append.mp he with he | he
          · exact h.apart e he
          · -- a fresh handle is on no rule of the chain
            obtain rfl := List.mem_singleton.mp he
            intro handle hmem hbase
            obtain ⟨x, hx, rfl⟩ := List.mem_map.mp hbase
            exact hfresh _ hmem (h.guarded.live x (h.chain ▸ List.mem_append_left _ hx))
      · cases hnone

theorem laid_syncPolicy (hok : ∀ n, env.fails n = false) (h : Laid env base s entries)
    (desired : List PortRule) : ∃ entries, Laid env base (s.syncPolicy env desired) entries := by
  refine syncPolicy_induction (motive := fun t => ∃ entries, Laid env base t entries)
    ⟨entries, h⟩ ?_ ?_ desired
  · rintro t port ⟨entries, ht⟩
    exact ⟨_, laid_remove hok ht port⟩
  · rintro t rule ⟨entries, ht⟩
    exact laid_ensure hok ht rule

/-- A block decides about the packets to its port: those from `lo` and the tunnel pass. -/
theorem block_decides {tunName : String} {e : ProtectionEntry} {h1 h2 h3 : Nat} {p : Packet}
    (hhandles : e.ruleHandles = [h1, h2, h3]) (hport : e.port = p.dport)
    (hproto : env.unicode.toLowercase e.protocol = p.proto) :
    (∃ x ∈ e.rules env tunName, x.2.applies p = true) ∧
      firstMatch (fun x p => Rule.applies x.2 p) (fun x => x.2.verdict) .accept
        (e.rules env tunName) p =
      if p.iif = "lo" ∨ p.iif = tunName then Verdict.accept else .drop := by
  have hrules : e.rules env tunName = [(h1, acceptOn "lo" p.proto p.dport),
      (h2, acceptOn tunName p.proto p.dport), (h3, dropAll p.proto p.dport)] := by
    simp [ProtectionEntry.rules, hhandles, hport, hproto]
  rw [hrules]
  refine ⟨⟨(h3, dropAll p.proto p.dport), by simp, by simp [Rule.applies, dropAll]⟩, ?_⟩
  by_cases hlo : "lo" = p.iif
  · simp [firstMatch, Rule.applies, acceptOn, hlo]
  · by_cases htun : tunName = p.iif
    · simp [firstMatch, Rule.applies, acceptOn, hlo, htun]
    · simp [firstMatch, Rule.applies, acceptOn, dropAll, hlo, htun, Ne.symm hlo, Ne.symm htun]

/-- A rule of a block is for the block's port and protocol. -/
theorem of_applies {tunName : String} {e : ProtectionEntry} {x : Nat × Rule} {p : Packet}
    (hx : x ∈ e.rules env tunName) (happlies : x.2.applies p = true) :
    e.port = p.dport ∧ env.unicode.toLowercase e.protocol = p.proto := by
  have hrule := (List.of_mem_zip (a := x.1) (b := x.2) hx).2
  simp only [Rule.applies, Bool.and_eq_true, decide_eq_true_eq] at happlies
  simp only [List.mem_cons, List.not_mem_nil, or_false] at hrule
  rcases hrule with hrule | hrule | hrule
  all_goals
    rw [hrule] at happlies
    exact ⟨happlies.2, happlies.1.2⟩

theorem tracked_iff (h : Laid env base s entries) (p : Packet) :
    (∃ protocol, s.protocol? p.dport = some protocol ∧
      env.unicode.toLowercase protocol = p.proto) ↔
    ∃ e ∈ entries, e.port = p.dport ∧ env.unicode.toLowercase e.protocol = p.proto := by
  constructor
  · rintro ⟨protocol, hprotocol, hproto⟩
    obtain ⟨e, he, rfl⟩ := Option.map_eq_some_iff.mp hprotocol
    obtain ⟨hmem, hport⟩ := (h.lookup _ e).mp he
    exact ⟨e, hmem, hport, hproto⟩
  · rintro ⟨e, hmem, hport, hproto⟩
    exact ⟨e.protocol, by simp [Enforcer.protocol?, (h.lookup _ e).mpr ⟨hmem, hport⟩], hproto⟩

theorem Laid.block_decides (h : Laid env base s entries) {e : ProtectionEntry} {p : Packet}
    (he : e ∈ entries) (hlive : e.port = p.dport ∧ env.unicode.toLowercase e.protocol = p.proto) :
    (∃ x ∈ e.rules env s.tunName, x.2.applies p = true) ∧
      firstMatch (fun x p => Rule.applies x.2 p) (fun x => x.2.verdict) .accept
        (e.rules env s.tunName) p =
      if p.iif = "lo" ∨ p.iif = s.tunName then Verdict.accept else .drop := by
  obtain ⟨-, h1, h2, h3, hhandles, -⟩ := h.guarded.owned e.port e ((h.lookup _ e).mpr ⟨he, rfl⟩)
  exact Agent.block_decides hhandles hlive.1 hlive.2

/-- With every tracked port in a block of its own, the first match says: a packet from
`lo` or the tunnel passes, any other is dropped iff its port is tracked with its
protocol. -/
theorem dropped_iff_tracked (h : Laid env [] s entries) (p : Packet) :
    s.kernel.verdict p = .drop ↔
      (∃ protocol, s.protocol? p.dport = some protocol ∧
        env.unicode.toLowercase protocol = p.proto) ∧
      p.iif ≠ "lo" ∧ p.iif ≠ s.tunName := by
  let live := fun e : ProtectionEntry =>
    e.port = p.dport ∧ env.unicode.toLowercase e.protocol = p.proto
  have hblocks :
      ((∃ e ∈ entries, live e) → s.kernel.verdict p =
        if p.iif = "lo" ∨ p.iif = s.tunName then .accept else .drop) ∧
      ((∀ e ∈ entries, ¬ live e) → s.kernel.verdict p = .accept) := by
    rw [Kernel.verdict, h.chain, List.nil_append]
    refine firstMatch_flatMap (fun e he hlive => h.block_decides he hlive) ?_
    intro e _ hdead x hx
    exact Bool.eq_false_iff.mpr fun happlies => hdead (of_applies hx happlies)
  rw [tracked_iff h]
  by_cases hex : ∃ e ∈ entries, live e
  · rw [hblocks.1 hex]
    by_cases hiif : p.iif = "lo" ∨ p.iif = s.tunName
    · simp only [if_pos hiif, reduceCtorEq, false_iff, not_and]
      rintro - hlo htun
      exact hiif.elim hlo htun
    · rw [not_or] at hiif
      simp only [hiif, or_self, if_false, ne_eq, not_false_eq_true, and_self, and_true, true_iff]
      exact hex
  · rw [hblocks.2 fun e he hlive => hex ⟨e, he, hlive⟩]
    simp only [reduceCtorEq, false_iff, not_and]
    exact fun hlive => absurd hlive hex

end Laid

/-! ## The map -/

section Map

variable {env : Environment} {s : Enforcer}

theorem protocol_remove (s : Enforcer) (port q : UInt16) :
    (s.remove env port).protocol? q = if q = port then none else s.protocol? q := by
  unfold Enforcer.remove Enforcer.protocol?
  split
  next hnone =>
    by_cases hq : q = port
    · subst hq
      simp [hnone]
    · rw [if_neg hq]
  next entry hsome =>
    by_cases hq : q = port
    · subst hq
      simp
    · simp [hq, AList.lookup_erase_ne hq]

theorem protocol_ensure (hok : ∀ n, env.fails n = false) (s : Enforcer) (rule : PortRule)
    (q : UInt16) :
    (s.ensure env rule).protocol? q =
      (s.protocol? q).or (if q = rule.port then some rule.protocol else none) := by
  obtain ⟨kernel, handles, hprotect⟩ :=
    protectPort_ok hok s.tunName s.kernel rule.port rule.protocol
  unfold Enforcer.ensure Enforcer.protocol?
  cases hlookup : s.protectedMap.lookup rule.port with
  | some entry =>
      by_cases hq : q = rule.port
      · subst hq
        simp [hlookup]
      · simp [hq]
  | none =>
      by_cases hq : q = rule.port
      · subst hq
        simp [hlookup, hprotect]
      · simp [hq, hprotect, AList.lookup_insert_ne hq]

theorem protocol_removeAll (q : UInt16) : ∀ (ports : List UInt16) (s : Enforcer),
    (ports.foldl (Enforcer.remove env) s).protocol? q =
      if q ∈ ports then none else s.protocol? q
  | [], s => by simp
  | port :: ports, s => by
      rw [List.foldl_cons, protocol_removeAll q ports, protocol_remove]
      by_cases hq : q = port
      · simp [hq]
      · simp [hq]

theorem protocol_ensureAll (hok : ∀ n, env.fails n = false) (q : UInt16) :
    ∀ (desired : List PortRule) (s : Enforcer),
      (desired.foldl (Enforcer.ensure env) s).protocol? q =
        (s.protocol? q).or ((desired.find? fun r => r.port = q).map PortRule.protocol)
  | [], s => by simp
  | rule :: desired, s => by
      rw [List.foldl_cons, protocol_ensureAll hok q desired, protocol_ensure hok]
      by_cases hq : q = rule.port
      · simp [hq]
      · simp [hq, Ne.symm hq]

theorem mem_stale {desired : List PortRule} {q : UInt16} :
    q ∈ s.stale env desired ↔ (s.protocol? q).isSome ∧ ∀ r ∈ desired, r.port ≠ q := by
  have hkeys : q ∈ s.protectedMap.keys ↔ (s.protocol? q).isSome := by
    rw [Enforcer.protocol?, Option.isSome_map, AList.lookup_isSome]
    exact AList.mem_keys.symm
  rw [Enforcer.stale, List.mem_filter, (env.order_perm _ _).mem_iff, hkeys]
  simp

/-- A desired port keeps the protocol it is tracked with; a new one takes that of its
first rule; any other port is forgotten. -/
theorem protocol_syncPolicy (hok : ∀ n, env.fails n = false) (s : Enforcer)
    (desired : List PortRule) (q : UInt16) :
    (s.syncPolicy env desired).protocol? q =
      (desired.find? fun r => r.port = q).map fun r => (s.protocol? q).getD r.protocol := by
  rw [Enforcer.syncPolicy, protocol_ensureAll hok, protocol_removeAll]
  cases hfind : desired.find? (fun r => r.port = q) with
  | none =>
      have hnot : ∀ r ∈ desired, r.port ≠ q := by
        intro r hr
        simpa using List.find?_eq_none.mp hfind r hr
      cases hq : s.protocol? q with
      | none => simp
      | some protocol => simpa [mem_stale, hq] using hnot
  | some rule =>
      have hwanted : ¬ ∀ r ∈ desired, r.port ≠ q := by
        intro hnot
        exact hnot rule (List.mem_of_find?_eq_some hfind) (by simpa using List.find?_some hfind)
      cases hq : s.protocol? q <;> simp [mem_stale, hq, hwanted]

end Map

/-! ## Histories -/

/-- `rule` opened the present stretch of a port: it is the first for it in a list that
began to want the port, and every list since wants it. -/
def Opens (lists : List (List PortRule)) (port : UInt16) (rule : PortRule) : Prop :=
  ∃ before desired since, lists = before ++ desired :: since ∧
    (∀ r ∈ before.getLastD [], r.port ≠ port) ∧
    desired.find? (fun r => r.port = port) = some rule ∧
    ∀ later ∈ since, ∃ r ∈ later, r.port = port

/-- The same, followed list by list. -/
def opening (lists : List (List PortRule)) (port : UInt16) : Option PortRule :=
  lists.foldl (fun held desired => (desired.find? fun r => r.port = port).map held.getD) none

section History

variable {lists : List (List PortRule)} {port : UInt16}

theorem opening_concat (lists : List (List PortRule)) (desired : List PortRule) (port : UInt16) :
    opening (lists ++ [desired]) port =
      (desired.find? fun r => r.port = port).map (opening lists port).getD := by
  simp [opening]

/-- A port has an opening rule iff the last list wants it. -/
theorem opening_isSome : ∀ {lists : List (List PortRule)},
    (opening lists port).isSome ↔ ∃ r ∈ lists.getLastD [], r.port = port := by
  intro lists
  induction lists using List.reverseRecOn with
  | nil => simp [opening]
  | append_singleton lists desired _ => simp [opening_concat]

theorem opens_iff {rule : PortRule} : Opens lists port rule ↔ opening lists port = some rule := by
  constructor
  · rintro ⟨before, desired, since, rfl, hbefore, hfind, hsince⟩
    have hnone : opening before port = none := by
      rw [← Option.not_isSome_iff_eq_none, opening_isSome]
      rintro ⟨r, hr, hport⟩
      exact hbefore r hr hport
    induction since using List.reverseRecOn with
    | nil => simp [opening_concat, hfind, hnone]
    | append_singleton since later ih =>
        have hheld := ih fun l hl => hsince l (List.mem_append_left _ hl)
        obtain ⟨r, hr, hport⟩ := hsince later (by simp)
        obtain ⟨first, hfirst⟩ : ∃ first, later.find? (fun r => r.port = port) = some first :=
          Option.isSome_iff_exists.mp (List.find?_isSome.mpr ⟨r, hr, by simpa using hport⟩)
        rw [← List.cons_append, ← List.append_assoc, opening_concat, hheld, hfirst]
        rfl
  · induction lists using List.reverseRecOn with
    | nil => simp [opening]
    | append_singleton lists desired ih =>
        rw [opening_concat, Option.map_eq_some_iff]
        rintro ⟨first, hfirst, hrule⟩
        cases hheld : opening lists port with
        | none =>
            rw [hheld, Option.getD_none] at hrule
            refine ⟨lists, desired, [], by simp, fun r hr hport => ?_, hrule ▸ hfirst, by simp⟩
            have := opening_isSome.mpr ⟨r, hr, hport⟩
            rw [hheld] at this
            cases this
        | some held =>
            rw [hheld, Option.getD_some] at hrule
            obtain ⟨before, opened, since, rfl, hbefore, hfind, hsince⟩ := ih (hrule ▸ hheld)
            refine ⟨before, opened, since ++ [desired], by simp, hbefore, hfind, ?_⟩
            intro later hlater
            rcases List.mem_append.mp hlater with hlater | hlater
            · exact hsince later hlater
            · obtain rfl := List.mem_singleton.mp hlater
              exact ⟨first, List.mem_of_find?_eq_some hfirst,
                by simpa using List.find?_some hfirst⟩

/-- The enforcer after these synchronizations of an empty chain. -/
def synced (env : Environment) (tunName : String) (lists : List (List PortRule)) : Enforcer :=
  lists.foldl (Enforcer.syncPolicy env) (.new tunName .initialized)

theorem synced_concat (env : Environment) (tunName : String) (lists : List (List PortRule))
    (desired : List PortRule) :
    synced env tunName (lists ++ [desired]) =
      (synced env tunName lists).syncPolicy env desired := by
  simp [synced]

theorem tunName_syncPolicy (env : Environment) (s : Enforcer) (desired : List PortRule) :
    (s.syncPolicy env desired).tunName = s.tunName :=
  syncPolicy_induction (motive := fun t => t.tunName = s.tunName) rfl
    (fun t port ht => (tunName_remove t port).trans ht)
    (fun t rule ht => (tunName_ensure t rule).trans ht) desired

variable {env : Environment} {tunName : String}

theorem laid_synced (hok : ∀ n, env.fails n = false) (tunName : String)
    (lists : List (List PortRule)) :
    (∃ entries, Laid env [] (synced env tunName lists) entries) ∧
      (synced env tunName lists).tunName = tunName := by
  induction lists using List.reverseRecOn with
  | nil => exact ⟨⟨[], laid_new (guarded_initialized env tunName)⟩, rfl⟩
  | append_singleton lists desired ih =>
      obtain ⟨⟨entries, h⟩, htun⟩ := ih
      rw [synced_concat]
      exact ⟨laid_syncPolicy hok h desired, (tunName_syncPolicy env _ desired).trans htun⟩

theorem protocol_synced (hok : ∀ n, env.fails n = false) (lists : List (List PortRule))
    (port : UInt16) :
    (synced env tunName lists).protocol? port = (opening lists port).map PortRule.protocol := by
  induction lists using List.reverseRecOn with
  | nil => simp [synced, opening, Enforcer.protocol?, Enforcer.new]
  | append_singleton lists desired ih =>
      rw [synced_concat, protocol_syncPolicy hok, ih, opening_concat, Option.map_map]
      refine Option.map_congr fun r _ => ?_
      cases opening lists port <;> rfl

end History

/-- The protocol is tcp or udp, in any letter case. -/
def PortRule.Supported (r : PortRule) : Prop :=
  eqIgnoreAsciiCase r.protocol "tcp" = true ∨ eqIgnoreAsciiCase r.protocol "udp" = true

/-- What the chain is for: it drops a packet iff the last list wants its port closed for
its protocol, and it comes from elsewhere. -/
def Enforces (s : Enforcer) (desired : List PortRule) : Prop :=
  ∀ p : Packet, LowerAscii p.proto →
    (s.kernel.verdict p = .drop ↔
      (∃ r ∈ desired, r.port = p.dport ∧ eqIgnoreAsciiCase r.protocol p.proto = true) ∧
      p.iif ≠ "lo" ∧ p.iif ≠ s.tunName)

section Supported

variable {r r' : PortRule} (u : UnicodeData)

/-- The keyword a rule's protocol is a spelling of. -/
theorem PortRule.Supported.keyword (h : r.Supported) :
    LowerAscii (u.toLowercase r.protocol) ∧
      eqIgnoreAsciiCase r.protocol (u.toLowercase r.protocol) = true := by
  rcases h with h | h
  · rw [u.toLowercase_spelling (by decide) h]
    exact ⟨by decide, h⟩
  · rw [u.toLowercase_spelling (by decide) h]
    exact ⟨by decide, h⟩

theorem PortRule.Supported.spells_iff (h : r.Supported) {keyword : String}
    (hkeyword : LowerAscii keyword) :
    eqIgnoreAsciiCase r.protocol keyword = true ↔ u.toLowercase r.protocol = keyword := by
  constructor
  · exact u.toLowercase_spelling hkeyword
  · rintro rfl
    exact (h.keyword u).2

theorem PortRule.Supported.same_iff (h : r.Supported) (h' : r'.Supported) :
    eqIgnoreAsciiCase r.protocol r'.protocol = true ↔
      u.toLowercase r.protocol = u.toLowercase r'.protocol := by
  obtain ⟨hkeyword, hspells⟩ := h'.keyword u
  rw [← h.spells_iff u hkeyword]
  simp only [eqIgnoreAsciiCase, decide_eq_true_eq] at hspells ⊢
  rw [hspells]

end Supported

/-- There is an interface other than `lo` and the tunnel. -/
theorem exists_foreign (tunName : String) : ∃ iif : String, iif ≠ "lo" ∧ iif ≠ tunName := by
  by_cases h : "eth0" = tunName
  · exact ⟨"eth1", by decide, h ▸ by decide⟩
  · exact ⟨"eth0", by decide, h⟩

theorem supported_last {lists : List (List PortRule)}
    (h : ∀ desired ∈ lists, ∀ r ∈ desired, r.Supported) :
    ∀ r ∈ lists.getLastD [], r.Supported := by
  rcases List.eq_nil_or_concat lists with rfl | ⟨before, last, rfl⟩
  · simp
  · simpa using h last (by simp)

/-- **Synchronization theorem.**  When every command succeeds, the chain after any
sequence of lists enforces the last one iff each of its rules has, ignoring case, the
protocol of the rule that opened its port's present stretch. -/
theorem enforces_last_iff (env : Environment) (hok : ∀ n, env.fails n = false) (tunName : String)
    (lists : List (List PortRule)) (hsupported : ∀ desired ∈ lists, ∀ r ∈ desired, r.Supported) :
    Enforces (synced env tunName lists) (lists.getLastD []) ↔
      ∀ r ∈ lists.getLastD [], ∀ opened, Opens lists r.port opened →
        eqIgnoreAsciiCase r.protocol opened.protocol = true := by
  obtain ⟨⟨entries, hlaid⟩, htun⟩ := laid_synced hok tunName lists
  have hlast : ∀ r ∈ lists.getLastD [], r.Supported := supported_last hsupported
  have hopens : ∀ port opened, Opens lists port opened → opened.Supported := by
    rintro port opened ⟨before, desired, since, rfl, -, hfind, -⟩
    exact hsupported desired (by simp) opened (List.mem_of_find?_eq_some hfind)
  -- the chain drops by the rules that opened the ports
  have hdropped : ∀ p : Packet, (synced env tunName lists).kernel.verdict p = .drop ↔
      (∃ opened, Opens lists p.dport opened ∧
        env.unicode.toLowercase opened.protocol = p.proto) ∧
      p.iif ≠ "lo" ∧ p.iif ≠ (synced env tunName lists).tunName := by
    intro p
    rw [dropped_iff_tracked hlaid, protocol_synced hok]
    simp [opens_iff]
  constructor
  · intro henforces r hr opened hopened
    obtain ⟨iif, hlo, hiif⟩ := exists_foreign tunName
    have hdrop := (henforces ⟨iif, env.unicode.toLowercase r.protocol, r.port⟩
      ((hlast r hr).keyword _).1).mpr
      ⟨⟨r, hr, rfl, ((hlast r hr).keyword _).2⟩, hlo, fun h => hiif (h.trans htun)⟩
    obtain ⟨⟨opened', hopened', hproto⟩, -⟩ := (hdropped _).mp hdrop
    obtain rfl : opened' = opened :=
      Option.some.inj ((opens_iff.mp hopened').symm.trans (opens_iff.mp hopened))
    exact ((hlast r hr).same_iff env.unicode (hopens _ _ hopened)).mpr hproto.symm
  · intro hsame p hkeyword
    rw [hdropped]
    refine and_congr_left fun _ => ?_
    constructor
    · rintro ⟨opened, hopened, hproto⟩
      obtain ⟨r, hr, hport⟩ := opening_isSome.mp (Option.isSome_iff_exists.mpr
        ⟨opened, opens_iff.mp hopened⟩)
      have hlower := ((hlast r hr).same_iff env.unicode (hopens _ _ hopened)).mp
        (hsame r hr opened (hport ▸ hopened))
      exact ⟨r, hr, hport, ((hlast r hr).spells_iff env.unicode hkeyword).mpr (hlower.trans hproto)⟩
    · rintro ⟨r, hr, hport, hspells⟩
      obtain ⟨opened, hopened⟩ := Option.isSome_iff_exists.mp (opening_isSome.mpr ⟨r, hr, hport⟩)
      have hopened := opens_iff.mpr hopened
      have hlower := ((hlast r hr).same_iff env.unicode (hopens _ _ hopened)).mp
        (hsame r hr opened (hport ▸ hopened))
      exact ⟨opened, hopened,
        hlower.symm.trans (((hlast r hr).spells_iff env.unicode hkeyword).mp hspells)⟩

/-- A port that keeps its protocol, written in another case the second time. -/
theorem kept_protocol_enforced :
    Enforces (synced (.counting []) "tun0" [[⟨53, "UDP"⟩], [⟨53, "udp"⟩, ⟨22, "tcp"⟩]])
      [⟨53, "udp"⟩, ⟨22, "tcp"⟩] := by
  refine (enforces_last_iff (.counting []) (fun _ => rfl) "tun0"
    [[⟨53, "UDP"⟩], [⟨53, "udp"⟩, ⟨22, "tcp"⟩]] ?_).mpr ?_
  · simp only [List.forall_mem_cons, List.not_mem_nil, false_implies, implies_true, and_true]
    exact ⟨Or.inr (by decide), Or.inr (by decide), Or.inl (by decide)⟩
  · intro r hr opened hopened
    rw [opens_iff] at hopened
    change r ∈ [_, _] at hr
    simp only [List.mem_cons, List.not_mem_nil, or_false] at hr
    rcases hr with rfl | rfl
    · cases hopened
      decide
    · cases hopened
      decide

/-- A name server is to be closed for both protocols; the second is left open. -/
theorem second_protocol_open :
    (∀ n, (Environment.counting []).fails n = false) ∧
      (∀ r ∈ [(⟨53, "tcp"⟩ : PortRule), ⟨53, "udp"⟩], r.Supported) ∧
      ¬ Enforces (synced (.counting []) "tun0" [[⟨53, "tcp"⟩, ⟨53, "udp"⟩]])
        [⟨53, "tcp"⟩, ⟨53, "udp"⟩] := by
  refine ⟨fun _ => rfl, ?_, fun henforces => ?_⟩
  · simp only [List.forall_mem_cons, List.not_mem_nil, false_implies, implies_true, and_true]
    exact ⟨Or.inl (by decide), Or.inr (by decide)⟩
  · have hdrop := (henforces ⟨"eth0", "udp", 53⟩ (by decide)).mpr
      ⟨⟨⟨53, "udp"⟩, by simp, rfl, by decide⟩, by decide, by decide⟩
    revert hdrop
    decide

end ZeroTrust.Agent
