/-
# `ZeroTrust.Agent.Protection` — a tracked port is closed, whatever fails

Commands fail at any time: protecting a port may stop half-way and its rollback may
fail too, a deletion may leave any of the three rules behind.  So the chain fills
with rules that nobody tracks, anywhere in it.  What the enforcer does track is
nevertheless in force:

    `Guarded`                  each entry of the map owns three live rules, in order;
                               no two entries share a handle; and no rule of the
                               chain, tracked or not, accepts on another interface
                               than `lo` and the tunnel
    `guarded_step`             every call keeps it, under every pattern of failures
    `dropped_of_guarded`       so a packet from elsewhere can only meet drop rules,
                               and meets one

What the commands can do is said once, in `addRule_some`, `deleteRules_spec` and
`protectPort_cases`.
-/
import ZeroTrust.Lib.Run
import ZeroTrust.Agent.Firewall

namespace ZeroTrust.Agent

open Lib

section Commands

variable {env : Environment} {k k' : Kernel}

/-! ## What the commands can do -/

theorem addRule_none {rule : Rule} (h : addRule env k rule = (k', none)) :
    k'.commands = k.commands + 1 ∧ env.fails k.commands = true ∧ k'.chain = k.chain ∧
      k'.used = k.used := by
  unfold addRule at h
  split at h
  next hfails =>
    cases h
    exact ⟨rfl, hfails, rfl, rfl⟩
  · cases h

theorem addRule_some {rule : Rule} {handle : Nat} (h : addRule env k rule = (k', some handle)) :
    k'.commands = k.commands + 1 ∧ env.fails k.commands = false ∧ handle ∉ k.used ∧
      k'.chain = k.chain ++ [(handle, rule)] ∧ k'.used = handle :: k.used := by
  unfold addRule at h
  split at h
  · cases h
  next hfails =>
    cases h
    exact ⟨rfl, Bool.eq_false_iff.mpr hfails, env.handle_fresh k.used, rfl, rfl⟩

/-- So many commands from the n-th on succeed. -/
def Succeed (env : Environment) (n count : Nat) : Prop := ∀ i < count, env.fails (n + i) = false

theorem succeed_succ {n count : Nat} :
    Succeed env n (count + 1) ↔ env.fails n = false ∧ Succeed env (n + 1) count := by
  constructor
  · intro h
    refine ⟨h 0 (Nat.succ_pos _), fun i hi => ?_⟩
    rw [Nat.add_right_comm]
    exact h (i + 1) (Nat.succ_lt_succ hi)
  · rintro ⟨hfirst, hrest⟩ i hi
    cases i with
    | zero => exact hfirst
    | succ i =>
        rw [Nat.add_comm i 1, ← Nat.add_assoc]
        exact hrest i (Nat.lt_of_succ_lt_succ hi)

theorem deleteRules_cons (k : Kernel) (h : Nat) (handles : List Nat) :
    deleteRules env k (h :: handles) = deleteRules env (deleteRule env k h) handles := rfl

theorem commands_deleteRule (env : Environment) (k : Kernel) (h : Nat) :
    (deleteRule env k h).commands = k.commands + 1 := by
  unfold deleteRule
  split <;> rfl

/-- Of the rules to be deleted some are gone, all of them iff every command succeeds;
nothing else changes. -/
theorem deleteRules_spec (env : Environment) : ∀ (handles : List Nat) (k : Kernel),
    ∃ gone, gone ⊆ handles ∧
      (deleteRules env k handles).chain = k.chain.filter (fun e => e.1 ∉ gone) ∧
      (deleteRules env k handles).used = k.used ∧
      (handles.Nodup → (handles ⊆ gone ↔ Succeed env k.commands handles.length))
  | [], k => ⟨[], List.Subset.refl _, by simp [deleteRules], rfl, by simp [Succeed]⟩
  | h :: handles, k => by
      obtain ⟨gone, hsub, hchain, hused, hall⟩ := deleteRules_spec env handles (deleteRule env k h)
      rw [commands_deleteRule] at hall
      by_cases hfails : env.fails k.commands = true
      · refine ⟨gone, List.subset_cons_of_subset _ hsub, ?_, ?_, fun hnodup => ?_⟩
        · rw [deleteRules_cons, hchain, deleteRule, if_pos hfails]
        · rw [deleteRules_cons, hused, deleteRule, if_pos hfails]
        · rw [List.length_cons, succeed_succ]
          simp only [hfails, Bool.true_eq_false, false_and, iff_false]
          exact fun hgone => (List.nodup_cons.mp hnodup).1 (hsub (hgone List.mem_cons_self))
      · refine ⟨h :: gone, List.cons_subset_cons _ hsub, ?_, ?_, fun hnodup => ?_⟩
        · rw [deleteRules_cons, hchain, deleteRule, if_neg hfails]
          simp only [List.filter_filter, List.mem_cons, not_or]
          refine List.filter_congr fun e _ => ?_
          simp [Bool.and_comm]
        · rw [deleteRules_cons, hused, deleteRule, if_neg hfails]
        · obtain ⟨hnot, hnodup⟩ := List.nodup_cons.mp hnodup
          rw [List.length_cons, succeed_succ, ← hall hnodup]
          simp only [Bool.not_eq_true] at hfails
          simp only [hfails, true_and, List.cons_subset, List.mem_cons, true_or]
          constructor
          · intro hgone x hx
            refine (List.mem_cons.mp (hgone hx)).resolve_left ?_
            rintro rfl
            exact hnot hx
          · exact fun hgone => List.subset_cons_of_subset _ hgone

/-- Rolling back what was just added leaves some of it, nothing iff every command
succeeds. -/
theorem rollback_spec (env : Environment) {added : List (Nat × Rule)}
    (hlive : ∀ e ∈ k.chain, e.1 ∈ k.used) (hfresh : ∀ e ∈ added, e.1 ∉ k.used)
    (hnodup : (added.map Prod.fst).Nodup) (hchain : k'.chain = k.chain ++ added) :
    ∃ orphans, orphans.Sublist added ∧
      (deleteRules env k' (added.map Prod.fst)).chain = k.chain ++ orphans ∧
      (deleteRules env k' (added.map Prod.fst)).used = k'.used ∧
      (orphans = [] ↔ Succeed env k'.commands added.length) := by
  obtain ⟨gone, hsub, hfilter, hused, hall⟩ := deleteRules_spec env (added.map Prod.fst) k'
  refine ⟨added.filter fun e => e.1 ∉ gone, List.filter_sublist, ?_, hused, ?_⟩
  · have hkeep : ∀ e ∈ k.chain, decide (e.1 ∉ gone) = true := by
      intro e he
      rw [decide_eq_true_eq]
      intro hgone
      obtain ⟨a, ha, hsame⟩ := List.mem_map.mp (hsub hgone)
      exact hfresh a ha (hsame ▸ hlive e he)
    rw [hfilter, hchain, List.filter_append, List.filter_eq_self.mpr hkeep]
  · rw [← List.length_map (f := Prod.fst), ← hall hnodup, List.filter_eq_nil_iff]
    constructor
    · intro hgone h hh
      obtain ⟨e, he, rfl⟩ := List.mem_map.mp hh
      simpa using hgone e he
    · intro hgone e he
      simpa using hgone (List.mem_map_of_mem he)

/-- The three rules of a protected port. -/
def triple (tunName proto : String) (port : UInt16) (h1 h2 h3 : Nat) : List (Nat × Rule) :=
  [(h1, acceptOn "lo" proto port), (h2, acceptOn tunName proto port), (h3, dropAll proto port)]

/-- Where protecting a port stops half-way, what was added so far is deleted again. -/
def RollsBack (env : Environment) (k : Kernel) : Prop :=
  (env.fails k.commands = false → env.fails (k.commands + 1) = true →
    Succeed env (k.commands + 2) 1) ∧
  (env.fails k.commands = false → env.fails (k.commands + 1) = false →
    env.fails (k.commands + 2) = true → Succeed env (k.commands + 3) 2)

/-- Protecting a port adds its three rules under fresh handles; or it fails, and
leaves some of the accepting ones unless it rolls back. -/
theorem protectPort_cases {tunName protocol : String} {port : UInt16} {result : Option (List Nat)}
    (hlive : ∀ e ∈ k.chain, e.1 ∈ k.used)
    (h : protectPort env tunName k port protocol = (k', result)) :
    (∃ h1 h2 h3, result = some [h1, h2, h3] ∧ [h1, h2, h3].Nodup ∧
      (∀ h ∈ [h1, h2, h3], h ∉ k.used) ∧
      k'.chain = k.chain ++ triple tunName (env.unicode.toLowercase protocol) port h1 h2 h3 ∧
      k'.used = h3 :: h2 :: h1 :: k.used ∧ RollsBack env k) ∨
    (result = none ∧ ∃ orphans, k'.chain = k.chain ++ orphans ∧ k.used ⊆ k'.used ∧
      (orphans = [] ↔ RollsBack env k) ∧ (orphans.map Prod.fst).Nodup ∧
      ∀ e ∈ orphans, e.1 ∈ k'.used ∧ e.1 ∉ k.used ∧ (e.2.iifname = some "lo" ∨
        e.2.iifname = some tunName)) := by
  unfold protectPort at h
  simp only at h
  split at h
  next k₁ hadd₁ =>
    obtain ⟨-, hfails, hchain, hused⟩ := addRule_none hadd₁
    cases h
    exact Or.inr ⟨rfl, [], by simp [hchain], by simp [hused], by simp [RollsBack, hfails],
      by simp, by simp⟩
  next k₁ h1 hadd₁ =>
    obtain ⟨hn₁, hok₁, hfresh₁, hchain₁, hused₁⟩ := addRule_some hadd₁
    split at h
    next k₂ hadd₂ =>
      obtain ⟨hn₂, hfails, hchain₂, hused₂⟩ := addRule_none hadd₂
      cases h
      obtain ⟨orphans, hsub, hchain, hused, hnone⟩ :=
        rollback_spec env hlive (by simpa using hfresh₁) (by simp) (hchain₂.trans hchain₁)
      rw [hused₂, hused₁] at hused
      rw [hn₁] at hfails
      rw [hn₂, hn₁] at hnone
      refine Or.inr ⟨rfl, orphans, hchain, ?_, ?_, (hsub.map _).nodup (by simp), fun e he => ?_⟩
      · exact hused ▸ List.subset_cons_self _ _
      · rw [hnone]
        simp [RollsBack, hok₁, hfails]
      · obtain rfl := List.mem_singleton.mp (hsub.subset he)
        exact ⟨hused ▸ List.mem_cons_self, hfresh₁, Or.inl rfl⟩
    next k₂ h2 hadd₂ =>
      obtain ⟨hn₂, hok₂, hfresh₂, hchain₂, hused₂⟩ := addRule_some hadd₂
      rw [hused₁, List.mem_cons, not_or] at hfresh₂
      rw [hchain₁, List.append_assoc] at hchain₂
      rw [hused₁] at hused₂
      rw [hn₁] at hok₂ hn₂
      split at h
      next k₃ hadd₃ =>
        obtain ⟨hn₃, hfails, hchain₃, hused₃⟩ := addRule_none hadd₃
        cases h
        obtain ⟨orphans, hsub, hchain, hused, hnone⟩ :=
          rollback_spec env hlive (by simp [hfresh₁, hfresh₂.2]) (by simp [Ne.symm hfresh₂.1])
            (hchain₃.trans hchain₂)
        rw [hused₃, hused₂] at hused
        rw [hn₂] at hfails
        rw [hn₃, hn₂] at hnone
        refine Or.inr ⟨rfl, orphans, hchain, ?_, ?_,
          (hsub.map _).nodup (by simp [Ne.symm hfresh₂.1]), fun e he => ?_⟩
        · exact hused ▸ fun x hx => List.mem_cons_of_mem _ (List.mem_cons_of_mem _ hx)
        · rw [hnone]
          simp [RollsBack, hok₁, hok₂, hfails]
        · have hadded := hsub.subset he
          simp only [List.singleton_append, List.mem_cons, List.not_mem_nil, or_false] at hadded
          rcases hadded with rfl | rfl
          · exact ⟨hused ▸ by simp, hfresh₁, Or.inl rfl⟩
          · exact ⟨hused ▸ by simp, hfresh₂.2, Or.inr rfl⟩
      next k₃ h3 hadd₃ =>
        obtain ⟨-, hok₃, hfresh₃, hchain₃, hused₃⟩ := addRule_some hadd₃
        cases h
        rw [hused₂, List.mem_cons, List.mem_cons, not_or, not_or] at hfresh₃
        rw [hn₂] at hok₃
        refine Or.inl ⟨h1, h2, h3, rfl, ?_, ?_, ?_, ?_, ?_⟩
        · simp [Ne.symm hfresh₂.1, Ne.symm hfresh₃.1, Ne.symm hfresh₃.2.1]
        · simp [hfresh₁, hfresh₂.2, hfresh₃.2.2]
        · rw [hchain₃, hchain₂]
          simp [triple]
        · rw [hused₃, hused₂]
        · simp [RollsBack, hok₁, hok₂, hok₃]

end Commands

/-! ## The invariant -/

/-- An entry of the map owns the three rules of its port and protocol, live and in
order. -/
def Owns (env : Environment) (tunName : String) (chain : List (Nat × Rule)) (port : UInt16)
    (entry : ProtectionEntry) : Prop :=
  entry.port = port ∧ ∃ h1 h2 h3, entry.ruleHandles = [h1, h2, h3] ∧ [h1, h2, h3].Nodup ∧
    (triple tunName (env.unicode.toLowercase entry.protocol) port h1 h2 h3).Sublist chain

structure Guarded (env : Environment) (s : Enforcer) : Prop where
  live : ∀ e ∈ s.kernel.chain, e.1 ∈ s.kernel.used
  /-- No rule accepts from elsewhere. -/
  closed : ∀ e ∈ s.kernel.chain, e.2.verdict = .accept →
    e.2.iifname = some "lo" ∨ e.2.iifname = some s.tunName
  owned : ∀ port entry, s.protectedMap.lookup port = some entry →
    Owns env s.tunName s.kernel.chain port entry
  disjoint : ∀ p q e f, s.protectedMap.lookup p = some e → s.protectedMap.lookup q = some f →
    p ≠ q → List.Disjoint e.ruleHandles f.ruleHandles

section Guarded

variable {env : Environment} {s : Enforcer}

/-- An enforcer that tracks nothing, on any chain that accepts from nowhere else. -/
theorem guarded_new {tunName : String} {kernel : Kernel}
    (live : ∀ e ∈ kernel.chain, e.1 ∈ kernel.used)
    (closed : ∀ e ∈ kernel.chain, e.2.verdict = .accept →
      e.2.iifname = some "lo" ∨ e.2.iifname = some tunName) :
    Guarded env (.new tunName kernel) where
  live
  closed
  owned := by simp [Enforcer.new]
  disjoint := by simp [Enforcer.new]

theorem guarded_initialized (env : Environment) (tunName : String) :
    Guarded env (.new tunName .initialized) :=
  guarded_new (by simp [Kernel.initialized]) (by simp [Kernel.initialized])

/-- An entry's handles are in use. -/
theorem Guarded.used (hs : Guarded env s) {port : UInt16} {entry : ProtectionEntry}
    (h : s.protectedMap.lookup port = some entry) :
    ∀ handle ∈ entry.ruleHandles, handle ∈ s.kernel.used := by
  obtain ⟨-, h1, h2, h3, hhandles, -, hsub⟩ := hs.owned port entry h
  intro handle hmem
  have hlive : ∀ e ∈ triple s.tunName _ port h1 h2 h3, e.1 ∈ s.kernel.used :=
    fun e he => hs.live e (hsub.subset he)
  simp only [triple, List.forall_mem_cons] at hlive
  rw [hhandles] at hmem
  simp only [List.mem_cons, List.not_mem_nil, or_false] at hmem
  rcases hmem with rfl | rfl | rfl
  · exact hlive.1
  · exact hlive.2.1
  · exact hlive.2.2.1

/-- Deleting rules an entry does not own leaves it its own. -/
theorem Owns.filter {tunName : String} {chain : List (Nat × Rule)} {port : UInt16}
    {entry : ProtectionEntry} {gone : List Nat} (h : Owns env tunName chain port entry)
    (hdisjoint : List.Disjoint entry.ruleHandles gone) :
    Owns env tunName (chain.filter fun e => e.1 ∉ gone) port entry := by
  obtain ⟨hport, h1, h2, h3, hhandles, hnodup, hsub⟩ := h
  refine ⟨hport, h1, h2, h3, hhandles, hnodup, ?_⟩
  have hkeep : ∀ e ∈ triple tunName (env.unicode.toLowercase entry.protocol) port h1 h2 h3,
      decide (e.1 ∉ gone) = true := by
    intro e he
    have hmem : e.1 ∈ entry.ruleHandles := by
      rw [hhandles]
      have := List.mem_map_of_mem (f := Prod.fst) he
      simpa [triple] using this
    exact decide_eq_true fun hgone => hdisjoint hmem hgone
  rw [← List.filter_eq_self.mpr hkeep]
  exact hsub.filter _

theorem Owns.append {tunName : String} {chain extra : List (Nat × Rule)} {port : UInt16}
    {entry : ProtectionEntry} (h : Owns env tunName chain port entry) :
    Owns env tunName (chain ++ extra) port entry := by
  obtain ⟨hport, h1, h2, h3, hhandles, hnodup, hsub⟩ := h
  exact ⟨hport, h1, h2, h3, hhandles, hnodup, hsub.trans (List.sublist_append_left _ _)⟩

theorem guarded_remove (hs : Guarded env s) (port : UInt16) : Guarded env (s.remove env port) := by
  unfold Enforcer.remove
  split
  · exact hs
  next entry hentry =>
    obtain ⟨gone, hsub, hchain, hused, -⟩ := deleteRules_spec env entry.ruleHandles s.kernel
    refine { live := ?live, closed := ?closed, owned := ?owned, disjoint := ?disjoint }
    case live =>
      intro e he
      rw [hchain] at he
      rw [hused]
      exact hs.live e (List.mem_of_mem_filter he)
    case closed =>
      intro e he
      rw [hchain] at he
      exact hs.closed e (List.mem_of_mem_filter he)
    case owned =>
      intro q e hq
      obtain ⟨hne, hq⟩ := lookup_erase_eq_some.mp hq
      rw [hchain]
      refine (hs.owned q e hq).filter fun handle hmem hgone => ?_
      exact hs.disjoint q port e entry hq hentry hne hmem (hsub hgone)
    case disjoint =>
      intro p q e f hp hq hne
      exact hs.disjoint p q e f (lookup_erase_eq_some.mp hp).2 (lookup_erase_eq_some.mp hq).2 hne

/-- A chain that only grew, by rules that accept from nowhere else. -/
theorem guarded_append (hs : Guarded env s) {kernel : Kernel} {extra : List (Nat × Rule)}
    (hchain : kernel.chain = s.kernel.chain ++ extra) (hused : s.kernel.used ⊆ kernel.used)
    (hextra : ∀ e ∈ extra, e.1 ∈ kernel.used ∧ (e.2.verdict = .accept →
      e.2.iifname = some "lo" ∨ e.2.iifname = some s.tunName)) :
    Guarded env { s with kernel } where
  live e he := by
    simp only [hchain] at he
    rcases List.mem_append.mp he with he | he
    · exact hused (hs.live e he)
    · exact (hextra e he).1
  closed e he := by
    simp only [hchain] at he
    rcases List.mem_append.mp he with he | he
    · exact hs.closed e he
    · exact (hextra e he).2
  owned port entry h := by
    simp only [hchain]
    exact (hs.owned port entry h).append
  disjoint := hs.disjoint

theorem guarded_ensure (hs : Guarded env s) (rule : PortRule) :
    Guarded env (s.ensure env rule) := by
  unfold Enforcer.ensure
  split
  · exact hs
  split
  next kernel handles hprotect =>
    rcases protectPort_cases hs.live hprotect with
      ⟨h1, h2, h3, hresult, hnodup, hfresh, hchain, hused, -⟩ | ⟨hnone, -⟩
    · cases hresult
      have hgrown : Guarded env { s with kernel } := by
        refine guarded_append hs hchain (fun x hx => by simp [hused, hx]) fun e he => ?_
        simp only [triple, List.mem_cons, List.not_mem_nil, or_false] at he
        rcases he with rfl | rfl | rfl
        · exact ⟨by simp [hused], fun _ => Or.inl rfl⟩
        · exact ⟨by simp [hused], fun _ => Or.inr rfl⟩
        · exact ⟨by simp [hused], fun h => by cases h⟩
      -- handles in use before are not among the new ones
      have hnew : ∀ q f, s.protectedMap.lookup q = some f →
          List.Disjoint [h1, h2, h3] f.ruleHandles :=
        fun q f hq handle hmem hold => hfresh handle hmem (hs.used hq handle hold)
      refine ⟨hgrown.live, hgrown.closed, ?_, ?_⟩
      · intro q e hq
        rcases lookup_insert_eq_some.mp hq with ⟨rfl, rfl⟩ | ⟨-, hold⟩
        · exact ⟨rfl, h1, h2, h3, rfl, hnodup, hchain ▸ List.sublist_append_right _ _⟩
        · exact hgrown.owned q e hold
      · intro p q e f hp hq hne
        rcases lookup_insert_eq_some.mp hp with ⟨hpkey, rfl⟩ | ⟨-, hp⟩ <;>
          rcases lookup_insert_eq_some.mp hq with ⟨hqkey, rfl⟩ | ⟨-, hq⟩
        · exact absurd (hpkey.trans hqkey.symm) hne
        · exact hnew q f hq
        · exact fun handle hold hmem => hnew p e hp hmem hold
        · exact hs.disjoint p q e f hp hq hne
    · cases hnone
  next kernel hprotect =>
    rcases protectPort_cases hs.live hprotect with ⟨_, _, _, hsome, -⟩ |
      ⟨-, orphans, hchain, hused, -, -, horphans⟩
    · cases hsome
    · exact guarded_append hs hchain hused fun e he =>
        ⟨(horphans e he).1, fun _ => (horphans e he).2.2⟩

theorem tunName_remove (s : Enforcer) (port : UInt16) :
    (s.remove env port).tunName = s.tunName := by
  unfold Enforcer.remove
  split <;> rfl

theorem tunName_ensure (s : Enforcer) (rule : PortRule) :
    (s.ensure env rule).tunName = s.tunName := by
  unfold Enforcer.ensure
  split
  · rfl
  split <;> rfl

/-- Both loops of a synchronization keep what their rounds keep. -/
theorem syncPolicy_induction {motive : Enforcer → Prop} (hs : motive s)
    (hremove : ∀ s port, motive s → motive (s.remove env port))
    (hensure : ∀ s rule, motive s → motive (s.ensure env rule)) (desired : List PortRule) :
    motive (s.syncPolicy env desired) := by
  have hloop : ∀ {α : Type} (f : Enforcer → α → Enforcer) (xs : List α) (s : Enforcer),
      (∀ s x, motive s → motive (f s x)) → motive s → motive (xs.foldl f s) := by
    intro α f xs
    induction xs with
    | nil => intro s _ hs; exact hs
    | cons x xs ih => intro s hf hs; exact ih (f s x) hf (hf s x hs)
  exact hloop _ _ _ hensure (hloop _ _ _ hremove hs)

/-- From elsewhere, any rule that applies drops. -/
theorem drop_of_applies (hs : Guarded env s) {p : Packet} (hlo : p.iif ≠ "lo")
    (htun : p.iif ≠ s.tunName) {e : Nat × Rule} (he : e ∈ s.kernel.chain)
    (happlies : e.2.applies p = true) : e.2.verdict = .drop := by
  cases hverdict : e.2.verdict with
  | drop => rfl
  | accept =>
      -- an accepting rule is for `lo` or the tunnel, and the packet is from neither
      exfalso
      rcases hs.closed e he hverdict with hiif | hiif
      · simp [Rule.applies, hiif, Ne.symm hlo] at happlies
      · simp [Rule.applies, hiif, Ne.symm htun] at happlies

theorem dropped_iff_applies (hs : Guarded env s) {p : Packet} (hlo : p.iif ≠ "lo")
    (htun : p.iif ≠ s.tunName) :
    s.kernel.verdict p = .drop ↔ ∃ e ∈ s.kernel.chain, e.2.applies p = true := by
  constructor
  · intro hdrop
    by_contra hnone
    have haccept : s.kernel.verdict p = .accept := by
      refine firstMatch_of_none fun e he => ?_
      exact Bool.eq_false_iff.mpr fun happlies => hnone ⟨e, he, happlies⟩
    rw [haccept] at hdrop
    cases hdrop
  · intro hex
    exact firstMatch_of_agree hex fun e he happlies => drop_of_applies hs hlo htun he happlies

theorem dropped_of_guarded (hs : Guarded env s) {port : UInt16} {entry : ProtectionEntry}
    (h : s.protectedMap.lookup port = some entry) {iif : String} (hlo : iif ≠ "lo")
    (htun : iif ≠ s.tunName) :
    s.kernel.verdict ⟨iif, env.unicode.toLowercase entry.protocol, port⟩ = .drop := by
  obtain ⟨-, h1, h2, h3, -, -, hsub⟩ := hs.owned port entry h
  refine (dropped_iff_applies hs hlo htun).mpr
    ⟨(h3, dropAll (env.unicode.toLowercase entry.protocol) port), hsub.subset ?_, ?_⟩
  · simp [triple]
  · simp [Rule.applies, dropAll]

end Guarded

/-! ## Runs -/

inductive Call where
  | syncPolicy (desired : List PortRule)
  | unprotectPort (port : UInt16)

def step (env : Environment) (s : Enforcer) : Call → Option Enforcer
  | .syncPolicy desired => some (s.syncPolicy env desired)
  | .unprotectPort port => some (s.unprotectPort env port)

theorem guarded_step {env : Environment} {s s' : Enforcer} {call : Call} (hs : Guarded env s)
    (h : step env s call = some s') : Guarded env s' ∧ s'.tunName = s.tunName := by
  cases call with
  | syncPolicy desired =>
      obtain rfl := Option.some.inj h
      exact syncPolicy_induction (motive := fun t => Guarded env t ∧ t.tunName = s.tunName)
        ⟨hs, rfl⟩
        (fun t port ht => ⟨guarded_remove ht.1 port, (tunName_remove t port).trans ht.2⟩)
        (fun t rule ht => ⟨guarded_ensure ht.1 rule, (tunName_ensure t rule).trans ht.2⟩) desired
  | unprotectPort port =>
      obtain rfl := Option.some.inj h
      exact ⟨guarded_remove hs port, tunName_remove s port⟩

/-- **Protection theorem.**  Under any pattern of failing commands, after any sequence
of synchronizations and removals: each entry of the map owns three live rules in
order, for its own port and lower-cased protocol; different entries share no
handle; and every packet to that port and protocol is dropped unless it comes from
`lo` or the tunnel. -/
theorem tracked_ports_protected (env : Environment) (tunName : String) (calls : List Call)
    (s : Enforcer) (hrun : run (step env) (.new tunName .initialized) calls = some s) :
    (∀ port entry, s.protectedMap.lookup port = some entry →
      Owns env tunName s.kernel.chain port entry) ∧
    (∀ p q e f, s.protectedMap.lookup p = some e → s.protectedMap.lookup q = some f → p ≠ q →
      List.Disjoint e.ruleHandles f.ruleHandles) ∧
    (∀ port entry, s.protectedMap.lookup port = some entry →
      ∀ iif, iif ≠ "lo" → iif ≠ tunName →
        s.kernel.verdict ⟨iif, env.unicode.toLowercase entry.protocol, port⟩ = .drop) := by
  obtain ⟨hguarded, rfl⟩ : Guarded env s ∧ s.tunName = tunName := by
    refine run_invariant (motive := fun t => Guarded env t ∧ t.tunName = tunName) ?_
      ⟨guarded_initialized env tunName, rfl⟩ hrun
    intro t call t' ht hstep
    obtain ⟨hguarded, htun⟩ := guarded_step ht.1 hstep
    exact ⟨hguarded, htun.trans ht.2⟩
  exact ⟨hguarded.owned, hguarded.disjoint, fun port entry h iif hlo htun =>
    dropped_of_guarded hguarded h hlo htun⟩

/-- A kernel that numbers its rules and fails the commands with these numbers. -/
def Environment.counting (failing : List Nat) : Environment where
  unicode := .ascii
  fails n := n ∈ failing
  handle used := used.foldr max 0 + 1
  handle_fresh used h := by
    have hle : ∀ (used : List Nat), ∀ x ∈ used, x ≤ used.foldr max 0 := by
      intro used
      induction used with
      | nil => simp
      | cons y ys ih =>
          intro x hx
          rcases List.mem_cons.mp hx with rfl | hx
          · exact Nat.le_max_left _ _
          · exact (ih x hx).trans (Nat.le_max_right _ _)
    exact absurd (hle used _ h) (Nat.not_succ_le_self _)
  order _ keys := keys
  order_perm _ _ := List.Perm.refl _

/-- The drop rule of port 22 fails, and so does half of the rollback; port 53 is
protected next, and 22 with the next synchronization. -/
def failingCalls : List Call :=
  [.syncPolicy [⟨22, "TCP"⟩, ⟨53, "udp"⟩], .syncPolicy [⟨22, "TCP"⟩, ⟨53, "udp"⟩]]

theorem failingCalls_protected :
    ∃ s, run (step (.counting [2, 3])) (.new "tun0" .initialized) failingCalls = some s ∧
      s.kernel.chain.length = 7 ∧ s.kernel.verdict ⟨"eth0", "tcp", 22⟩ = .drop := by
  obtain ⟨s, hs⟩ : ∃ s, run (step (.counting [2, 3])) (.new "tun0" .initialized) failingCalls =
      some s := ⟨_, rfl⟩
  have hlookup : s.protectedMap.lookup 22 = some ⟨22, "TCP", [6, 7, 8]⟩ := by
    cases hs
    decide
  refine ⟨s, hs, by cases hs; decide, ?_⟩
  exact (tracked_ports_protected _ _ _ s hs).2.2 22 _ hlookup "eth0" (by decide) (by decide)

end ZeroTrust.Agent
