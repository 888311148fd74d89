/-
# `ZeroTrust.Admin.GroupResources` — resources that are added to a group

`POST /api/groups/{id}/resources` makes a rule for each listed resource, unless a rule of the
resource has the group already.  Whether that rule is enabled is not looked at:

    no rule has the group        a rule and its group are inserted, `made`
    an enabled rule has it       nothing to do
    a disabled rule has it       nothing is done, the reply is ok, and nobody is let in

The compiler wants the rule to be enabled.  What becomes of the insertions and of the commit
is not looked at either, so none of them may fail; and a row of `access_rule_groups` that a
deleted rule has left behind lets its group in once the id is made again.

    `commits_addGroupRules`   the transaction inserts what `made` says, or nothing
    `grantsAccess_iff`        when an ok reply means that the group, and nobody else, is let in
-/
import ZeroTrust.Admin.Removals
import ZeroTrust.Admin.OkReplies

namespace ZeroTrust.Admin.GroupResources

open Lib
open Controller
open ErrorReplies (Store existingRule addGroupRules uiAddResources)
open PolicyNotifications (Active)
open Removals (Chain mem_resourceIdentities_iff_chain mem_policyResources)
open ControlPlane (ampersandController)

/-- A listed resource, and the time in milliseconds at which its turn comes. -/
abbrev Entry := String × Int

/-! ## The rules that are made -/

def ruleID (groupID : String) (entry : Entry) : String :=
  "rule_" ++ toString entry.2 ++ "_" ++ groupID ++ "_" ++ entry.1

def madeRule (groupID : String) (entry : Entry) : AccessRuleRow :=
  ⟨ruleID groupID entry, entry.1, 1⟩

def madeGroup (groupID : String) (entry : Entry) : AccessRuleGroupRow :=
  ⟨ruleID groupID entry, groupID⟩

theorem ruleID_ne_empty (groupID : String) (entry : Entry) : ruleID groupID entry ≠ "" := by
  simp [ruleID]

/-- The rule of the resource that the handler finds to have the group. -/
def linking (s : Store) (groupID resourceID : String) : Option AccessRuleRow :=
  s.tables.db.accessRules.rows.find? fun ar =>
    ar.resourceId = resourceID ∧ ⟨ar.id, groupID⟩ ∈ s.tables.db.accessRuleGroups.rows

theorem existingRule_eq {s : Store} {groupID resourceID : String} :
    existingRule groupID resourceID (some s) =
      ((linking s groupID resourceID).map AccessRuleRow.id).getD "" := rfl

/-- The entries for which a rule is made: the first one of each resource that no rule links to
the group.  A rule whose id is empty is not seen. -/
def made (s : Store) (groupID : String) : List Entry → List Entry
  | [] => []
  | entry :: rest =>
      match linking s groupID entry.1 with
      | none => entry :: (made s groupID rest).filter fun e => e.1 ≠ entry.1
      | some ar => if ar.id = "" then entry :: made s groupID rest else made s groupID rest

/-- The store with a rule for the entry. -/
def link (groupID : String) (s : Store) (entry : Entry) : Store :=
  { s with
    tables.db.accessRules := s.tables.db.accessRules.put (madeRule groupID entry)
    tables.db.accessRuleGroups := s.tables.db.accessRuleGroups.put (madeGroup groupID entry) }

/-- The rule's id is free, and there is no row that gives it the group. -/
def Free (s : Store) (groupID : String) (entry : Entry) : Prop :=
  s.tables.db.accessRules.get (ruleID groupID entry) = none ∧
    madeGroup groupID entry ∉ s.tables.db.accessRuleGroups.rows

section Made

variable {s s' : Store} {groupID resourceID : String} {entry : Entry} {entries rest : List Entry}

theorem existingRule_of_none (h : linking s groupID resourceID = none) :
    existingRule groupID resourceID (some s) = "" := by
  rw [existingRule_eq, h]
  rfl

theorem existingRule_of_some {ar : AccessRuleRow} (h : linking s groupID resourceID = some ar) :
    existingRule groupID resourceID (some s) = ar.id := by
  rw [existingRule_eq, h]
  rfl

theorem mem_filter_fst :
    resourceID ∈ (entries.filter fun e => e.1 ≠ entry.1).map Prod.fst ↔
      resourceID ≠ entry.1 ∧ resourceID ∈ entries.map Prod.fst := by
  simp only [List.mem_map, List.mem_filter, decide_eq_true_eq]
  constructor
  · rintro ⟨e, ⟨he, hne⟩, rfl⟩
    exact ⟨hne, e, he, rfl⟩
  · rintro ⟨hne, e, he, rfl⟩
    exact ⟨e, ⟨he, hne⟩, rfl⟩

/-- A rule is made for a resource iff it is listed and the handler finds no rule. -/
theorem mem_made_fst :
    resourceID ∈ (made s groupID entries).map Prod.fst ↔
      resourceID ∈ entries.map Prod.fst ∧ existingRule groupID resourceID (some s) = "" := by
  induction entries with
  | nil => simp [made]
  | cons entry rest ih =>
      rw [List.map_cons, List.mem_cons, made]
      cases hlinking : linking s groupID entry.1 with
      | none =>
          rw [List.map_cons, List.mem_cons, mem_filter_fst, ih]
          by_cases heq : resourceID = entry.1
          · simp [heq, existingRule_of_none hlinking]
          · simp [heq]
      | some ar =>
          have hexisting := existingRule_of_some hlinking
          by_cases hid : ar.id = ""
          · simp only [hid, if_true]
            rw [List.map_cons, List.mem_cons, ih]
            constructor
            · rintro (rfl | ⟨hmem, hseen⟩)
              · exact ⟨Or.inl rfl, hexisting.trans hid⟩
              · exact ⟨Or.inr hmem, hseen⟩
            · rintro ⟨rfl | hmem, hseen⟩
              · exact Or.inl rfl
              · exact Or.inr ⟨hmem, hseen⟩
          · simp only [hid, if_false]
            rw [ih]
            constructor
            · rintro ⟨hmem, hseen⟩
              exact ⟨Or.inr hmem, hseen⟩
            · rintro ⟨rfl | hmem, hseen⟩
              · exact absurd (hexisting.symm.trans hseen) hid
              · exact ⟨hmem, hseen⟩

theorem made_subset : ∀ e ∈ made s groupID entries, e ∈ entries := by
  induction entries with
  | nil => simp [made]
  | cons entry rest ih =>
      rw [made]
      split
      · intro e he
        rcases List.mem_cons.mp he with rfl | he
        · exact List.mem_cons_self
        · exact List.mem_cons_of_mem _ (ih e (List.mem_filter.mp he).1)
      · split
        · exact fun e he => (List.mem_cons.mp he).elim (fun h => h ▸ List.mem_cons_self)
            fun he => List.mem_cons_of_mem _ (ih e he)
        · exact fun e he => List.mem_cons_of_mem _ (ih e he)

/-- Once its rule is made, the resource has one. -/
theorem linking_link (hfree : Free s groupID entry) :
    linking (link groupID s entry) groupID resourceID =
      (linking s groupID resourceID).or
        (if entry.1 = resourceID then some (madeRule groupID entry) else none) := by
  have hrows : (link groupID s entry).tables.db.accessRules.rows =
      s.tables.db.accessRules.rows ++ [madeRule groupID entry] := Table.rows_put_of_free hfree.1
  have hgroups : ∀ arg, arg ∈ (link groupID s entry).tables.db.accessRuleGroups.rows ↔
      arg = madeGroup groupID entry ∨ arg ∈ s.tables.db.accessRuleGroups.rows :=
    fun _ => Table.mem_rows_put_id
  unfold linking
  rw [hrows, List.find?_append]
  congr 1
  · -- the rules there were before have the groups they had
    refine List.find?_congr fun ar har => ?_
    have hid : ar.id ≠ ruleID groupID entry := Table.get_eq_none.mp hfree.1 ar har
    have hother : (⟨ar.id, groupID⟩ : AccessRuleGroupRow) ≠ madeGroup groupID entry :=
      fun heq => hid (congrArg AccessRuleGroupRow.ruleId heq)
    simp only [hgroups, hother, false_or]
  · have hgroup : (⟨(madeRule groupID entry).id, groupID⟩ : AccessRuleGroupRow) ∈
        (link groupID s entry).tables.db.accessRuleGroups.rows := (hgroups _).mpr (Or.inl rfl)
    rw [List.find?_singleton]
    simp only [hgroup, and_true, decide_eq_true_eq]
    rfl

theorem made_link_of_none (hfree : Free s groupID entry)
    (hnone : linking s groupID entry.1 = none) :
    made (link groupID s entry) groupID rest =
      (made s groupID rest).filter fun e => e.1 ≠ entry.1 := by
  induction rest with
  | nil => rfl
  | cons next rest ih =>
      rw [made, made, linking_link hfree]
      by_cases heq : entry.1 = next.1
      · have hid : (madeRule groupID entry).id ≠ "" := ruleID_ne_empty groupID entry
        rw [← heq, hnone, if_pos rfl]
        simp only [Option.none_or, hid, if_false, ih]
        rw [List.filter_cons_of_neg (by simp [heq]), List.filter_filter]
        simp
      · rw [if_neg heq, Option.or_none]
        have hcons : ∀ es : List Entry, ((next :: es).filter fun e => e.1 ≠ entry.1) =
            next :: es.filter fun e => e.1 ≠ entry.1 := by
          intro es
          exact List.filter_cons_of_pos (decide_eq_true (Ne.symm heq))
        cases hlinking : linking s groupID next.1 with
        | none =>
            simp only
            rw [hcons, ih, List.filter_filter, List.filter_filter]
            simp only [Bool.and_comm]
        | some ar =>
            by_cases hid : ar.id = ""
            · simp only [hid, if_true]
              rw [hcons, ih]
            · simp only [hid, if_false, ih]

theorem made_link_of_some (hfree : Free s groupID entry) {ar : AccessRuleRow}
    (hsome : linking s groupID entry.1 = some ar) :
    made (link groupID s entry) groupID rest = made s groupID rest := by
  have hsame : ∀ resourceID, linking (link groupID s entry) groupID resourceID =
      linking s groupID resourceID := by
    intro resourceID
    rw [linking_link hfree]
    by_cases heq : entry.1 = resourceID
    · rw [← heq, hsome, Option.some_or]
    · rw [if_neg heq, Option.or_none]
  induction rest with
  | nil => rfl
  | cons next rest ih => rw [made, made, hsame, ih]

end Made

/-! ## The transaction -/

/-- The rules can be inserted one after the other. -/
def Insertable (s : Store) (groupID : String) (entries : List Entry) : Prop :=
  (entries.map (ruleID groupID)).Nodup ∧ ∀ e ∈ entries, Free s groupID e

section Transaction

variable {refuses : Nat → Bool} {n : Nat} {s s' : Store} {groupID : String} {entry e : Entry}
  {entries : List Entry}

theorem madeGroup_inj : madeGroup groupID e = madeGroup groupID entry ↔
    ruleID groupID e = ruleID groupID entry := by
  simp [madeGroup]

theorem mem_ruleGroups_link {arg : AccessRuleGroupRow} :
    arg ∈ (link groupID s entry).tables.db.accessRuleGroups.rows ↔
      arg = madeGroup groupID entry ∨ arg ∈ s.tables.db.accessRuleGroups.rows :=
  Table.mem_rows_put_id

theorem free_link :
    Free (link groupID s entry) groupID e ↔
      ruleID groupID e ≠ ruleID groupID entry ∧ Free s groupID e := by
  have hget : (link groupID s entry).tables.db.accessRules.get (ruleID groupID e) =
      if ruleID groupID e = ruleID groupID entry then some (madeRule groupID entry)
      else s.tables.db.accessRules.get (ruleID groupID e) := Table.get_put _ _ _
  rw [Free, Free, hget, mem_ruleGroups_link, madeGroup_inj]
  by_cases heq : ruleID groupID e = ruleID groupID entry <;> simp [heq]

theorem insertable_cons :
    Insertable s groupID (entry :: entries) ↔
      Free s groupID entry ∧ Insertable (link groupID s entry) groupID entries := by
  simp only [Insertable, List.map_cons, List.nodup_cons, List.forall_mem_cons, free_link,
    forall_and, List.mem_map, not_exists, not_and]
  tauto

theorem insert_link :
    (Store.insertRule (madeRule groupID entry) s).bind
        (Store.insertRuleGroup (madeGroup groupID entry)) = some s' ↔
      Free s groupID entry ∧ s' = link groupID s entry := by
  rw [Option.bind_eq_some_iff]
  simp only [OkReplies.insertRule_eq_some, OkReplies.insertRuleGroup_eq_some]
  constructor
  · rintro ⟨t, ⟨hrule, rfl⟩, hgroup, rfl⟩
    exact ⟨⟨hrule, hgroup⟩, rfl⟩
  · rintro ⟨⟨hrule, hgroup⟩, rfl⟩
    exact ⟨_, ⟨hrule, rfl⟩, hgroup, rfl⟩

/-- The two insertions for an entry, in front of what comes after them. -/
theorem commits_link {rest : ErrorReplies.Transaction} :
    (Body.execAll [Store.insertRule (madeRule groupID entry),
        Store.insertRuleGroup (madeGroup groupID entry)] rest).Commits refuses n s s' ↔
      Unrefused refuses n 2 ∧ Free s groupID entry ∧
        rest.Commits refuses (n + 2) (link groupID s entry) s' := by
  have hfold : [Store.insertRule (madeRule groupID entry),
      Store.insertRuleGroup (madeGroup groupID entry)].foldlM (fun s statement => statement s) s =
        (Store.insertRule (madeRule groupID entry) s).bind
          (Store.insertRuleGroup (madeGroup groupID entry)) := by
    simp
  rw [Body.commits_execAll, hfold]
  simp only [insert_link, List.length_cons, List.length_nil, Nat.zero_add, Nat.reduceAdd]
  refine and_congr_right fun _ => ?_
  constructor
  · rintro ⟨t, ⟨hfree, rfl⟩, hrest⟩
    exact ⟨hfree, hrest⟩
  · rintro ⟨hfree, hrest⟩
    exact ⟨_, ⟨hfree, rfl⟩, hrest⟩

/-- A query for each entry, two insertions for each rule that is made, and the commit. -/
theorem commits_addGroupRules :
    (addGroupRules groupID entries).Commits refuses n s s' ↔
      Unrefused refuses n (entries.length + 2 * (made s groupID entries).length + 1) ∧
        Insertable s groupID (made s groupID entries) ∧
        s' = (made s groupID entries).foldl (link groupID) s := by
  induction entries generalizing n s with
  | nil =>
      rw [addGroupRules, Body.Commits, made]
      simp [Insertable]
  | cons entry entries ih =>
      have hread : (addGroupRules groupID (entry :: entries)).Commits refuses n s s' ↔
          refuses n = false ∧
            (if existingRule groupID entry.1 (some s) ≠ "" then addGroupRules groupID entries
              else Body.execAll [Store.insertRule (madeRule groupID entry),
                Store.insertRuleGroup (madeGroup groupID entry)]
                  (addGroupRules groupID entries)).Commits refuses (n + 1) s s' := Iff.rfl
      have hmake : ∀ rest : List Entry,
          (Free s groupID entry → made (link groupID s entry) groupID entries = rest) →
          (refuses n = false ∧ (Body.execAll [Store.insertRule (madeRule groupID entry),
            Store.insertRuleGroup (madeGroup groupID entry)]
              (addGroupRules groupID entries)).Commits refuses (n + 1) s s' ↔
            Unrefused refuses n ((entry :: entries).length + 2 * (entry :: rest).length + 1) ∧
              Insertable s groupID (entry :: rest) ∧
              s' = (entry :: rest).foldl (link groupID) s) := by
        intro rest hrest
        have hcount : (entry :: entries).length + 2 * (entry :: rest).length + 1 =
            1 + (2 + (entries.length + 2 * rest.length + 1)) := by
          rw [List.length_cons, List.length_cons]
          omega
        rw [commits_link, ih, hcount, unrefused_add (k := 1), unrefused_one,
          unrefused_add (k := 2), insertable_cons, List.foldl_cons]
        constructor
        · rintro ⟨hran, hinserted, hfree, hloop, hinsertable, rfl⟩
          rw [hrest hfree] at hloop hinsertable ⊢
          exact ⟨⟨hran, hinserted, hloop⟩, ⟨hfree, hinsertable⟩, rfl⟩
        · rintro ⟨⟨hran, hinserted, hloop⟩, ⟨hfree, hinsertable⟩, rfl⟩
          rw [hrest hfree]
          exact ⟨hran, hinserted, hfree, hloop, hinsertable, rfl⟩
      rw [hread, existingRule_eq, made]
      cases hlinking : linking s groupID entry.1 with
      | none => exact hmake _ fun hfree => made_link_of_none hfree hlinking
      | some ar =>
          rw [Option.map_some, Option.getD_some]
          by_cases hid : ar.id = ""
          · simp only [hid, ne_eq, not_true_eq_false, if_false, if_true]
            exact hmake _ fun hfree => made_link_of_some hfree hlinking
          · have hcount : ∀ k, (entry :: entries).length + k + 1 =
                1 + (entries.length + k + 1) := by
              intro k
              rw [List.length_cons]
              omega
            simp only [hid, ne_eq, not_false_eq_true, if_true, if_false]
            rw [ih, hcount, unrefused_add (k := 1), unrefused_one, and_assoc]

theorem noRollback_addGroupRules : (addGroupRules groupID entries).NoRollback := by
  induction entries with
  | nil => exact Body.noRollback_commit
  | cons entry entries ih =>
      intro found
      dsimp only
      split
      · exact ih
      · exact Body.noRollback_execAll ih _

/-- Nothing is refused after `BEGIN`, and the ids of the rules are free. -/
def GoesThrough (refuses : Nat → Bool) (s : Store) (groupID : String) (entries : List Entry) :
    Prop :=
  Unrefused refuses 2 (entries.length + 2 * (made s groupID entries).length + 4) ∧
    Insertable s groupID (made s groupID entries)

theorem settles_body {o : Option Store} :
    (Body.execAll [Store.elsewhere, Store.elsewhere, Store.elsewhere]
        (addGroupRules groupID entries)).Settles refuses 2 s o ↔
      GoesThrough refuses s groupID entries ∧
          o = some ((made s groupID entries).foldl (link groupID) s) ∨
        ¬ GoesThrough refuses s groupID entries ∧ o = none := by
  refine Body.settles_iff (Body.noRollback_execAll noRollback_addGroupRules _) fun t => ?_
  have hfold : [Store.elsewhere, Store.elsewhere, Store.elsewhere].foldlM
      (fun s statement => statement s) s = some s := rfl
  have hcount : entries.length + 2 * (made s groupID entries).length + 4 =
      3 + (entries.length + 2 * (made s groupID entries).length + 1) := by omega
  rw [Body.commits_execAll, hfold, GoesThrough, hcount, unrefused_add]
  simp only [Option.some.injEq, exists_eq_left', commits_addGroupRules, List.length_cons,
    List.length_nil, Nat.zero_add, Nat.reduceAdd, and_assoc]

theorem run_uiAddResources :
    (uiAddResources groupID (some entries)).run refuses 0 s = (none, s') ↔
      groupID ≠ "" ∧ (entries = [] ∧ s' = s ∨ entries ≠ [] ∧ refuses 1 = false ∧
        (GoesThrough refuses s groupID entries ∧
            s' = (made s groupID entries).foldl (link groupID) s ∨
          ¬ GoesThrough refuses s groupID entries ∧ s' = s)) := by
  rw [uiAddResources, ErrorReplies.required]
  split
  next hempty => simp [ErrorReplies.fail, Script.run, hempty]
  next hne =>
    by_cases hnil : entries = []
    · subst hnil
      rw [if_pos List.length_nil, ErrorReplies.ok, Script.run, Prod.mk.injEq]
      simp [hne, eq_comm (a := s)]
    · rw [if_neg (mt List.length_eq_zero_iff.mp hnil), Script.run, ErrorReplies.ok,
        Script.run_transaction, settles_body, settles_body]
      simp only [Option.some.injEq, reduceCtorEq, and_false, or_false, and_true, false_or]
      tauto

end Transaction

/-! ## Who is let in -/

section Identities

variable {C : Libraries} {db : Database} {refuses : Nat → Bool} {s : Store}
  {groupID resourceID i : String} {entry e : Entry} {entries : List Entry}

/-- A non-empty identity of an active member of the group. -/
def MemberIdentity (C : Libraries) (db : Database) (groupID i : String) : Prop :=
  i ≠ "" ∧ ∃ gm ∈ db.userGroupMembers.rows, gm.groupId = groupID ∧
    ∃ u ∈ db.users.rows, u.id = gm.userId ∧ Active C u ∧ u.certificateIdentity = some i

theorem mem_resourceIdentities_iff_rule :
    i ∈ resourceIdentities C db resourceID ↔
      ∃ ar ∈ db.accessRules.rows, ar.resourceId = resourceID ∧ ar.enabled = 1 ∧
        ∃ arg ∈ db.accessRuleGroups.rows, arg.ruleId = ar.id ∧
          MemberIdentity C db arg.groupId i := by
  rw [mem_resourceIdentities_iff_chain]
  constructor
  · rintro ⟨hne, c, h⟩
    exact ⟨c.rule, h.rule, h.resource, h.enabled, c.ruleGroup, h.ruleGroup, h.ofRule, hne,
      c.member, h.member, h.ofGroup, c.user, h.user, h.ofUser, h.active, h.identity⟩
  · rintro ⟨ar, har, hresource, henabled, arg, harg, hrule, hne, gm, hgm, hgroup, u, hu, huser,
      hactive, hi⟩
    exact ⟨hne, ⟨ar, arg, gm, u⟩,
      ⟨har, harg, hgm, hu, hresource, henabled, hrule, hgroup, huser, hactive, hi⟩⟩

/-- Whom the rule for an entry lets in: the members of the group, and those of the groups that
a former rule with the same id has left behind. -/
def LetsIn (C : Libraries) (s : Store) (groupID : String) (entry : Entry) (i : String) : Prop :=
  MemberIdentity C s.tables.db groupID i ∨
    ∃ arg ∈ s.tables.db.accessRuleGroups.rows, arg.ruleId = ruleID groupID entry ∧
      MemberIdentity C s.tables.db arg.groupId i

theorem mem_resourceIdentities_link (hfree : Free s groupID entry) :
    i ∈ resourceIdentities C (link groupID s entry).tables.db resourceID ↔
      i ∈ resourceIdentities C s.tables.db resourceID ∨
        entry.1 = resourceID ∧ LetsIn C s groupID entry i := by
  have hrules : ∀ ar, ar ∈ (link groupID s entry).tables.db.accessRules.rows ↔
      ar ∈ s.tables.db.accessRules.rows ∨ ar = madeRule groupID entry := by
    intro ar
    rw [link, Table.rows_put_of_free hfree.1, List.mem_append, List.mem_singleton]
  have hmember : ∀ g, MemberIdentity C (link groupID s entry).tables.db g i ↔
      MemberIdentity C s.tables.db g i := fun _ => Iff.rfl
  simp only [mem_resourceIdentities_iff_rule, hrules, mem_ruleGroups_link, hmember]
  constructor
  · rintro ⟨ar, har | rfl, hresource, henabled, arg, rfl | harg, hrule, hi⟩
    · exact absurd hrule.symm (Table.get_eq_none.mp hfree.1 ar har)
    · exact Or.inl ⟨ar, har, hresource, henabled, arg, harg, hrule, hi⟩
    · exact Or.inr ⟨hresource, Or.inl hi⟩
    · exact Or.inr ⟨hresource, Or.inr ⟨arg, harg, hrule, hi⟩⟩
  · rintro (⟨ar, har, hresource, henabled, arg, harg, hrule, hi⟩ |
      ⟨hresource, hi | ⟨arg, harg, hrule, hi⟩⟩)
    · exact ⟨ar, Or.inl har, hresource, henabled, arg, Or.inr harg, hrule, hi⟩
    · exact ⟨_, Or.inr rfl, hresource, rfl, _, Or.inl rfl, rfl, hi⟩
    · exact ⟨_, Or.inr rfl, hresource, rfl, arg, Or.inr harg, hrule, hi⟩

/-- The group of another rule is nobody's business. -/
theorem letsIn_link (hne : ruleID groupID entry ≠ ruleID groupID e) :
    LetsIn C (link groupID s entry) groupID e i ↔ LetsIn C s groupID e i := by
  have hmember : ∀ g, MemberIdentity C (link groupID s entry).tables.db g i ↔
      MemberIdentity C s.tables.db g i := fun _ => Iff.rfl
  simp only [LetsIn, mem_ruleGroups_link, hmember]
  refine or_congr_right ⟨?_, ?_⟩
  · rintro ⟨arg, rfl | harg, hrule, hi⟩
    · exact absurd hrule hne
    · exact ⟨arg, harg, hrule, hi⟩
  · rintro ⟨arg, harg, hrule, hi⟩
    exact ⟨arg, Or.inr harg, hrule, hi⟩

theorem mem_resourceIdentities_foldl (h : Insertable s groupID entries) :
    i ∈ resourceIdentities C (entries.foldl (link groupID) s).tables.db resourceID ↔
      i ∈ resourceIdentities C s.tables.db resourceID ∨
        ∃ e ∈ entries, e.1 = resourceID ∧ LetsIn C s groupID e i := by
  induction entries generalizing s with
  | nil => simp
  | cons entry entries ih =>
      obtain ⟨hfree, hrest⟩ := insertable_cons.mp h
      have hother : ∀ e ∈ entries,
          (LetsIn C (link groupID s entry) groupID e i ↔ LetsIn C s groupID e i) := by
        intro e he
        have hnotMem := (List.nodup_cons.mp h.1).1
        refine letsIn_link fun heq => hnotMem ?_
        rw [heq]
        exact List.mem_map_of_mem he
      have hexists : (∃ e ∈ entries, e.1 = resourceID ∧
          LetsIn C (link groupID s entry) groupID e i) ↔
            ∃ e ∈ entries, e.1 = resourceID ∧ LetsIn C s groupID e i := by
        refine exists_congr fun e => and_congr_right fun he => ?_
        rw [hother e he]
      rw [List.foldl_cons, ih hrest, mem_resourceIdentities_link hfree, hexists, or_assoc]
      simp only [List.mem_cons, or_and_right, exists_or, exists_eq_left]

theorem resources_foldl :
    (entries.foldl (link groupID) s).tables.db.resources = s.tables.db.resources := by
  induction entries generalizing s with
  | nil => rfl
  | cons entry entries ih => exact ih

/-! ## What an ok reply means -/

/-- What is compiled from `s'` lets the group's members into the listed resources, and lets
nobody else into any who was not before. -/
def Admits (C : Libraries) (s s' : Store) (groupID : String) (entries : List Entry) : Prop :=
  ∀ networkID, ∀ p ∈ policyResources C s'.tables.db networkID,
    (p.resourceId ∈ entries.map Prod.fst → ∀ i, MemberIdentity C s.tables.db groupID i →
      i ∈ p.allowedIdentities) ∧
    ∀ i ∈ p.allowedIdentities,
      (∃ old ∈ policyResources C s.tables.db networkID,
        old.resourceId = p.resourceId ∧ i ∈ old.allowedIdentities) ∨
      p.resourceId ∈ entries.map Prod.fst ∧ MemberIdentity C s.tables.db groupID i

/-- If the reply is ok, the group is let in. -/
def GrantsAccess (C : Libraries) (refuses : Nat → Bool) (s : Store) (groupID : String)
    (entries : List Entry) : Prop :=
  ∀ s', (uiAddResources groupID (some entries)).run refuses 0 s = (none, s') →
    Admits C s s' groupID entries

/-- The members of the group are let into the resource already. -/
def Allows (C : Libraries) (s : Store) (groupID resourceID : String) : Prop :=
  ∀ i, MemberIdentity C s.tables.db groupID i → i ∈ resourceIdentities C s.tables.db resourceID

/-- They are wherever a rule has the group. -/
def LinkedAllow (C : Libraries) (s : Store) (groupID : String) (entries : List Entry) : Prop :=
  ∀ row ∈ s.tables.db.resources.rows, row.id ∈ entries.map Prod.fst →
    existingRule groupID row.id (some s) ≠ "" → Allows C s groupID row.id

/-- The rules that are made have been left no groups whose members are not let in anyway. -/
def NobodyElse (C : Libraries) (s : Store) (groupID : String) (entries : List Entry) : Prop :=
  ∀ e ∈ made s groupID entries, s.tables.db.resources.get e.1 ≠ none →
    ∀ arg ∈ s.tables.db.accessRuleGroups.rows, arg.ruleId = ruleID groupID e →
      ∀ i, MemberIdentity C s.tables.db arg.groupId i →
        MemberIdentity C s.tables.db groupID i ∨ i ∈ resourceIdentities C s.tables.db e.1

/-- The same resource by resource. -/
def Granted (C : Libraries) (s s' : Store) (groupID : String) (entries : List Entry) : Prop :=
  ∀ row ∈ s.tables.db.resources.rows,
    (row.id ∈ entries.map Prod.fst → ∀ i, MemberIdentity C s.tables.db groupID i →
      i ∈ resourceIdentities C s'.tables.db row.id) ∧
    ∀ i ∈ resourceIdentities C s'.tables.db row.id,
      i ∈ resourceIdentities C s.tables.db row.id ∨
        row.id ∈ entries.map Prod.fst ∧ MemberIdentity C s.tables.db groupID i

theorem admits_iff {s' : Store} (hresources : s'.tables.db.resources = s.tables.db.resources) :
    Admits C s s' groupID entries ↔ Granted C s s' groupID entries := by
  have hold : ∀ row ∈ s.tables.db.resources.rows, ∀ i,
      ((∃ old ∈ policyResources C s.tables.db row.remoteNetworkId,
          old.resourceId = row.id ∧ i ∈ old.allowedIdentities) ↔
        i ∈ resourceIdentities C s.tables.db row.id) := by
    intro row hrow i
    constructor
    · rintro ⟨old, hold, hid, hi⟩
      obtain ⟨row', -, -, rfl⟩ := mem_policyResources.mp hold
      rw [← show row'.id = row.id from hid]
      exact hi
    · intro hi
      exact ⟨_, mem_policyResources.mpr ⟨row, hrow, rfl, rfl⟩, rfl, hi⟩
  constructor
  · intro h row hrow
    have hrow' : row ∈ s'.tables.db.resources.rows := by rwa [hresources]
    obtain ⟨hlisted, hothers⟩ := h row.remoteNetworkId _ (mem_policyResources.mpr
      ⟨row, hrow', rfl, rfl⟩)
    exact ⟨hlisted, fun i hi => (hothers i hi).imp_left (hold row hrow i).mp⟩
  · rintro h networkID p hp
    obtain ⟨row, hrow, rfl, rfl⟩ := mem_policyResources.mp hp
    rw [hresources] at hrow
    obtain ⟨hlisted, hothers⟩ := h row hrow
    exact ⟨hlisted, fun i hi => (hothers i hi).imp_left (hold row hrow i).mpr⟩

theorem admits_unchanged :
    Admits C s s groupID entries ↔
      ∀ row ∈ s.tables.db.resources.rows, row.id ∈ entries.map Prod.fst →
        Allows C s groupID row.id := by
  rw [admits_iff rfl]
  constructor
  · exact fun h row hrow hlisted => (h row hrow).1 hlisted
  · exact fun h row hrow => ⟨h row hrow, fun i hi => Or.inl hi⟩

theorem admits_made (hinsertable : Insertable s groupID (made s groupID entries)) :
    Admits C s ((made s groupID entries).foldl (link groupID) s) groupID entries ↔
      LinkedAllow C s groupID entries ∧ NobodyElse C s groupID entries := by
  rw [admits_iff resources_foldl]
  simp only [Granted, mem_resourceIdentities_foldl hinsertable]
  constructor
  · intro h
    refine ⟨fun row hrow hlisted hlinked i hi => ?_, fun e he hexists arg harg hrule i hi => ?_⟩
    · rcases (h row hrow).1 hlisted i hi with hold | ⟨e, he, heq, -⟩
      · exact hold
      · -- a resource that has a rule is given no other
        have hmade : row.id ∈ (made s groupID entries).map Prod.fst :=
          heq ▸ List.mem_map_of_mem he
        exact absurd (mem_made_fst.mp hmade).2 hlinked
    · obtain ⟨row, hrow⟩ := Option.ne_none_iff_exists'.mp hexists
      obtain ⟨hmem, hid⟩ := Table.get_eq_some.mp hrow
      have hlet := (h row hmem).2 i (Or.inr ⟨e, he, hid.symm, Or.inr ⟨arg, harg, hrule, hi⟩⟩)
      rw [hid] at hlet
      exact hlet.symm.imp_left And.right
  · rintro ⟨hlinked, hnobody⟩ row hrow
    constructor
    · intro hlisted i hi
      by_cases hexisting : existingRule groupID row.id (some s) = ""
      · obtain ⟨e, he, heq⟩ := List.mem_map.mp (mem_made_fst.mpr ⟨hlisted, hexisting⟩)
        exact Or.inr ⟨e, he, heq, Or.inl hi⟩
      · exact Or.inl (hlinked row hrow hlisted hexisting i hi)
    · rintro i (hi | ⟨e, he, heq, hlet⟩)
      · exact Or.inl hi
      · have hlisted : row.id ∈ entries.map Prod.fst :=
          heq ▸ List.mem_map_of_mem (made_subset e he)
        rcases hlet with hi | ⟨arg, harg, hrule, hi⟩
        · exact Or.inr ⟨hlisted, hi⟩
        · have hexists : s.tables.db.resources.get e.1 ≠ none := by
            rw [heq, Table.get_of_mem hrow]
            exact Option.some_ne_none row
          rcases hnobody e he hexists arg harg hrule i hi with hi | hi
          · exact Or.inr ⟨hlisted, hi⟩
          · exact Or.inl (heq ▸ hi)

/-- **When adding resources to a group grants access, and to nobody else.** -/
theorem grantsAccess_iff :
    GrantsAccess C refuses s groupID entries ↔
      groupID = "" ∨ (entries ≠ [] ∧ refuses 1 = true) ∨
      (GoesThrough refuses s groupID entries ∧
        LinkedAllow C s groupID entries ∧ NobodyElse C s groupID entries) ∨
      (¬ GoesThrough refuses s groupID entries ∧
        ∀ row ∈ s.tables.db.resources.rows, row.id ∈ entries.map Prod.fst →
          Allows C s groupID row.id) := by
  unfold GrantsAccess
  simp only [run_uiAddResources]
  by_cases hne : groupID = ""
  · simp [hne]
  by_cases hnil : entries = []
  · subst hnil
    simp [hne, LinkedAllow, NobodyElse, made, admits_unchanged, em]
  cases hbegin : refuses 1 with
  | true => simp [hnil]
  | false =>
      by_cases hthrough : GoesThrough refuses s groupID entries
      · simp [hne, hnil, hthrough, admits_made hthrough.2]
      · simp [hne, hnil, hthrough, admits_unchanged]

end Identities

/-- An active member of a group whose only rule was created disabled. -/
def disabledRule : Store where
  tables :=
    { db :=
        { connectors := ∅, remoteNetworkConnectors := ∅, connectorPolicyVersions := ∅
          resources := Table.single ⟨"res_1", "dns", "wiki.internal", "TCP", none, none, "net_1",
            "unprotected"⟩
          accessRules := Table.single ⟨"rule_1", "res_1", 0⟩
          accessRuleGroups := Table.single ⟨"rule_1", "grp_1"⟩
          userGroupMembers := Table.single ⟨"usr_1", "grp_1"⟩
          users := Table.single ⟨"usr_1", "Active", some "identity-1"⟩ }
      userGroups := Table.single ⟨"grp_1", "Engineering", ""⟩, remoteNetworks := ∅ }
  authorizations := ∅
  workspaces := ∅
  members := ∅
  invites := ∅

/-- The resource is added to the group, the reply is ok, and the member is not let in. -/
theorem disabled_rule_admits_nobody :
    ¬ GrantsAccess ampersandController (fun _ => false) disabledRule "grp_1" [("res_1", 0)] := by
  intro h
  have hmember : MemberIdentity ampersandController disabledRule.tables.db "grp_1" "identity-1" :=
    ⟨by decide, _, List.mem_cons_self, rfl, _, List.mem_cons_self, rfl,
      show ampersandController.sqlLower (sqlTrim "Active") = "active" by decide, rfl⟩
  have hlet := (h disabledRule rfl "net_1" _ (mem_policyResources.mpr
    ⟨_, List.mem_cons_self, rfl, rfl⟩)).1 (by decide) _ hmember
  obtain ⟨ar, har, -, henabled, -⟩ := mem_resourceIdentities_iff_rule.mp hlet
  rw [List.mem_singleton.mp har] at henabled
  exact absurd henabled (by decide)

end ZeroTrust.Admin.GroupResources
