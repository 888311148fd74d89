/-
# `ZeroTrust.Lib.FirstMatch` — rule lists read from the top

A list of rules decides about an input by the first rule that applies to it, and by
a default if none does.

    all applicable rules agree          (`firstMatch_of_agree`)
    rules that do not apply are skipped  (`firstMatch_append_of_none`)
    a list made of blocks                (`firstMatch_flatMap`)
-/
import Mathlib.Data.List.Basic
import Mathlib.Tactic.Common

namespace ZeroTrust.Lib

section FirstMatch

variable {ρ π α : Type} (applies : ρ → π → Bool) (act : ρ → α) (otherwise : α)

def firstMatch (rules : List ρ) (p : π) : α :=
  ((rules.find? fun r => applies r p).map act).getD otherwise

variable {applies act otherwise} {rules rules' : List ρ} {p : π} {a : α}

theorem firstMatch_of_none (h : ∀ r ∈ rules, applies r p = false) :
    firstMatch applies act otherwise rules p = otherwise := by
  have hfind : rules.find? (fun r => applies r p) = none := by
    rw [List.find?_eq_none]
    intro r hr
    rw [h r hr]
    exact Bool.false_ne_true
  simp [firstMatch, hfind]

theorem firstMatch_of_agree (hex : ∃ r ∈ rules, applies r p = true)
    (h : ∀ r ∈ rules, applies r p = true → act r = a) :
    firstMatch applies act otherwise rules p = a := by
  obtain ⟨r, hr⟩ := Option.isSome_iff_exists.mp (List.find?_isSome.mpr hex)
  have hact : act r = a := h r (List.mem_of_find?_eq_some hr) (by simpa using List.find?_some hr)
  simp [firstMatch, hr, hact]

theorem firstMatch_append_of_none (h : ∀ r ∈ rules, applies r p = false) :
    firstMatch applies act otherwise (rules ++ rules') p =
      firstMatch applies act otherwise rules' p := by
  have hfind : rules.find? (fun r => applies r p) = none := by
    rw [List.find?_eq_none]
    intro r hr
    rw [h r hr]
    exact Bool.false_ne_true
  simp [firstMatch, List.find?_append, hfind]

theorem firstMatch_append_of_some (hex : ∃ r ∈ rules, applies r p = true) :
    firstMatch applies act otherwise (rules ++ rules') p =
      firstMatch applies act otherwise rules p := by
  obtain ⟨r, hr⟩ := Option.isSome_iff_exists.mp (List.find?_isSome.mpr hex)
  simp [firstMatch, List.find?_append, hr]

/-- A list of blocks, each of which either decides `a` or does not apply. -/
theorem firstMatch_flatMap {β : Type} {f : β → List ρ} {live : β → Prop} :
    ∀ {blocks : List β},
      (∀ x ∈ blocks, live x → (∃ r ∈ f x, applies r p = true) ∧
        firstMatch applies act otherwise (f x) p = a) →
      (∀ x ∈ blocks, ¬ live x → ∀ r ∈ f x, applies r p = false) →
      ((∃ x ∈ blocks, live x) → firstMatch applies act otherwise (blocks.flatMap f) p = a) ∧
      ((∀ x ∈ blocks, ¬ live x) →
        firstMatch applies act otherwise (blocks.flatMap f) p = otherwise)
  | [], _, _ => ⟨fun ⟨_, hx, _⟩ => absurd hx List.not_mem_nil, fun _ => rfl⟩
  | x :: blocks, hlive, hdead => by
      rw [List.forall_mem_cons] at hlive hdead
      obtain ⟨hrestLive, hrestDead⟩ := firstMatch_flatMap hlive.2 hdead.2
      rw [List.flatMap_cons]
      by_cases hx : live x
      · obtain ⟨hex, ha⟩ := hlive.1 hx
        rw [firstMatch_append_of_some hex]
        exact ⟨fun _ => ha, fun hnone => absurd hx (hnone x List.mem_cons_self)⟩
      · rw [firstMatch_append_of_none (hdead.1 hx)]
        refine ⟨?_, fun hnone => hrestDead fun y hy => hnone y (List.mem_cons_of_mem _ hy)⟩
        rintro ⟨y, hy, hylive⟩
        rcases List.mem_cons.mp hy with rfl | hy
        · exact absurd hylive hx
        · exact hrestLive ⟨y, hy, hylive⟩

end FirstMatch

end ZeroTrust.Lib
