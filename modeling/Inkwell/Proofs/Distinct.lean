import Mathlib.Data.List.Perm.Subperm
set_option autoImplicit false

/-! The distinct members of a list, in the order of their first occurrence. -/

namespace Inkwell

section

variable {κ : Type} [BEq κ] [LawfulBEq κ]

theorem nodup_eraseDups : ∀ us : List κ, us.eraseDups.Nodup
  | [] => List.nodup_nil
  | u :: us => by
    rw [List.eraseDups_cons, List.nodup_cons, List.mem_eraseDups]
    exact ⟨by simp, nodup_eraseDups _⟩
termination_by us => us.length
decreasing_by exact Nat.lt_succ_of_le (List.length_filter_le _ _)

theorem nodup_of_length_eraseDups {us : List κ} (h : us.eraseDups.length = us.length) :
    us.Nodup := by
  have hsub : us.eraseDups ⊆ us := fun _ => List.mem_eraseDups.mp
  have hsubperm : us.eraseDups.Subperm us := (nodup_eraseDups us).subperm hsub
  have hperm : us.eraseDups.Perm us := hsubperm.perm_of_length_le (Nat.le_of_eq h.symm)
  exact hperm.nodup_iff.mp (nodup_eraseDups us)

end

section

variable {κ : Type} [DecidableEq κ] {k : κ} {us : List κ}

theorem eraseDups_filter (p : κ → Bool) : ∀ us : List κ,
    (us.filter p).eraseDups = us.eraseDups.filter p
  | [] => rfl
  | u :: us => by
    have ih := eraseDups_filter p (us.filter fun v => !v == u)
    rw [List.filter_filter] at ih
    rw [List.eraseDups_cons]
    cases hu : p u with
    | true =>
      rw [List.filter_cons_of_pos hu, List.filter_cons_of_pos hu, List.eraseDups_cons, ← ih,
        List.filter_filter]
      simp only [Bool.and_comm]
    | false =>
      rw [List.filter_cons_of_neg (by simp [hu]), List.filter_cons_of_neg (by simp [hu]), ← ih]
      congr 1
      refine List.filter_congr fun v _ => ?_
      by_cases hv : v = u
      · rw [hv, hu]
        rfl
      · simp [hv]
termination_by us => us.length
decreasing_by exact Nat.lt_succ_of_le (List.length_filter_le _ _)

theorem eraseDups_cons_filter (k : κ) (us : List κ) :
    (k :: us).eraseDups = k :: us.eraseDups.filter (· ≠ k) := by
  rw [List.eraseDups_cons, eraseDups_filter]
  congr 2
  funext v
  by_cases hv : v = k <;> simp [hv]

theorem filter_of_new (h : k ∉ us) : us.filter (· ≠ k) = us :=
  List.filter_eq_self.mpr fun _ hv => decide_eq_true fun hvk => h (hvk ▸ hv)

theorem eraseDups_append (us vs : List κ) :
    (us ++ vs).eraseDups = us.eraseDups ++ vs.eraseDups.filter (· ∉ us) := by
  rw [List.eraseDups_append]
  unfold List.removeAll
  rw [eraseDups_filter]
  simp

end

end Inkwell
