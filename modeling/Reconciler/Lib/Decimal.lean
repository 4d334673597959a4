import Mathlib

/-!
# Decimal fields joined by a separator

A format such as `"%d.%d.%d"` joins the decimal forms of natural numbers by a character that no
decimal form holds.  Such a text reads back field by field: what stands before the first
separator is the first field.  So the rendering is injective, and two texts compare equal
exactly when their fields do.
-/

namespace Decimal

section Separated

variable {α : Type*} {sep : α}

/-- Two lists that put a separator behind a part free of it agree exactly when the parts and the
rests do. -/
theorem append_cons_inj {a b c d : List α} (ha : sep ∉ a) (hc : sep ∉ c) :
    a ++ sep :: b = c ++ sep :: d ↔ a = c ∧ b = d := by
  constructor
  · intro h
    -- the parts are read off from the front, up to the first separator
    induction a generalizing c with
    | nil =>
      cases c with
      | nil => simpa using h
      | cons y c => exact absurd (List.cons.inj h).1 (List.ne_of_not_mem_cons hc)
    | cons x a ih =>
      cases c with
      | nil => exact absurd (List.cons.inj h).1.symm (List.ne_of_not_mem_cons ha)
      | cons y c =>
        obtain ⟨rfl, htail⟩ := List.cons.inj h
        obtain ⟨rfl, rfl⟩ := ih (List.not_mem_of_not_mem_cons ha) (List.not_mem_of_not_mem_cons hc) htail
        exact ⟨rfl, rfl⟩
  · rintro ⟨rfl, rfl⟩
    rfl

end Separated

/-- No decimal form holds a character that is not a digit. -/
theorem not_mem_repr {c : Char} (hc : c.isDigit = false) (n : Nat) : c ∉ (toString n).toList := by
  intro h
  have hdigit : c.isDigit = true :=
    Nat.isDigit_of_mem_toDigits (by decide) (by decide) (Nat.toList_repr ▸ h)
  simp [hc] at hdigit

/-- Three numbers written in decimal and joined by dots read back as the three numbers. -/
theorem dotted_inj {a b c a' b' c' : Nat} :
    toString a ++ "." ++ toString b ++ "." ++ toString c =
        toString a' ++ "." ++ toString b' ++ "." ++ toString c' ↔
      a = a' ∧ b = b' ∧ c = c' := by
  have hdot : '.'.isDigit = false := by decide
  have hlist : ∀ x y z : Nat, (toString x ++ "." ++ toString y ++ "." ++ toString z).toList =
      (toString x).toList ++ '.' :: ((toString y).toList ++ '.' :: (toString z).toList) := by
    intro x y z
    simp [String.toList_append]
  rw [← String.toList_inj, hlist, hlist, append_cons_inj (not_mem_repr hdot a) (not_mem_repr hdot a'),
    append_cons_inj (not_mem_repr hdot b) (not_mem_repr hdot b')]
  simp only [String.toList_inj]
  constructor
  · rintro ⟨ha, hb, hc⟩
    exact ⟨Nat.repr_inj.1 ha, Nat.repr_inj.1 hb, Nat.repr_inj.1 hc⟩
  · rintro ⟨rfl, rfl, rfl⟩
    exact ⟨rfl, rfl, rfl⟩

end Decimal
