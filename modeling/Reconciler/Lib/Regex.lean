import Mathlib.Logic.Relation
import Mathlib.Data.List.Infix

/-!
# Regular expressions with character classes and an end anchor

A regular expression over an alphabet `α` whose atoms are classes of characters, given as
predicates, together with `$`, which matches the empty string at the end of the text only.

`Consumes r s t` says that `r` matches a prefix of `s` and that `t` follows the match:
concatenation is the composition of relations and the Kleene star their reflexive transitive
closure.  `accepts` is the matcher by Brzozowski derivatives; because of the end anchor,
whether a regular expression matches the empty string depends on whether the text has ended,
and `nullable` takes that as an argument.  `accepts_iff` shows that the matcher decides
`Consumes r s []`, and `accepts_search_iff` that `search r` finds a match of `r` anywhere in
the text, which is what an unanchored match function reports.
-/

/-- A regular expression over `α`. -/
inductive Regex (α : Type*)
  /-- matches nothing -/
  | none
  /-- the empty string -/
  | empty
  /-- one character of the class `p` -/
  | atom (p : α → Bool)
  /-- `$`: the empty string at the end of the text -/
  | endText
  | seq (r s : Regex α)
  | alt (r s : Regex α)
  | star (r : Regex α)

namespace Regex

open Relation

variable {α : Type*}

/-! ## Derived forms -/

/-- `r?` -/
def opt (r : Regex α) : Regex α := alt r empty

/-- `r+` -/
def plus (r : Regex α) : Regex α := seq r (star r)

/-- `.` in a character class that excludes nothing. -/
def any : Regex α := atom (fun _ => true)

/-- The concatenation of a list of regular expressions. -/
def seqs (rs : List (Regex α)) : Regex α := rs.foldr seq empty

/-- The character `a` itself. -/
def char [DecidableEq α] (a : α) : Regex α := atom (fun b => decide (b = a))

/-- The string `w` itself. -/
def word [DecidableEq α] (w : List α) : Regex α := seqs (w.map char)

/-- Unanchored matching: a match of `r` anywhere in the text. -/
def search (r : Regex α) : Regex α := seq (star any) (seq r (star any))

/-! ## Meaning -/

/-- `Consumes r s t`: `r` matches a prefix of `s`, and `t` follows the match. -/
def Consumes : Regex α → List α → List α → Prop
  | none, _, _ => False
  | empty, s, t => s = t
  | atom p, s, t => ∃ a, s = a :: t ∧ p a = true
  | endText, s, t => s = t ∧ t = []
  | seq r₁ r₂, s, t => Comp (Consumes r₁) (Consumes r₂) s t
  | alt r₁ r₂, s, t => Consumes r₁ s t ∨ Consumes r₂ s t
  | star r, s, t => ReflTransGen (Consumes r) s t

section Consumes

variable {r r₁ r₂ : Regex α} {s t : List α}

@[simp] theorem consumes_none : Consumes none s t ↔ False := Iff.rfl

@[simp] theorem consumes_empty : Consumes empty s t ↔ s = t := Iff.rfl

@[simp] theorem consumes_atom {p : α → Bool} :
    Consumes (atom p) s t ↔ ∃ a, s = a :: t ∧ p a = true := Iff.rfl

@[simp] theorem consumes_endText : Consumes endText s t ↔ s = t ∧ t = [] := Iff.rfl

@[simp] theorem consumes_seq :
    Consumes (seq r₁ r₂) s t ↔ ∃ m, Consumes r₁ s m ∧ Consumes r₂ m t := Iff.rfl

@[simp] theorem consumes_alt : Consumes (alt r₁ r₂) s t ↔ Consumes r₁ s t ∨ Consumes r₂ s t :=
  Iff.rfl

@[simp] theorem consumes_star : Consumes (star r) s t ↔ ReflTransGen (Consumes r) s t := Iff.rfl

/-- A match reads a prefix: what follows it is a suffix of the text. -/
theorem Consumes.suffix (h : Consumes r s t) : t <:+ s := by
  induction r generalizing s t with
  | none => exact h.elim
  | empty => exact h ▸ List.suffix_refl t
  | atom p =>
    obtain ⟨a, rfl, -⟩ := h
    exact List.suffix_cons a t
  | endText => exact h.1 ▸ List.suffix_refl t
  | seq r₁ r₂ ih₁ ih₂ =>
    obtain ⟨m, h₁, h₂⟩ := h
    exact (ih₂ h₂).trans (ih₁ h₁)
  | alt r₁ r₂ ih₁ ih₂ => exact h.elim ih₁ ih₂
  | star r ih =>
    have hstar := consumes_star.1 h
    clear h
    induction hstar with
    | refl => exact List.suffix_refl s
    | tail _ hstep hsuffix => exact (ih hstep).trans hsuffix

/-- Two matches that lead from `s` back to `s` read nothing. -/
theorem Consumes.eq_of_consumes {m : List α} (h₁ : Consumes r₁ s m) (h₂ : Consumes r₂ m s) :
    m = s :=
  h₁.suffix.eq_of_length (le_antisymm h₁.suffix.length_le h₂.suffix.length_le)

theorem consumes_opt : Consumes (opt r) s t ↔ Consumes r s t ∨ s = t := Iff.rfl

theorem consumes_plus :
    Consumes (plus r) s t ↔ ∃ m, Consumes r s m ∧ ReflTransGen (Consumes r) m t := Iff.rfl

theorem consumes_seqs_cons {rs : List (Regex α)} :
    Consumes (seqs (r :: rs)) s t ↔ ∃ m, Consumes r s m ∧ Consumes (seqs rs) m t := Iff.rfl

/-- A match of a concatenation is a match of each part, one after the other. -/
theorem consumes_seqs_append {rs₁ rs₂ : List (Regex α)} :
    Consumes (seqs (rs₁ ++ rs₂)) s t ↔
      ∃ m, Consumes (seqs rs₁) s m ∧ Consumes (seqs rs₂) m t := by
  induction rs₁ generalizing s with
  | nil => simp [seqs]
  | cons r rs₁ ih =>
    simp only [List.cons_append, consumes_seqs_cons, ih]
    constructor
    · rintro ⟨m₁, h₁, m, h₂, h₃⟩
      exact ⟨m, ⟨m₁, h₁, h₂⟩, h₃⟩
    · rintro ⟨m, ⟨m₁, h₁, h₂⟩, h₃⟩
      exact ⟨m₁, h₁, m, h₂, h₃⟩

theorem consumes_char [DecidableEq α] {a : α} : Consumes (char a) s t ↔ s = a :: t := by
  simp [char]

end Consumes

/-! ## Building a match piece by piece -/

/-- `r` reads exactly `u`, whatever follows it. -/
def Reads (r : Regex α) (u : List α) : Prop :=
  ∀ t, Consumes r (u ++ t) t

section Reads

variable {r r₁ r₂ : Regex α} {u u₁ u₂ : List α} {rs : List (Regex α)}

theorem Reads.of_eq (hu : u₁ = u₂) (h : Reads r u₁) : Reads r u₂ := hu ▸ h

theorem reads_empty : Reads (empty : Regex α) [] := fun _ => rfl

theorem reads_atom {p : α → Bool} {a : α} (hp : p a = true) : Reads (atom p) [a] :=
  fun _ => ⟨a, rfl, hp⟩

theorem reads_char [DecidableEq α] (a : α) : Reads (char a) [a] :=
  reads_atom (decide_eq_true rfl)

theorem Reads.seq (h₁ : Reads r₁ u₁) (h₂ : Reads r₂ u₂) : Reads (seq r₁ r₂) (u₁ ++ u₂) := by
  intro t
  refine ⟨u₂ ++ t, ?_, h₂ t⟩
  simpa only [List.append_assoc] using h₁ (u₂ ++ t)

theorem Reads.opt (h : Reads r u) : Reads (opt r) u := fun t => .inl (h t)

theorem reads_opt_nil : Reads (opt r) [] := fun _ => .inr rfl

theorem reads_star_nil : Reads (star r) [] := fun _ => ReflTransGen.refl

/-- One more round of a star, in front of the others. -/
theorem Reads.star_append (h : Reads r u₁) (hs : Reads (star r) u₂) :
    Reads (star r) (u₁ ++ u₂) := by
  intro t
  have hstep : Consumes r (u₁ ++ u₂ ++ t) (u₂ ++ t) := by
    simpa only [List.append_assoc] using h (u₂ ++ t)
  exact .head hstep (hs t)

theorem Reads.to_star (h : Reads r u) : Reads (star r) u := by
  simpa using h.star_append reads_star_nil

theorem Reads.plus (h : Reads r u₁) (hs : Reads (star r) u₂) : Reads (plus r) (u₁ ++ u₂) :=
  h.seq hs

theorem Reads.seqs_cons (h : Reads r u₁) (hs : Reads (seqs rs) u₂) :
    Reads (seqs (r :: rs)) (u₁ ++ u₂) :=
  h.seq hs

theorem reads_seqs_nil : Reads (seqs ([] : List (Regex α))) [] := reads_empty

/-- A starred class reads any string of its characters. -/
theorem reads_star_atom {p : α → Bool} (hu : ∀ a ∈ u, p a = true) : Reads (star (atom p)) u := by
  induction u with
  | nil => exact reads_star_nil
  | cons a u ih =>
    exact (reads_atom (hu a List.mem_cons_self)).star_append
      (ih fun b hb => hu b (List.mem_cons_of_mem a hb))

/-- A class with `+` reads any nonempty string of its characters. -/
theorem reads_plus_atom {p : α → Bool} {a : α} (hu : ∀ b ∈ a :: u, p b = true) :
    Reads (plus (atom p)) (a :: u) :=
  (reads_atom (hu a List.mem_cons_self)).plus
    (reads_star_atom fun b hb => hu b (List.mem_cons_of_mem a hb))

/-- A literal string reads itself. -/
theorem reads_word [DecidableEq α] (w : List α) : Reads (word w) w := by
  induction w with
  | nil => exact reads_seqs_nil
  | cons a w ih => exact (reads_char a).seqs_cons ih

/-- A concatenation that ends in `$` matches the whole text that the rest reads. -/
theorem Reads.endText (h : Reads (seqs rs) u) : Consumes (seqs (rs ++ [endText])) u [] := by
  refine consumes_seqs_append.2 ⟨[], ?_, [], ⟨rfl, rfl⟩, rfl⟩
  simpa using h []

end Reads

/-- `.*` over any alphabet reads exactly the prefixes. -/
theorem consumes_star_any {s t : List α} : Consumes (star any) s t ↔ t <:+ s := by
  constructor
  · exact Consumes.suffix
  · rintro ⟨u, rfl⟩
    exact reads_star_atom (fun _ _ => rfl) t


/-! ## The derivative matcher -/

/-- Whether `r` matches the empty string, at the end of the text or before a character. -/
def nullable (atEnd : Bool) : Regex α → Bool
  | none => false
  | empty => true
  | atom _ => false
  | endText => atEnd
  | seq r₁ r₂ => nullable atEnd r₁ && nullable atEnd r₂
  | alt r₁ r₂ => nullable atEnd r₁ || nullable atEnd r₂
  | star _ => true

/-- The derivative: what is left of `r` to match after the character `a`. -/
def deriv (a : α) : Regex α → Regex α
  | none => none
  | empty => none
  | atom p => if p a then empty else none
  | endText => none
  | seq r₁ r₂ =>
    -- either `r₁` reads `a`, or it matches the empty string before `a` and `r₂` reads it
    if nullable false r₁ then alt (seq (deriv a r₁) r₂) (deriv a r₂) else seq (deriv a r₁) r₂
  | alt r₁ r₂ => alt (deriv a r₁) (deriv a r₂)
  | star r => seq (deriv a r) (star r)

/-- Whether `r` matches the whole text. -/
def accepts (r : Regex α) : List α → Bool
  | [] => nullable true r
  | a :: s => accepts (deriv a r) s

variable {r : Regex α} {s t : List α} {a : α}

/-- `nullable` decides the empty matches, at the end of the text and before it. -/
theorem consumes_self_iff (r : Regex α) (s : List α) :
    Consumes r s s ↔ nullable s.isEmpty r = true := by
  induction r with
  | none => simp [nullable]
  | empty => simp [nullable]
  | atom p => simp [nullable, (List.cons_ne_self _ s).symm]
  | endText => simp [nullable]
  | seq r₁ r₂ ih₁ ih₂ =>
    simp only [consumes_seq, nullable, Bool.and_eq_true, ← ih₁, ← ih₂]
    constructor
    · rintro ⟨m, h₁, h₂⟩
      obtain rfl := h₁.eq_of_consumes h₂
      exact ⟨h₁, h₂⟩
    · rintro ⟨h₁, h₂⟩
      exact ⟨s, h₁, h₂⟩
  | alt r₁ r₂ ih₁ ih₂ => simp [nullable, ih₁, ih₂]
  | star r => simpa [nullable] using ReflTransGen.refl

theorem ne_cons_of_suffix (ht : t <:+ s) : t ≠ a :: s := by
  rintro rfl
  exact absurd ht.length_le (by simp)

/-- A starred match that reads `a` first reads it in its first nonempty step. -/
theorem star_cons (h : ReflTransGen (Consumes r) (a :: s) t) (ht : t <:+ s) :
    ∃ m, m <:+ s ∧ Consumes r (a :: s) m ∧ ReflTransGen (Consumes r) m t := by
  generalize hx : a :: s = x at h
  induction h using ReflTransGen.head_induction_on generalizing s with
  | refl => exact absurd hx.symm (ne_cons_of_suffix ht)
  | head hstep hrest ih =>
    subst hx
    rcases List.suffix_cons_iff.1 hstep.suffix with rfl | hm
    -- a step that reads nothing is skipped
    · exact ih ht rfl
    · exact ⟨_, hm, hstep, hrest⟩

/-- The derivative by `a` matches what `r` matches after `a`. -/
theorem consumes_deriv (ht : t <:+ s) : Consumes (deriv a r) s t ↔ Consumes r (a :: s) t := by
  induction r generalizing s t with
  | none => simp [deriv]
  | empty => simp [deriv, (ne_cons_of_suffix ht).symm]
  | atom p => by_cases hp : p a <;> simp [deriv, hp]
  | endText => simp [deriv, (ne_cons_of_suffix ht).symm]
  | seq r₁ r₂ ih₁ ih₂ =>
    -- the first part either matches the empty string before `a`, or reads `a`
    have hsplit : Consumes (seq r₁ r₂) (a :: s) t ↔
        (nullable false r₁ = true ∧ Consumes (deriv a r₂) s t) ∨
          Consumes (seq (deriv a r₁) r₂) s t := by
      constructor
      · rintro ⟨m, h₁, h₂⟩
        rcases List.suffix_cons_iff.1 h₁.suffix with rfl | hm
        · exact .inl ⟨(consumes_self_iff r₁ _).1 h₁, (ih₂ ht).2 h₂⟩
        · exact .inr ⟨m, (ih₁ hm).2 h₁, h₂⟩
      · rintro (⟨hn, h₂⟩ | ⟨m, h₁, h₂⟩)
        · exact ⟨a :: s, (consumes_self_iff r₁ _).2 hn, (ih₂ ht).1 h₂⟩
        · exact ⟨m, (ih₁ h₁.suffix).1 h₁, h₂⟩
    cases hn : nullable false r₁ <;> simp [deriv, hn, hsplit, or_comm]
  | alt r₁ r₂ ih₁ ih₂ => simp [deriv, ih₁ ht, ih₂ ht]
  | star r ih =>
    constructor
    · rintro ⟨m, h₁, h₂⟩
      exact .head ((ih h₁.suffix).1 h₁) h₂
    · intro h
      obtain ⟨m, hm, h₁, h₂⟩ := star_cons h ht
      exact ⟨m, (ih hm).2 h₁, h₂⟩

/-- The matcher decides whether `r` matches the whole text. -/
theorem accepts_iff (r : Regex α) (s : List α) : accepts r s = true ↔ Consumes r s [] := by
  induction s generalizing r with
  | nil => exact (consumes_self_iff r []).symm
  | cons a s ih => exact (ih (deriv a r)).trans (consumes_deriv List.nil_suffix)

/-- Searching reports a match of `r` that starts somewhere in the text. -/
theorem accepts_search_iff (r : Regex α) (s : List α) :
    accepts (search r) s = true ↔ ∃ u v, u <:+ s ∧ Consumes r u v := by
  rw [accepts_iff]
  constructor
  · rintro ⟨u, hu, v, hv, -⟩
    exact ⟨u, v, consumes_star_any.1 hu, hv⟩
  · rintro ⟨u, v, hu, hv⟩
    exact ⟨u, consumes_star_any.2 hu, v, hv, consumes_star_any.2 List.nil_suffix⟩

example : accepts (search (word "IN".toList)) "SELECT id IN (1)".toList = true := by decide

end Regex
