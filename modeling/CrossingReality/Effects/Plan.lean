import CrossingReality.Effects.Contract

/-!
# Plans of what is asked for

A program that borrows from its environment asks, is given or refused what it asked for, and goes
on from there. A plan is the tree of these requests and nothing else. At each it says whether what
is given will be kept for good. What the environment answered decides the path that was taken, and
`keeps` whether anything was kept on it.

`Leads` is the part of the plan that is left after some answers, on a path that kept nothing.
-/

namespace Effects

/-- The requests of a program that ends in `α`. -/
inductive Plan (α : Type) where
  | done (a : α)
  /-- One request. After it the plan goes on by the answer. -/
  | ask (kept : Bool) (given refused : Plan α)

namespace Plan

variable {α β : Type}

/-- One plan, then another by what the first ended in. -/
def bind : Plan α → (α → Plan β) → Plan β
  | .done a, f => f a
  | .ask kept given refused, f => .ask kept (given.bind f) (refused.bind f)

/-- Something was given for good. Requests that were not answered gave nothing. -/
def keeps : Plan α → List Bool → Bool
  | .done _, _ => false
  | .ask _ _ _, [] => false
  | .ask kept given _, true :: as => kept || given.keeps as
  | .ask _ _ refused, false :: as => refused.keeps as

/-- `P.Leads as P'`: the answers `as` to `P` gave nothing for good, and leave `P'`. -/
inductive Leads : Plan α → List Bool → Plan α → Prop
  | refl (P : Plan α) : Leads P [] P
  | given {P Q P' : Plan α} {as : List Bool} :
    Leads P as P' → Leads (.ask false P Q) (true :: as) P'
  | refused {P Q P' : Plan α} {kept : Bool} {as : List Bool} : Leads Q as P' →
      Leads (.ask kept P Q) (false :: as) P'

@[simp] theorem keeps_nil (P : Plan α) : P.keeps [] = false := by
  cases P <;> rfl

variable {P P' P'' : Plan α} {as bs : List Bool} {f : α → Plan β}

theorem bind_done (P : Plan α) : P.bind .done = P := by
  induction P with
  | done a => rfl
  | ask kept given refused ihg ihr => rw [bind, ihg, ihr]

theorem keeps_append (h : P.keeps as = true) : P.keeps (as ++ bs) = true := by
  induction P generalizing as with
  | done a => cases h
  | ask kept given refused ihg ihr =>
    obtain - | ⟨_ | _, as⟩ := as
    · cases h
    · exact ihr h
    · rcases Bool.or_eq_true_iff.mp h with h | h
      · exact Bool.or_eq_true_iff.mpr (.inl h)
      · exact Bool.or_eq_true_iff.mpr (.inr (ihg h))

theorem keeps_bind (h : P.keeps as = true) : (P.bind f).keeps as = true := by
  induction P generalizing as with
  | done a => cases h
  | ask kept given refused ihg ihr =>
    obtain - | ⟨_ | _, as⟩ := as
    · cases h
    · exact ihr h
    · rcases Bool.or_eq_true_iff.mp h with h | h
      · exact Bool.or_eq_true_iff.mpr (.inl h)
      · exact Bool.or_eq_true_iff.mpr (.inr (ihg h))

theorem Leads.trans (h : Leads P as P') (h' : Leads P' bs P'') : Leads P (as ++ bs) P'' := by
  induction h with
  | refl P => exact h'
  | given _ ih => exact .given (ih h')
  | refused _ ih => exact .refused (ih h')

theorem Leads.bind (h : Leads P as P') : Leads (P.bind f) as (P'.bind f) := by
  induction h with
  | refl P => exact .refl _
  | given _ ih => exact .given ih
  | refused _ ih => exact .refused ih

/-- What was kept is what is kept from there on. -/
theorem Leads.keeps_append (h : Leads P as P') : P.keeps (as ++ bs) = P'.keeps bs := by
  induction h with
  | refl P => rfl
  | given _ ih => exact ih
  | refused _ ih => exact ih

theorem Leads.keeps (h : Leads P as P') : P.keeps as = false := by
  have hnil : P.keeps (as ++ []) = P'.keeps [] := h.keeps_append
  rwa [List.append_nil, keeps_nil] at hnil

end Plan

end Effects
