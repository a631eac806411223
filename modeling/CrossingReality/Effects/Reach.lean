import CrossingReality.Effects.Contract

/-!
# Reaching an outcome

`wp` speaks of every execution of a program, `reach` of some execution. The rules of the two have
the same shape, so an execution is built the way a precondition is computed.
-/

namespace Effects

variable {S : Signature} {σ ε α β : Type}

/-- Some execution of a program ends in one of the two outcomes. -/
def reach (K : Contract S σ) :
    Program S ε α → (α → σ → Prop) → (ε → σ → Prop) → σ → Prop
  | .pure a, Q, _, s => Q a s
  | .raise e, _, E, s => E e s
  | .call c k, Q, E, s => ∃ x s', K.post c s x s' ∧ reach K (k x) Q E s'

variable {K K' : Contract S σ} {Q Q' : α → σ → Prop} {E E' : ε → σ → Prop} {s : σ}

@[simp] theorem reach_pure (a : α) : reach K (pure a : Program S ε α) Q E s ↔ Q a s := Iff.rfl

@[simp] theorem reach_raise (e : ε) : reach K (.raise e : Program S ε α) Q E s ↔ E e s := Iff.rfl

@[simp] theorem reach_bind (p : Program S ε α) (f : α → Program S ε β) {Q : β → σ → Prop} :
    reach K (p >>= f) Q E s ↔ reach K p (fun a s' => reach K (f a) Q E s') E s := by
  induction p generalizing s with
  | pure a => exact Iff.rfl
  | raise e => exact Iff.rfl
  | call c k ih =>
    refine exists_congr fun x => exists_congr fun s' => ?_
    exact and_congr_right fun _ => ih x

theorem reach_lift {c : S.Call} {x : S.Ret c} {s' : σ} {Q : S.Ret c → σ → Prop}
    (hx : K.post c s x s') (h : Q x s') : reach K (Program.lift c : Program S ε _) Q E s :=
  ⟨x, s', hx, h⟩

theorem reach.mono {p : Program S ε α} (h : reach K p Q E s) (hQ : ∀ a s', Q a s' → Q' a s')
    (hE : ∀ e s', E e s' → E' e s') : reach K p Q' E' s := by
  induction p generalizing s with
  | pure a => exact hQ a s h
  | raise e => exact hE e s h
  | call c k ih =>
    obtain ⟨x, s', hx, h⟩ := h
    exact ⟨x, s', hx, ih x h⟩

/-- Where no call gets stuck, what holds of every execution holds of some. -/
theorem reach_of_wp (hK : ∀ c s, ∃ x s', K.post c s x s') {p : Program S ε α}
    (h : wp K p Q E s) : reach K p Q E s := by
  induction p generalizing s with
  | pure a => exact h
  | raise e => exact h
  | call c k ih =>
    obtain ⟨x, s', hx⟩ := hK c s
    exact ⟨x, s', hx, ih x (h.2 x s' hx)⟩

/-- An outcome that is reached beside a record is one of an execution with that record. -/
theorem exists_runs_of_reach {keep : Event S σ → Bool} {t : List (Event S σ)}
    {Q : α → σ × List (Event S σ) → Prop} {E : ε → σ × List (Event S σ) → Prop}
    {p : Program S ε α} (h : reach (K.recording keep) p Q E (s, t)) :
    ∃ l r s', Runs K p s l r s' ∧ outcome (fun a s' => Q a (s', t ++ l.filter keep))
      (fun e s' => E e (s', t ++ l.filter keep)) r s' := by
  induction p generalizing s t with
  | pure a =>
    refine ⟨[], _, s, .pure a s, ?_⟩
    rw [List.filter_nil, List.append_nil]
    exact h
  | raise e =>
    refine ⟨[], _, s, .raise e s, ?_⟩
    rw [List.filter_nil, List.append_nil]
    exact h
  | call c k ih =>
    obtain ⟨x, ⟨s₁, t'⟩, ⟨hx, rfl : t' = _⟩, h⟩ := h
    obtain ⟨l, r, s', hrun, hout⟩ := ih x h
    refine ⟨⟨s, c, x⟩ :: l, r, s', .call hx hrun, ?_⟩
    simpa only [List.append_assoc, ← List.filter_append, List.singleton_append] using hout

end Effects
