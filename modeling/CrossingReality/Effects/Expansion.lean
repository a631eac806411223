import CrossingReality.Effects.Pool

/-!
# Calls that stand for several others

A program can be written with a call that stands for a program of its own, over the same
interface. Expanding the program puts these bodies in.

* `wp_expand` — where the bodies do what their calls do, what holds of a program holds of its
  expansion.
* `Runs.contract` — run alone, from states where the bodies do what their calls do, the expansion
  does what the program does.
-/

namespace Effects

variable {S : Signature} {σ ε α : Type}

/-- What calls stand for: `none` for one that stands for itself. -/
abbrev Bodies (S : Signature) (ε : Type) : Type := (c : S.Call) → Option (Program S ε (S.Ret c))

variable {X : Bodies S ε} {c : S.Call}

namespace Program

/-- Put the bodies in. -/
def expand (X : Bodies S ε) : Program S ε α → Program S ε α
  | .pure a => .pure a
  | .raise e => .raise e
  | .call c k =>
    match X c with
    | none => .call c fun x => (k x).expand X
    | some p => p.bind fun x => (k x).expand X

theorem expand_none (h : X c = none) (k : S.Ret c → Program S ε α) :
    (Program.call c k).expand X = .call c fun x => (k x).expand X := by
  rw [expand, h]

theorem expand_some {p : Program S ε (S.Ret c)} (h : X c = some p)
    (k : S.Ret c → Program S ε α) :
    (Program.call c k).expand X = p >>= fun x => (k x).expand X := by
  rw [expand, h]
  rfl

end Program

section Judging

variable {K : Contract S σ} {Q : α → σ → Prop} {E : ε → σ → Prop} {s : σ}

/-- Under `K`, a body does what its call does, or raises what `E` allows. -/
def Faithful (K : Contract S σ) (X : Bodies S ε) (E : ε → σ → Prop) : Prop :=
  ∀ c p, X c = some p → ∀ s Q, wp K (Program.lift c : Program S ε (S.Ret c)) Q E s → wp K p Q E s

/-- **Expansion.** -/
theorem wp_expand (hX : Faithful K X E) {p : Program S ε α} (h : wp K p Q E s) :
    wp K (p.expand X) Q E s := by
  induction p generalizing s with
  | pure a => exact h
  | raise e => exact h
  | call c k ih =>
    cases hc : X c with
    | none =>
      rw [Program.expand_none hc]
      exact ⟨h.1, fun x s' hx => ih x (h.2 x s' hx)⟩
    | some p =>
      rw [Program.expand_some hc, wp_bind]
      exact hX c p hc s _ ⟨h.1, fun x s' hx => ih x (h.2 x s' hx)⟩

end Judging

/-! ## Runs -/

/-- Wherever `I` holds, a body that is run alone does what its call does, by calls in `part`. -/
def Alone (K : Contract S σ) (X : Bodies S ε) (I : σ → Prop) (part : S.Call → Bool) : Prop :=
  ∀ c p, X c = some p → ∀ s l r s', I s → Runs K p s l r s' →
    (∃ x, r = .ok x ∧ K.post c s x s') ∧ ∀ e ∈ l, part e.call = true

variable {K : Contract S σ} {I : σ → Prop} {part : S.Call → Bool} {P : S.Call → Prop}
  {A : (c : S.Call) → S.Ret c → Prop} {Q : α → Unit → Prop} {E : ε → Unit → Prop} {s s' : σ}
  {r : Except ε α}

/-- **Contraction.** If the program only makes calls that keep `I`, as long as its calls are
answered as they were, a run of its expansion is a run of the program. The calls are the same, but
for those that stand for others and those they stand for. -/
theorem Runs.contract (hX : Alone K X I part)
    (hI : ∀ c s x s', P c → I s → K.post c s x s' → I s')
    (hpart : ∀ c, P c → X c = none → part c = false) (hA : ∀ c x, X c ≠ none → A c x)
    {p : Program S ε α} (hwp : wp (Contract.guarding P A) p Q E ()) {l' : List (Event S σ)}
    (h : Runs K (p.expand X) s l' r s') (hl' : ∀ e ∈ l', A e.call e.ret) (hs : I s) :
    ∃ l, Runs K p s l r s' ∧ I s' ∧
      l.filter (fun e => (X e.call).isNone) = l'.filter fun e => !part e.call := by
  induction p generalizing s l' with
  | pure a =>
    cases h
    exact ⟨[], .pure a _, hs, rfl⟩
  | raise e =>
    cases h
    exact ⟨[], .raise e _, hs, rfl⟩
  | call c k ih =>
    cases hc : X c with
    | none =>
      rw [Program.expand_none hc] at h
      obtain - | - | @⟨_, _, _, s₁, _, x, l', _, hx, h⟩ := h
      obtain ⟨l, hrun, hs', hl⟩ := ih x (hwp.2 x () (hl' _ List.mem_cons_self)) h
        (fun e he => hl' e (List.mem_cons_of_mem _ he)) (hI c s x s₁ hwp.1 hs hx)
      refine ⟨_, .call hx hrun, hs', ?_⟩
      rw [List.filter_cons_of_pos (by simp [hc]), List.filter_cons_of_pos, hl]
      simpa using hpart c hwp.1 hc
    | some p =>
      rw [Program.expand_some hc] at h
      rcases h.bind_cases with ⟨e, rfl, h₁⟩ | ⟨x, s₁, l₁, l₂, rfl, h₁, h₂⟩
      · obtain ⟨⟨x, hx, -⟩, -⟩ := hX c p hc s _ _ _ hs h₁
        cases hx
      · obtain ⟨⟨y, hy, hx⟩, hl₁⟩ := hX c p hc s _ _ _ hs h₁
        obtain rfl := Except.ok.inj hy
        obtain ⟨l, hrun, hs', hl⟩ := ih x (hwp.2 x () (hA c x (by simp [hc]))) h₂
          (fun e he => hl' e (List.mem_append_right _ he)) (hI c s x s₁ hwp.1 hs hx)
        refine ⟨_, .call hx hrun, hs', ?_⟩
        have hdropped : l₁.filter (fun e => !part e.call) = [] :=
          List.filter_eq_nil_iff.mpr fun e he => by simp [hl₁ e he]
        rw [List.filter_cons_of_neg (by simp [hc]), hl, List.filter_append, hdropped,
          List.nil_append]

end Effects
