import CrossingReality.Effects.Contract

/-!
# Judging a program by less of the state

Where a coarser contract follows every call of a finer one, a program can be judged under the
coarser one.
-/

namespace Effects

variable {S : Signature} {σ τ ε α : Type} {K : Contract S σ} {K' : Contract S τ}

/-- `K'` follows `K` along `R`: whatever a call leads to under `K`, it can lead to under `K'`. -/
def Simulates (K : Contract S σ) (K' : Contract S τ) (R : σ → τ → Prop) : Prop :=
  ∀ c s t x s', R s t → K.post c s x s' → ∃ t', K'.post c t x t' ∧ R s' t'

/-- **Simulation.** -/
theorem wp.of_simulates {R : σ → τ → Prop} {p : Program S ε α} {Q : α → τ → Prop}
    {E : ε → τ → Prop} {s : σ} {t : τ} (hR : Simulates K K' R) (hK : ∀ c s, K.pre c s)
    (h : wp K' p Q E t) (hst : R s t) :
    wp K p (fun a s' => ∃ t', R s' t' ∧ Q a t') (fun e s' => ∃ t', R s' t' ∧ E e t') s := by
  induction p generalizing s t with
  | pure a => exact ⟨t, hst, h⟩
  | raise e => exact ⟨t, hst, h⟩
  | call c k ih =>
    refine ⟨hK c s, fun x s' hx => ?_⟩
    obtain ⟨t', hx', hst'⟩ := hR c s t x s' hst hx
    exact ih x (h.2 x t' hx') hst'

/-- What holds without a record holds beside one. -/
theorem wp.recording {keep : Event S σ → Bool} {p : Program S ε α} {Q : α → σ → Prop}
    {E : ε → σ → Prop} {s : σ} (t : List (Event S σ)) (hK : ∀ c s, K.pre c s) (h : wp K p Q E s) :
    wp (K.recording keep) p (fun a s' => Q a s'.1) (fun e s' => E e s'.1) (s, t) := by
  have hR : Simulates (K.recording keep) K fun s' s => s = s'.1 := by
    rintro c ⟨s, t⟩ _ x ⟨s', t'⟩ rfl ⟨hx, -⟩
    exact ⟨s', hx, rfl⟩
  refine (wp.of_simulates hR (fun c s => hK c s.1) h rfl).mono ?_ ?_
  · rintro a s' ⟨_, rfl, hQ⟩
    exact hQ
  · rintro e s' ⟨_, rfl, hE⟩
    exact hE

end Effects
