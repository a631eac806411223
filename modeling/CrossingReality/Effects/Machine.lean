import CrossingReality.Effects.Contract

/-!
# Machines

A machine runs calls. What it does not decide itself (whether a call fails, what a remote party
answers) is handed to it with every call as a *fate* in `F`. Restricting the fates a call may meet
gives the contracts a program is judged under, and fixing them all gives an evaluator.
-/

namespace Effects

variable {S : Signature} {σ F ε α β : Type}

/-- A machine over the states `σ`, given the fate of each call. -/
structure Machine (S : Signature) (F σ : Type) where
  /-- One call. -/
  step : (c : S.Call) → F → σ → S.Ret c × σ

namespace Machine

/-- The contract of a machine whose calls meet only the `allowed` fates. -/
def contract (M : Machine S F σ) (allowed : (c : S.Call) → F → σ → Prop) : Contract S σ where
  pre _ _ := True
  post c s x s' := ∃ f, allowed c f s ∧ M.step c f s = (x, s')

theorem contract_mono {M : Machine S F σ} {A B : (c : S.Call) → F → σ → Prop}
    (h : ∀ c f s, A c f s → B c f s)
    {p : Program S ε α} {Q : α → σ → Prop} {E : ε → σ → Prop} {s : σ}
    (hp : wp (M.contract B) p Q E s) : wp (M.contract A) p Q E s := by
  induction p generalizing s with
  | pure a => exact hp
  | raise e => exact hp
  | call c k ih =>
    exact ⟨trivial, fun x s' ⟨f, hf, hs⟩ => ih x (hp.2 x s' ⟨f, h c f s hf, hs⟩)⟩

theorem wp_lift_contract {M : Machine S F σ} {A : (c : S.Call) → F → σ → Prop} (c : S.Call)
    {Q : S.Ret c → σ → Prop} {E : ε → σ → Prop} {s : σ} :
    wp (M.contract A) (Program.lift c : Program S ε _) Q E s ↔
      ∀ f, A c f s → Q (M.step c f s).1 (M.step c f s).2 := by
  rw [wp_lift]
  constructor
  · exact fun h f hf => h.2 _ _ ⟨f, hf, rfl⟩
  · rintro h
    refine ⟨trivial, fun x s' ⟨f, hf, hs⟩ => ?_⟩
    have := h f hf
    rwa [hs] at this

/-- Run a program to its end, the calls meeting the given fates in turn and `d` after that. -/
def play (M : Machine S F σ) (d : F) :
    Program S ε α → List F → σ → List (Event S σ) × Except ε α × σ
  | .pure a, _, s => ([], .ok a, s)
  | .raise e, _, s => ([], .error e, s)
  | .call c k, fs, s =>
    let r := M.play d (k (M.step c (fs.headD d) s).1) fs.tail (M.step c (fs.headD d) s).2
    (⟨s, c, (M.step c (fs.headD d) s).1⟩ :: r.1, r.2)

/-- **Playing is executing**: the evaluator's run is one of the contract's. -/
theorem runs_play {M : Machine S F σ} {A : (c : S.Call) → F → σ → Prop} {d : F}
    {p : Program S ε α} {fs : List F} {s : σ} (hd : ∀ c s, A c d s)
    (hfs : ∀ f ∈ fs, ∀ c s, A c f s) :
    Runs (M.contract A) p s (M.play d p fs s).1 (M.play d p fs s).2.1 (M.play d p fs s).2.2 := by
  induction p generalizing s fs with
  | pure a => exact .pure a s
  | raise e => exact .raise e s
  | call c k ih =>
    have hhead : A c (fs.headD d) s := by
      cases fs with
      | nil => exact hd c s
      | cons f fs => exact hfs f List.mem_cons_self c s
    exact .call ⟨_, hhead, rfl⟩ (ih _ fun f hf => hfs f (List.mem_of_mem_tail hf))

end Machine

end Effects
