import CrossingReality.Effects.Pool

/-!
# Pools that take up requests

A pool beside an outside that goes its own way. A thread that is done can take up a request the
outside makes, while the other threads run.

* `Serving` — the runs.
* `Serving.guaranteed` — assumption and guarantee, where what a thread may do rests on what has
  happened outside by then.
-/

namespace Effects

variable {S : Signature} {σ τ F ε α ι η ρ : Type}

/-- What goes on beside a pool: what can happen there, where it leads, and what it can ask for. -/
structure Outside (τ η ρ : Type) where
  allowed : τ → η → Prop
  next : τ → η → τ
  offers : τ → ρ → Prop

/-- `O.Reaches t t'`: outside, `t` can have become `t'`. -/
inductive Outside.Reaches (O : Outside τ η ρ) (t : τ) : τ → Prop
  | refl : O.Reaches t t
  | next {t' : τ} {e : η} : O.Reaches t t' → O.allowed t' e → O.Reaches t (O.next t' e)

theorem Outside.Reaches.trans {O : Outside τ η ρ} {t t₁ t₂ : τ} (h : O.Reaches t t₁)
    (h' : O.Reaches t₁ t₂) : O.Reaches t t₂ := by
  induction h' with
  | refl => exact h
  | next _ he ih => exact ih.next he

/-- The thread has no call to make. -/
def Program.isDone : Program S ε α → Bool
  | .call _ _ => false
  | _ => true

/-- Something that happens. -/
inductive Happening (ι : Type) (S : Signature) (σ η ρ : Type) where
  | outside (e : η)
  | taken (i : ι) (r : ρ)
  | moved (m : Move ι S σ)

/-- A list cut at an entry either ends with it or goes on to its own last entry. -/
theorem cut_concat {β : Type} {l₁ l₂ l : List β} {b x : β} (h : l₁ ++ b :: l₂ = l ++ [x]) :
    (l₂ = [] ∧ l₁ = l ∧ b = x) ∨ ∃ l₃, l₁ ++ b :: l₃ = l := by
  rcases List.eq_nil_or_concat l₂ with rfl | ⟨l₃, y, rfl⟩
  · obtain ⟨rfl, hx⟩ := List.append_inj' h rfl
    exact .inl ⟨rfl, rfl, List.singleton_inj.mp hx⟩
  · rw [List.concat_eq_append, ← List.cons_append, ← List.append_assoc] at h
    exact .inr ⟨l₃, List.append_inj_left' h rfl⟩

section Runs

variable [DecidableEq ι]

/-- `Serving K O prog ps t s l t' ps' s'`: what happens is `l`, and leads from the threads `ps`,
the outside `t` and the state `s` to `ps'`, `t'` and `s'`. -/
inductive Serving (K : Contract S σ) (O : Outside τ η ρ) (prog : ρ → Program S ε α)
    (ps : ι → Program S ε α) (t : τ) (s : σ) :
    List (Happening ι S σ η ρ) → τ → (ι → Program S ε α) → σ → Prop
  | nil : Serving K O prog ps t s [] t ps s
  | outside {l : List (Happening ι S σ η ρ)} {t' : τ} {ps' : ι → Program S ε α} {s' : σ} {e : η} :
      Serving K O prog ps t s l t' ps' s' → O.allowed t' e →
      Serving K O prog ps t s (l ++ [.outside e]) (O.next t' e) ps' s'
  | taken {l : List (Happening ι S σ η ρ)} {t' : τ} {ps' : ι → Program S ε α} {s' : σ} {i : ι}
      {r : ρ} : Serving K O prog ps t s l t' ps' s' → (ps' i).isDone = true → O.offers t' r →
      Serving K O prog ps t s (l ++ [.taken i r]) t' (Function.update ps' i (prog r)) s'
  | moved {l : List (Happening ι S σ η ρ)} {t' : τ} {ps' : ι → Program S ε α} {s' s'' : σ} {i : ι}
      {c : S.Call} {k : S.Ret c → Program S ε α} {x : S.Ret c} :
      Serving K O prog ps t s l t' ps' s' → ps' i = .call c k → K.post c s' x s'' →
      Serving K O prog ps t s (l ++ [.moved ⟨⟨s', c, x⟩, i⟩]) t' (Function.update ps' i (k x)) s''

variable {K : Contract S σ} {O : Outside τ η ρ} {prog : ρ → Program S ε α}
  {ps ps' : ι → Program S ε α} {t t' : τ} {s s' : σ} {l : List (Happening ι S σ η ρ)}

/-- The outside of a run is one of its own. -/
theorem Serving.reaches (h : Serving K O prog ps t s l t' ps' s') : O.Reaches t t' := by
  induction h with
  | nil => exact .refl
  | outside _ he ih => exact ih.next he
  | taken _ _ _ ih => exact ih
  | moved _ _ _ ih => exact ih

/-- What happens before a call leads to where it is made. -/
theorem Serving.split {l₁ l₂ : List (Happening ι S σ η ρ)} {m : Move ι S σ}
    (h : Serving K O prog ps t s (l₁ ++ .moved m :: l₂) t' ps' s') :
    ∃ t₁ ps₁ k, Serving K O prog ps t s l₁ t₁ ps₁ m.before ∧ ps₁ m.thread = .call m.call k := by
  generalize hl : l₁ ++ .moved m :: l₂ = l at h
  induction h generalizing l₂ with
  | nil => simp at hl
  | outside _ _ ih | taken _ _ _ ih =>
    rcases cut_concat hl with ⟨-, -, hx⟩ | ⟨l₃, hl⟩
    · cases hx
    · exact ih hl
  | @moved l' t₁ ps₁ s₁ s₂ i c k x h hi hx ih =>
    rcases cut_concat hl with ⟨-, rfl, hm⟩ | ⟨l₃, hl⟩
    · obtain rfl := Happening.moved.inj hm
      exact ⟨t₁, ps₁, k, h, hi⟩
    · exact ih hl

/-! ## Assumption and guarantee -/

/-- A part whose calls are permitted, whatever they are answered. -/
theorem wp_guarding_of_uses {P P' : S.Call → Prop} {R : ε → Prop}
    {A : (c : S.Call) → S.Ret c → Prop} {p : Program S ε α} {Q : α → Unit → Prop}
    {E : ε → Unit → Prop} (hp : p.Uses P R) (hP : ∀ c, P c → P' c) (hQ : ∀ a, Q a ())
    (hE : ∀ e, R e → E e ()) : wp (Contract.guarding P' A) p Q E () := by
  induction p with
  | pure a => exact hQ a
  | raise e => exact hE e hp
  | call c k ih => exact ⟨hP c hp.1, fun x _ _ => ih x (hp.2 x)⟩

/-- The thread only makes calls that are permitted, as long as it is answered from `J`. -/
def Program.Stays (K : Contract S σ) (P : S.Call → Prop) (J : σ → Prop) (p : Program S ε α) :
    Prop :=
  wp (Contract.guarding P (K.answers J)) p (fun _ _ => True) (fun _ _ => True) ()

namespace Program.Stays

variable {β : Type} {P C : S.Call → Prop} {J : σ → Prop} {p : Program S ε α}

theorem of_uses {R : ε → Prop} (hp : p.Uses C R) (hP : ∀ c, C c → P c) : p.Stays K P J :=
  wp_guarding_of_uses hp hP (fun _ => trivial) fun _ _ => trivial

theorem bind {f : α → Program S ε β} (hp : p.Stays K P J) (hf : ∀ a, (f a).Stays K P J) :
    (p >>= f).Stays K P J := by
  rw [Stays, wp_bind]
  exact hp.mono (fun a _ _ => hf a) fun _ _ h => h

/-- Going on from a result of which something is known. -/
theorem bind_of {f : α → Program S ε β} {Q : α → Prop}
    (hp : wp (Contract.guarding P (K.answers J)) p (fun a _ => Q a) (fun _ _ => True) ())
    (hf : ∀ a, Q a → (f a).Stays K P J) : (p >>= f).Stays K P J := by
  rw [Stays, wp_bind]
  exact hp.mono (fun a _ ha => hf a ha) fun _ _ h => h

theorem ite (b : Prop) [Decidable b] {q : Program S ε α} (hp : p.Stays K P J)
    (hq : q.Stays K P J) : (if b then p else q).Stays K P J := by
  by_cases h : b
  · rwa [if_pos h]
  · rwa [if_neg h]

/-- Going on from a result that may be missing. -/
theorem bindOption {p : Program S ε (Option α)} {f : Option α → Program S ε β}
    (hp : p.Stays K P J) (hnone : (f none).Stays K P J) (hsome : ∀ a, (f (some a)).Stays K P J) :
    (p >>= f).Stays K P J :=
  hp.bind fun o => by
    cases o with
    | none => exact hnone
    | some a => exact hsome a

end Program.Stays

/-- **Assumption and guarantee.** `P t` are the calls that are permitted once the outside has come
to `t`, and `I t` is an invariant that lasts as the outside goes on. If these calls keep it, and
every request only leads to permitted calls from when it is made on, as long as the calls are
answered from where the invariant holds, then it holds throughout and no other calls are made. -/
theorem Serving.guaranteed {P : τ → S.Call → Prop} {I : τ → σ → Prop}
    (h : Serving K O prog ps t s l t' ps' s')
    (hI : ∀ t' e s, O.Reaches t t' → O.allowed t' e → I t' s → I (O.next t' e) s)
    (hcall : ∀ t' c s x s', O.Reaches t t' → P t' c → I t' s → K.post c s x s' → I t' s')
    (hps : ∀ i t', O.Reaches t t' → (ps i).Stays K (P t') (I t'))
    (hprog : ∀ t₁ r t₂, O.Reaches t t₁ → O.offers t₁ r → O.Reaches t₁ t₂ →
      (prog r).Stays K (P t₂) (I t₂)) (hs : I t s) :
    I t' s' ∧ ∀ i t₂, O.Reaches t' t₂ → (ps' i).Stays K (P t₂) (I t₂) := by
  induction h with
  | nil => exact ⟨hs, hps⟩
  | outside h he ih =>
    obtain ⟨hs', hps'⟩ := ih
    exact ⟨hI _ _ _ h.reaches he hs', fun i t₂ ht₂ =>
      hps' i t₂ ((Outside.Reaches.refl.next he).trans ht₂)⟩
  | @taken l t' ps' s' i r h hdone hr ih =>
    obtain ⟨hs', hps'⟩ := ih
    refine ⟨hs', fun j t₂ ht₂ => ?_⟩
    by_cases hj : j = i
    · subst hj
      rw [Function.update_self]
      exact hprog t' r t₂ h.reaches hr ht₂
    · rw [Function.update_of_ne hj]
      exact hps' j t₂ ht₂
  | @moved l t' ps' s' s'' i c k x h hi hx ih =>
    obtain ⟨hs', hps'⟩ := ih
    have hthread := hps' i
    rw [hi] at hthread
    refine ⟨hcall t' c s' x s'' h.reaches (hthread t' .refl).1 hs' hx, fun j t₂ ht₂ => ?_⟩
    by_cases hj : j = i
    · subst hj
      rw [Function.update_self]
      -- The invariant has lasted up to where the answer is used.
      have hlasts : I t₂ s' := by
        induction ht₂ with
        | refl => exact hs'
        | next ht₂ he ih => exact hI _ _ _ (h.reaches.trans ht₂) he ih
      exact (hthread t₂ ht₂).2 x () ⟨s', s'', hlasts, hx⟩
    · rw [Function.update_of_ne hj]
      exact hps' j t₂ ht₂

end Runs

/-! ## Playing -/

/-- What is to happen next; a call meets the given fate. -/
inductive Cue (ι η ρ F : Type) where
  | outside (e : η)
  | take (i : ι) (r : ρ)
  | move (i : ι) (f : F)

namespace Machine

variable [DecidableEq ι] {M : Machine S F σ} {O : Outside τ η ρ} {prog : ρ → Program S ε α}
  [∀ t e, Decidable (O.allowed t e)] [∀ t r, Decidable (O.offers t r)]

/-- Follow the cues, as far as they can be followed. -/
def serve (M : Machine S F σ) (O : Outside τ η ρ) (prog : ρ → Program S ε α)
    [∀ t e, Decidable (O.allowed t e)] [∀ t r, Decidable (O.offers t r)] :
    List (Cue ι η ρ F) → τ → (ι → Program S ε α) → σ →
      List (Happening ι S σ η ρ) × τ × (ι → Program S ε α) × σ
  | [], t, ps, s => ([], t, ps, s)
  | .outside e :: cues, t, ps, s =>
    if O.allowed t e then
      let r := M.serve O prog cues (O.next t e) ps s
      (.outside e :: r.1, r.2)
    else ([], t, ps, s)
  | .take i q :: cues, t, ps, s =>
    if (ps i).isDone = true ∧ O.offers t q then
      let r := M.serve O prog cues t (Function.update ps i (prog q)) s
      (.taken i q :: r.1, r.2)
    else ([], t, ps, s)
  | .move i f :: cues, t, ps, s =>
    match ps i with
    | .call c k =>
      let r := M.serve O prog cues t (Function.update ps i (k (M.step c f s).1)) (M.step c f s).2
      (.moved ⟨⟨s, c, (M.step c f s).1⟩, i⟩ :: r.1, r.2)
    | .pure _ | .raise _ => ([], t, ps, s)

/-- **Following cues is serving.** -/
theorem serving_serve {A : (c : S.Call) → F → σ → Prop} (hA : ∀ c f s, A c f s)
    {cues : List (Cue ι η ρ F)} {t₀ t : τ} {ps₀ ps : ι → Program S ε α} {s₀ s : σ}
    {l : List (Happening ι S σ η ρ)}
    (h : Serving (M.contract A) O prog ps₀ t₀ s₀ l t ps s) :
    Serving (M.contract A) O prog ps₀ t₀ s₀ (l ++ (M.serve O prog cues t ps s).1)
      (M.serve O prog cues t ps s).2.1 (M.serve O prog cues t ps s).2.2.1
      (M.serve O prog cues t ps s).2.2.2 := by
  have hstop : Serving (M.contract A) O prog ps₀ t₀ s₀ (l ++ []) t ps s := by
    rw [List.append_nil]
    exact h
  induction cues generalizing l t ps s with
  | nil => exact hstop
  | cons cue cues ih =>
    have hnext : ∀ {x : Happening ι S σ η ρ} {t' : τ} {ps' : ι → Program S ε α} {s' : σ},
        Serving (M.contract A) O prog ps₀ t₀ s₀ (l ++ [x]) t' ps' s' →
        Serving (M.contract A) O prog ps₀ t₀ s₀ (l ++ x :: (M.serve O prog cues t' ps' s').1)
          (M.serve O prog cues t' ps' s').2.1 (M.serve O prog cues t' ps' s').2.2.1
          (M.serve O prog cues t' ps' s').2.2.2 := by
      intro x t' ps' s' hx
      have := ih hx (by rw [List.append_nil]; exact hx)
      rwa [List.append_assoc, List.singleton_append] at this
    cases cue with
    | outside e =>
      rw [serve]
      split
      · exact hnext (h.outside ‹_›)
      · exact hstop
    | take i r =>
      rw [serve]
      split
      · rename_i hr
        exact hnext (h.taken hr.1 hr.2)
      · exact hstop
    | move i f =>
      rw [serve]
      split
      · rename_i c k hi
        exact hnext (h.moved hi ⟨f, hA c f s, rfl⟩)
      · exact hstop
      · exact hstop

end Machine

end Effects
