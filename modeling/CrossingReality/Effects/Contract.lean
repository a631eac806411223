import CrossingReality.Effects.Program

/-!
# Contracts and weakest preconditions

A contract says, over a state `σ`, when a call may be made and what it can lead to. The state may
be the whole world the calls act on, or only what one thread knows about it. The same program is
then judged under both.

`wp K p Q E s` holds when `p`, started in `s` under the contract `K`, only makes calls that are
allowed, ends in `Q` when it gives back a value and in `E` when it raises. The calls' results are
the environment's choice.
-/

namespace Effects

variable {S : Signature} {σ τ ε α β : Type}

/-- When each call may be made, and what it gives back and leaves behind. -/
structure Contract (S : Signature) (σ : Type) where
  /-- The call is allowed in this state. -/
  pre : S.Call → σ → Prop
  /-- The call can give back this value and lead to this state. -/
  post : (c : S.Call) → σ → S.Ret c → σ → Prop

/-- The weakest precondition of a program, with one postcondition for results and one for
exceptions. -/
def wp (K : Contract S σ) :
    Program S ε α → (α → σ → Prop) → (ε → σ → Prop) → σ → Prop
  | .pure a, Q, _, s => Q a s
  | .raise e, _, E, s => E e s
  | .call c k, Q, E, s => K.pre c s ∧ ∀ x s', K.post c s x s' → wp K (k x) Q E s'

variable {K : Contract S σ} {Q Q' : α → σ → Prop} {E E' : ε → σ → Prop} {s : σ}

/-! ## Rules -/

@[simp] theorem wp_pure (a : α) : wp K (pure a : Program S ε α) Q E s ↔ Q a s := Iff.rfl

@[simp] theorem wp_raise (e : ε) : wp K (.raise e : Program S ε α) Q E s ↔ E e s := Iff.rfl

theorem wp_lift (c : S.Call) {Q : S.Ret c → σ → Prop} :
    wp K (Program.lift c : Program S ε _) Q E s ↔
      K.pre c s ∧ ∀ x s', K.post c s x s' → Q x s' := Iff.rfl

@[simp] theorem wp_bind (p : Program S ε α) (f : α → Program S ε β) {Q : β → σ → Prop} :
    wp K (p >>= f) Q E s ↔ wp K p (fun a s' => wp K (f a) Q E s') E s := by
  induction p generalizing s with
  | pure a => exact Iff.rfl
  | raise e => exact Iff.rfl
  | call c k ih =>
    refine and_congr_right fun _ => forall_congr' fun x => forall_congr' fun s' => ?_
    exact imp_congr_right fun _ => ih x

@[simp] theorem wp_map (p : Program S ε α) (f : α → β) {Q : β → σ → Prop} :
    wp K (f <$> p) Q E s ↔ wp K p (fun a s' => Q (f a) s') E s := by
  rw [← bind_pure_comp]
  exact wp_bind p _

theorem wp_ite (b : Prop) [Decidable b] (p q : Program S ε α) :
    wp K (if b then p else q) Q E s ↔ (b → wp K p Q E s) ∧ (¬b → wp K q Q E s) := by
  by_cases h : b <;> simp [h]

/-- **Consequence.** -/
theorem wp.mono {p : Program S ε α} (h : wp K p Q E s) (hQ : ∀ a s', Q a s' → Q' a s')
    (hE : ∀ e s', E e s' → E' e s') : wp K p Q' E' s := by
  induction p generalizing s with
  | pure a => exact hQ a s h
  | raise e => exact hE e s h
  | call c k ih => exact ⟨h.1, fun x s' hx => ih x (h.2 x s' hx)⟩

theorem wp.and {p : Program S ε α} (h : wp K p Q E s) (h' : wp K p Q' E' s) :
    wp K p (fun a s' => Q a s' ∧ Q' a s') (fun e s' => E e s' ∧ E' e s') s := by
  induction p generalizing s with
  | pure a => exact ⟨h, h'⟩
  | raise e => exact ⟨h, h'⟩
  | call c k ih => exact ⟨h.1, fun x s' hx => ih x (h.2 x s' hx) (h'.2 x s' hx)⟩

/-- **Invariance.** If every call the program may make is allowed wherever `I` holds and keeps
`I`, the program keeps `I`. -/
theorem wp_of_uses {P : S.Call → Prop} {R : ε → Prop} {I : σ → Prop} {p : Program S ε α}
    (hp : p.Uses P R)
    (hI : ∀ c s, P c → I s → K.pre c s ∧ ∀ x s', K.post c s x s' → I s') (hs : I s) :
    wp K p (fun _ s' => I s') (fun e s' => R e ∧ I s') s := by
  induction p generalizing s with
  | pure a => exact hs
  | raise e => exact ⟨hp, hs⟩
  | call c k ih =>
    obtain ⟨hpre, hpost⟩ := hI c s hp.1 hs
    exact ⟨hpre, fun x s' hx => ih x (hp.2 x) (hpost x s' hx)⟩

/-- The program keeps `I`, however it ends. -/
def Keeps (K : Contract S σ) (I : σ → Prop) (p : Program S ε α) : Prop :=
  ∀ s, I s → wp K p (fun _ => I) (fun _ => I) s

section Keeps

variable {I : σ → Prop}

theorem keeps_pure (a : α) : Keeps K I (pure a : Program S ε α) := fun _ h => h

theorem keeps_raise (e : ε) : Keeps K I (.raise e : Program S ε α) := fun _ h => h

theorem Keeps.bind {p : Program S ε α} {f : α → Program S ε β} (hp : Keeps K I p)
    (hf : ∀ a, Keeps K I (f a)) : Keeps K I (p >>= f) := fun s hs => by
  rw [wp_bind]
  exact (hp s hs).mono (fun a s' h => hf a s' h) fun _ _ h => h

theorem keeps_ite (b : Prop) [Decidable b] {p q : Program S ε α} (hp : Keeps K I p)
    (hq : Keeps K I q) : Keeps K I (if b then p else q) := by
  split
  · exact hp
  · exact hq

/-- Going on from a result that may be missing. -/
theorem Keeps.bindOption {p : Program S ε (Option α)} {f : Option α → Program S ε β}
    (hp : Keeps K I p) (hnone : Keeps K I (f none)) (hsome : ∀ a, Keeps K I (f (some a))) :
    Keeps K I (p >>= f) :=
  hp.bind fun o => by
    cases o with
    | none => exact hnone
    | some a => exact hsome a

theorem keeps_of_uses {P : S.Call → Prop} {R : ε → Prop} {p : Program S ε α} (hp : p.Uses P R)
    (hI : ∀ c s, P c → I s → K.pre c s ∧ ∀ x s', K.post c s x s' → I s') : Keeps K I p :=
  fun _ hs => (wp_of_uses hp hI hs).mono (fun _ _ h => h) fun _ _ h => h.2

end Keeps

/-! ## Executions -/

/-- One call of an execution: the state it was made in and what it gave back. -/
structure Event (S : Signature) (σ : Type) where
  /-- The state before the call. -/
  before : σ
  /-- The call. -/
  call : S.Call
  /-- What it gave back. -/
  ret : S.Ret call

/-- `Runs K p s l r s'`: under `K`, the program `p` can run from `s` to `s'`, making the calls
`l` and ending in `r`. -/
inductive Runs (K : Contract S σ) :
    Program S ε α → σ → List (Event S σ) → Except ε α → σ → Prop
  | pure (a : α) (s : σ) : Runs K (.pure a) s [] (.ok a) s
  | raise (e : ε) (s : σ) : Runs K (.raise e) s [] (.error e) s
  | call {c : S.Call} {k : S.Ret c → Program S ε α} {s s₁ s' : σ} {x : S.Ret c}
      {l : List (Event S σ)} {r : Except ε α} :
      K.post c s x s₁ → Runs K (k x) s₁ l r s' → Runs K (.call c k) s (⟨s, c, x⟩ :: l) r s'

/-- The two postconditions, as one on the outcome. -/
def outcome (Q : α → σ → Prop) (E : ε → σ → Prop) : Except ε α → σ → Prop
  | .ok a, s => Q a s
  | .error e, s => E e s

/-- **Adequacy.** What `wp` promises holds at the end of every execution. -/
theorem Runs.outcome_of_wp {p : Program S ε α} {l : List (Event S σ)} {r : Except ε α} {s' : σ}
    (h : Runs K p s l r s') (hwp : wp K p Q E s) : outcome Q E r s' := by
  induction h with
  | pure a s => exact hwp
  | raise e s => exact hwp
  | call hx _ ih => exact ih (hwp.2 _ _ hx)

/-- What holds however the program ends holds at the end of every execution. -/
theorem Runs.of_wp {I : σ → Prop} {p : Program S ε α} {l : List (Event S σ)} {r : Except ε α}
    {s' : σ} (h : Runs K p s l r s') (hwp : wp K p (fun _ => I) (fun _ => I) s) : I s' := by
  have := h.outcome_of_wp hwp
  cases r <;> exact this

/-- Where every call is allowed, `wp` says no more than that. -/
theorem wp_of_runs (hK : ∀ c s, K.pre c s) {p : Program S ε α}
    (h : ∀ l r s', Runs K p s l r s' → outcome Q E r s') : wp K p Q E s := by
  induction p generalizing s with
  | pure a => exact h _ _ _ (.pure a s)
  | raise e => exact h _ _ _ (.raise e s)
  | call c k ih =>
    exact ⟨hK c s, fun x s' hx => ih x fun l r s'' hr => h _ r s'' (.call hx hr)⟩

/-- An execution of a sequence ends in its first part or goes through it. -/
theorem Runs.bind_cases {p : Program S ε α} {f : α → Program S ε β} {l : List (Event S σ)}
    {r : Except ε β} {s' : σ} (h : Runs K (p >>= f) s l r s') :
    (∃ e, r = .error e ∧ Runs K p s l (.error e) s') ∨
      ∃ a s₁ l₁ l₂, l = l₁ ++ l₂ ∧ Runs K p s l₁ (.ok a) s₁ ∧ Runs K (f a) s₁ l₂ r s' := by
  induction p generalizing s l with
  | pure a => exact .inr ⟨a, s, [], l, rfl, .pure a s, h⟩
  | raise e =>
    cases h
    exact .inl ⟨e, rfl, .raise e _⟩
  | call c k ih =>
    obtain - | - | ⟨hx, h⟩ := h
    rcases ih _ h with ⟨e, rfl, h₁⟩ | ⟨a, s₁, l₁, l₂, rfl, h₁, h₂⟩
    · exact .inl ⟨e, rfl, .call hx h₁⟩
    · exact .inr ⟨a, s₁, _ :: l₁, l₂, rfl, .call hx h₁, h₂⟩

/-- What a program uses is what its executions consist of. -/
theorem Runs.calls_of_uses {P : S.Call → Prop} {R : ε → Prop} {p : Program S ε α}
    {l : List (Event S σ)} {r : Except ε α} {s' : σ} (h : Runs K p s l r s') (hp : p.Uses P R) :
    ∀ e ∈ l, P e.call := by
  induction h with
  | pure a s => simp
  | raise e s => simp
  | call hx _ ih =>
    rintro e (_ | ⟨_, he⟩)
    · exact hp.1
    · exact ih (hp.2 _) e he

/-! ## Recording calls -/

/-- The contract `K`, where the state carries the calls so far that are worth keeping. -/
def Contract.recording (K : Contract S σ) (keep : Event S σ → Bool) :
    Contract S (σ × List (Event S σ)) where
  pre c s := K.pre c s.1
  post c s x s' := K.post c s.1 x s'.1 ∧ s'.2 = s.2 ++ [⟨s.1, c, x⟩].filter keep

variable {keep : Event S σ → Bool} {t : List (Event S σ)}

/-- **A record takes nothing away.** What holds of a program beside its record holds of the trace
of every execution. -/
theorem Runs.outcome_of_recording {p : Program S ε α} {l : List (Event S σ)} {r : Except ε α}
    {s' : σ} {Q : α → σ × List (Event S σ) → Prop} {E : ε → σ × List (Event S σ) → Prop}
    (h : Runs K p s l r s') (hwp : wp (K.recording keep) p Q E (s, t)) :
    outcome (fun a s' => Q a (s', t ++ l.filter keep)) (fun e s' => E e (s', t ++ l.filter keep))
      r s' := by
  induction h generalizing t with
  | pure a s =>
    rw [List.filter_nil, List.append_nil]
    exact hwp
  | raise e s =>
    rw [List.filter_nil, List.append_nil]
    exact hwp
  | @call c k s s₁ s' x l r hx _ ih =>
    have := ih (hwp.2 x (s₁, _) ⟨hx, rfl⟩)
    simpa only [List.append_assoc, ← List.filter_append, List.singleton_append] using this

theorem Runs.of_recording {I : σ × List (Event S σ) → Prop} {p : Program S ε α}
    {l : List (Event S σ)} {r : Except ε α} {s' : σ} (h : Runs K p s l r s')
    (hwp : wp (K.recording keep) p (fun _ => I) (fun _ => I) (s, t)) :
    I (s', t ++ l.filter keep) := by
  have := h.outcome_of_recording hwp
  cases r <;> exact this

/-- Judging a part of a program: what it records are calls of a kind `P`, made where `I` holds. -/
theorem wp_recording {P : S.Call → Prop} {R : ε → Prop} {I : σ → Prop} {p : Program S ε α}
    {Q : α → σ × List (Event S σ) → Prop} {E : ε → σ × List (Event S σ) → Prop}
    (hp : p.Uses P R) (hI : ∀ c s x s', P c → I s → K.post c s x s' → I s') (hs : I s)
    (h : wp K p
      (fun a s' => ∀ l, (∀ e ∈ l, keep e ∧ P e.call ∧ I e.before) → Q a (s', t ++ l))
      (fun e s' => ∀ l, (∀ e ∈ l, keep e ∧ P e.call ∧ I e.before) → E e (s', t ++ l)) s) :
    wp (K.recording keep) p Q E (s, t) := by
  induction p generalizing s t with
  | pure a =>
    have := h [] (by simp)
    rwa [List.append_nil] at this
  | raise e =>
    have := h [] (by simp)
    rwa [List.append_nil] at this
  | call c k ih =>
    refine ⟨h.1, ?_⟩
    rintro x ⟨s₁, t'⟩ ⟨hx, rfl : t' = _⟩
    have hcons : ∀ l : List (Event S σ), (∀ e ∈ l, keep e ∧ P e.call ∧ I e.before) →
        ∀ e ∈ [⟨s, c, x⟩].filter keep ++ l, keep e ∧ P e.call ∧ I e.before := by
      intro l hl e he
      rcases List.mem_append.mp he with he | he
      · obtain ⟨he, hkeep⟩ := List.mem_filter.mp he
        obtain rfl := List.mem_singleton.mp he
        exact ⟨hkeep, hp.1, hs⟩
      · exact hl e he
    refine ih x (hp.2 x) (hI c s x s₁ hp.1 hs hx) ?_
    refine (h.2 x s₁ hx).mono (fun a s' hQ l hl => ?_) fun e s' hE l hl => ?_
    · simpa using hQ _ (hcons l hl)
    · simpa using hE _ (hcons l hl)

/-- A record only grows. -/
theorem wp_recording_grows (hK : ∀ c s, K.pre c s) (p : Program S ε α) :
    wp (K.recording keep) p (fun _ s' => t <+: s'.2) (fun _ s' => t <+: s'.2) (s, t) := by
  induction p generalizing s t with
  | pure a => exact List.prefix_rfl
  | raise e => exact List.prefix_rfl
  | call c k ih =>
    refine ⟨hK c s, ?_⟩
    rintro x ⟨s₁, t'⟩ ⟨-, rfl : t' = _⟩
    have hgrow := List.prefix_append t ([⟨s, c, x⟩].filter keep)
    exact (ih x).mono (fun _ _ h => hgrow.trans h) fun _ _ h => hgrow.trans h

/-- A part that makes no call worth keeping is judged as without the record. -/
theorem wp_recording_of_dull {P : S.Call → Prop} {R : ε → Prop} {p : Program S ε α}
    {Q : α → σ × List (Event S σ) → Prop} {E : ε → σ × List (Event S σ) → Prop}
    (hp : p.Uses P R) (hP : ∀ e : Event S σ, P e.call → keep e = false)
    (h : wp K p (fun a s' => Q a (s', t)) (fun e s' => E e (s', t)) s) :
    wp (K.recording keep) p Q E (s, t) := by
  refine wp_recording (I := fun _ => True) hp (fun _ _ _ _ _ _ _ => trivial) trivial ?_
  have hnil : ∀ l : List (Event S σ), (∀ e ∈ l, keep e ∧ P e.call ∧ True) → l = [] := by
    intro l hl
    refine List.eq_nil_iff_forall_not_mem.mpr fun e he => ?_
    obtain ⟨hkeep, hcall, -⟩ := hl e he
    rw [hP e hcall] at hkeep
    cases hkeep
  refine h.mono (fun a s' hQ l hl => ?_) fun e s' hE l hl => ?_
  · simpa [hnil l hl] using hQ
  · simpa [hnil l hl] using hE

end Effects
