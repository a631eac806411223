import Mathlib.Logic.Function.Basic
import CrossingReality.Effects.Machine

/-!
# Pools of threads

A pool runs one program for each thread, all on one state. At each move some thread makes its next
call and goes on with what the call gave back. A call is atomic; between two calls of one thread
the others may move as they like.

A thread cannot know the state, but it knows its own calls and what they gave back.
`Interleaving.judged` carries over to a pool what holds of a program however its calls are
answered.
-/

namespace Effects

variable {S : Signature} {σ F ε α ι : Type}

/-! ## Histories -/

/-- Every entry of a history is as `R` says, given the entries before it. -/
def Stepwise {β : Type} (R : List β → β → Prop) (l : List β) : Prop :=
  ∀ l₁ b l₂, l = l₁ ++ b :: l₂ → R l₁ b

section Stepwise

variable {β : Type} {R : List β → β → Prop} {l l' : List β} {b : β}

@[simp] theorem stepwise_nil : Stepwise R [] := fun l₁ b l₂ h => by simp at h

theorem Stepwise.of_append (h : Stepwise R (l ++ l')) : Stepwise R l := by
  rintro l₁ b l₂ rfl
  exact h l₁ b (l₂ ++ l') (by simp)

theorem stepwise_concat : Stepwise R (l ++ [b]) ↔ Stepwise R l ∧ R l b := by
  refine ⟨fun h => ⟨h.of_append, h l b [] rfl⟩, ?_⟩
  rintro ⟨h, hb⟩ l₁ b' l₂ heq
  rcases List.eq_nil_or_concat l₂ with rfl | ⟨l₃, b'', rfl⟩
  · obtain ⟨rfl, hlast⟩ := List.append_inj' heq rfl
    obtain rfl := List.singleton_inj.mp hlast
    exact hb
  · rw [List.concat_eq_append, ← List.cons_append, ← List.append_assoc] at heq
    exact h l₁ b' l₃ (List.append_inj_left' heq rfl)

end Stepwise

/-! ## Pools -/

/-- What a program has come to, if it has ended. -/
def Program.ended : Program S ε α → Option α
  | .pure a => some a
  | _ => none

theorem Program.eq_pure_of_ended {p : Program S ε α} {a : α} (h : p.ended = some a) :
    p = .pure a := by
  cases p with
  | pure b => exact congrArg Program.pure (Option.some_inj.mp h)
  | _ => cases h

/-- The exception that has stopped a program, if one has. -/
def Program.raised : Program S ε α → Option ε
  | .raise e => some e
  | _ => none

theorem Program.eq_raise_of_raised {p : Program S ε α} {e : ε} (h : p.raised = some e) :
    p = .raise e := by
  cases p with
  | raise e' => exact congrArg Program.raise (Option.some_inj.mp h)
  | _ => cases h

/-- One move of a pool: a call, and the thread that made it. -/
structure Move (ι : Type) (S : Signature) (σ : Type) extends Event S σ where
  /-- The thread. -/
  thread : ι

section Moves

variable [DecidableEq ι]

/-- `Interleaving K ps s l ps' s'`: under `K`, the moves `l` lead the threads from `ps` to `ps'`
and the state from `s` to `s'`. -/
inductive Interleaving (K : Contract S σ) (ps : ι → Program S ε α) (s : σ) :
    List (Move ι S σ) → (ι → Program S ε α) → σ → Prop
  | nil : Interleaving K ps s [] ps s
  | move {l : List (Move ι S σ)} {ps' : ι → Program S ε α} {s' s'' : σ} {i : ι} {c : S.Call}
      {k : S.Ret c → Program S ε α} {x : S.Ret c} : Interleaving K ps s l ps' s' →
      ps' i = .call c k → K.post c s' x s'' →
      Interleaving K ps s (l ++ [⟨⟨s', c, x⟩, i⟩]) (Function.update ps' i (k x)) s''

variable {K : Contract S σ} {ps ps' : ι → Program S ε α} {s s' : σ} {l : List (Move ι S σ)}

/-! ## What the threads use -/

/-- The moves of a pool are calls its threads use. -/
theorem Interleaving.uses {P : ι → S.Call → Prop} {R : ε → Prop}
    (h : Interleaving K ps s l ps' s') (hps : ∀ i, (ps i).Uses (P i) R) :
    (∀ m ∈ l, P m.thread m.call) ∧ ∀ i, (ps' i).Uses (P i) R := by
  induction h with
  | nil => exact ⟨by simp, hps⟩
  | @move l ps' s' s'' i c k x _ hi _ ih =>
    obtain ⟨hl, hps'⟩ := ih
    have huses := hps' i
    rw [hi] at huses
    refine ⟨fun m hm => ?_, fun j => ?_⟩
    · rcases List.mem_append.mp hm with hm | hm
      · exact hl m hm
      · obtain rfl := List.mem_singleton.mp hm
        exact huses.1
    · by_cases hj : j = i
      · subst hj
        rw [Function.update_self]
        exact huses.2 x
      · rw [Function.update_of_ne hj]
        exact hps' j

/-- **Invariance.** What every call of the threads keeps is kept by the pool. -/
theorem Interleaving.invariant {P : ι → S.Call → Prop} {R : ε → Prop} {I : σ → Prop}
    (h : Interleaving K ps s l ps' s') (hps : ∀ i, (ps i).Uses (P i) R)
    (hI : ∀ i c s x s', P i c → I s → K.post c s x s' → I s') (hs : I s) :
    I s' ∧ ∀ m ∈ l, I m.before := by
  induction h with
  | nil => exact ⟨hs, by simp⟩
  | @move l ps' s' s'' i c k x h hi hx ih =>
    obtain ⟨hs', hl⟩ := ih
    have huses := (h.uses hps).2 i
    rw [hi] at huses
    refine ⟨hI i c s' x s'' huses.1 hs' hx, fun m hm => ?_⟩
    rcases List.mem_append.mp hm with hm | hm
    · exact hl m hm
    · obtain rfl := List.mem_singleton.mp hm
      exact hs'

/-- Every move does what its call can do. -/
theorem Interleaving.post (h : Interleaving K ps s l ps' s') :
    ∀ m ∈ l, ∃ s'', K.post m.call m.before m.ret s'' := by
  induction h with
  | nil => simp
  | move _ _ hx ih =>
    intro m hm
    rcases List.mem_append.mp hm with hm | hm
    · exact ih m hm
    · obtain rfl := List.mem_singleton.mp hm
      exact ⟨_, hx⟩

/-- **Progress.** A preorder that every move respects leads from the start to the end, and on from
each move. -/
theorem Interleaving.progress {R : σ → σ → Prop} (hrefl : ∀ s, R s s)
    (htrans : ∀ s₁ s₂ s₃, R s₁ s₂ → R s₂ s₃ → R s₁ s₃) (h : Interleaving K ps s l ps' s')
    (hl : ∀ m ∈ l, ∀ s'', K.post m.call m.before m.ret s'' → R m.before s'') :
    R s s' ∧ ∀ m ∈ l, R m.before s' ∧ ∃ s'', K.post m.call m.before m.ret s'' ∧ R s'' s' := by
  induction h with
  | nil => exact ⟨hrefl s, by simp⟩
  | @move l ps' s' s'' i c k x h hi hx ih =>
    obtain ⟨hs, hbefore⟩ := ih fun m hm => hl m (List.mem_append_left _ hm)
    have hlast : R s' s'' := hl ⟨⟨s', c, x⟩, i⟩ (by simp) s'' hx
    refine ⟨htrans _ _ _ hs hlast, fun m hm => ?_⟩
    rcases List.mem_append.mp hm with hm | hm
    · obtain ⟨hfrom, s₁, hpost, hto⟩ := hbefore m hm
      exact ⟨htrans _ _ _ hfrom hlast, s₁, hpost, htrans _ _ _ hto hlast⟩
    · obtain rfl := List.mem_singleton.mp hm
      exact ⟨hlast, s'', hx, hrefl s''⟩

/-- The moves before one lead to the state it was made in. -/
theorem Interleaving.split {l₁ l₂ : List (Move ι S σ)} {m : Move ι S σ}
    (h : Interleaving K ps s (l₁ ++ m :: l₂) ps' s') :
    ∃ ps'', Interleaving K ps s l₁ ps'' m.before := by
  generalize hl : l₁ ++ m :: l₂ = l at h
  induction h generalizing l₂ with
  | nil => simp at hl
  | @move l ps' s' s'' i c k x h hi hx ih =>
    rcases List.eq_nil_or_concat l₂ with rfl | ⟨l₃, m', rfl⟩
    · obtain ⟨rfl, hm⟩ := List.append_inj' hl rfl
      obtain rfl := List.singleton_inj.mp hm
      exact ⟨ps', h⟩
    · rw [List.concat_eq_append, ← List.cons_append, ← List.append_assoc] at hl
      exact ih (List.append_inj_left' hl rfl)

/-- **Since.** What holds at a move and is kept by it and by those after it holds at the end. -/
theorem Interleaving.since {P : σ → Prop} {l₁ l₂ : List (Move ι S σ)} {q : Move ι S σ}
    (h : Interleaving K ps s (l₁ ++ q :: l₂) ps' s') (hq : P q.before)
    (hkeep : ∀ m ∈ q :: l₂, ∀ s'', P m.before → K.post m.call m.before m.ret s'' → P s'') :
    P s' := by
  generalize hl : l₁ ++ q :: l₂ = l at h
  induction h generalizing l₂ with
  | nil => simp at hl
  | @move l ps' s' s'' i c k x h hi hx ih =>
    rcases List.eq_nil_or_concat l₂ with rfl | ⟨l₃, m, rfl⟩
    · obtain ⟨rfl, hm⟩ := List.append_inj' hl rfl
      obtain rfl := List.singleton_inj.mp hm
      exact hkeep _ List.mem_cons_self s'' hq hx
    · rw [List.concat_eq_append] at hkeep hl
      rw [← List.cons_append, ← List.append_assoc] at hl
      obtain ⟨rfl, hm⟩ := List.append_inj' hl rfl
      obtain rfl := List.singleton_inj.mp hm
      have hbefore := ih (fun m hm => hkeep m (List.mem_append_left [_] hm)) rfl
      exact hkeep ⟨⟨s', c, x⟩, i⟩ (by simp) s'' hbefore hx

/-! ## What one thread knows -/

/-- A call may be answered in any way that `A` allows. -/
def Contract.blind (A : (c : S.Call) → S.Ret c → Prop) : Contract S Unit where
  pre _ _ := True
  post c _ x _ := A c x

/-- The answers a call can get where `J` holds. -/
def Contract.answers (K : Contract S σ) (J : σ → Prop) (c : S.Call) (x : S.Ret c) : Prop :=
  ∃ s s', J s ∧ K.post c s x s'

theorem Contract.answers_mono {K : Contract S σ} {J J' : σ → Prop} (h : ∀ s, J s → J' s)
    {c : S.Call} {x : S.Ret c} : K.answers J c x → K.answers J' c x := fun ⟨s, s', hs, hx⟩ =>
  ⟨s, s', h s hs, hx⟩

theorem Interleaving.answers {J : σ → Prop} (h : Interleaving K ps s l ps' s')
    (hJ : ∀ m ∈ l, J m.before) : ∀ m ∈ l, K.answers J m.call m.ret := fun m hm =>
  (h.post m hm).elim fun s'' hx => ⟨m.before, s'', hJ m hm, hx⟩

/-- Only the calls in `P` may be made, and they are answered as `A` allows. -/
def Contract.guarding (P : S.Call → Prop) (A : (c : S.Call) → S.Ret c → Prop) :
    Contract S Unit where
  pre c _ := P c
  post c _ x _ := A c x

/-- **Assumption and guarantee.** An invariant is kept if every thread, as long as its calls are
answered from states where it holds, only makes calls that keep it. -/
theorem Interleaving.guaranteed {P : ι → S.Call → Prop} {I : σ → Prop} {Q : ι → α → Unit → Prop}
    {E : ι → ε → Unit → Prop} (h : Interleaving K ps s l ps' s')
    (hps : ∀ i, wp (Contract.guarding (P i) (K.answers I)) (ps i) (Q i) (E i) ())
    (hI : ∀ i c s x s', P i c → I s → K.post c s x s' → I s') (hs : I s) :
    I s' ∧ (∀ m ∈ l, I m.before) ∧
      ∀ i, wp (Contract.guarding (P i) (K.answers I)) (ps' i) (Q i) (E i) () := by
  induction h with
  | nil => exact ⟨hs, by simp, hps⟩
  | @move l ps' s' s'' i c k x h hi hx ih =>
    obtain ⟨hs', hl, hwp⟩ := ih
    have hcall := hwp i
    rw [hi] at hcall
    refine ⟨hI i c s' x s'' hcall.1 hs' hx, fun m hm => ?_, fun j => ?_⟩
    · rcases List.mem_append.mp hm with hm | hm
      · exact hl m hm
      · obtain rfl := List.mem_singleton.mp hm
        exact hs'
    · by_cases hj : j = i
      · subst hj
        rw [Function.update_self]
        exact hcall.2 x () ⟨s', s'', hs', hx⟩
      · rw [Function.update_of_ne hj]
        exact hwp j

/-- The calls of one thread and their answers. -/
def own (i : ι) (l : List (Move ι S σ)) : List (Event S Unit) :=
  (l.filter (·.thread = i)).map fun m => ⟨(), m.call, m.ret⟩

theorem own_append (i : ι) (l l' : List (Move ι S σ)) : own i (l ++ l') = own i l ++ own i l' := by
  simp [own]

theorem own_singleton_self (i : ι) (e : Event S σ) :
    own i [(⟨e, i⟩ : Move ι S σ)] = [⟨(), e.call, e.ret⟩] := by
  simp [own]

theorem own_singleton_other {i j : ι} (h : j ≠ i) (e : Event S σ) :
    own j [(⟨e, i⟩ : Move ι S σ)] = [] := by
  simp [own, Ne.symm h]

theorem mem_own {i : ι} {e : Event S Unit} :
    e ∈ own i l ↔ ∃ m ∈ l, m.thread = i ∧ (⟨(), m.call, m.ret⟩ : Event S Unit) = e := by
  simp [own, and_assoc]

/-- Where a thread's record of its calls can be cut, so can the moves of the pool. -/
theorem own_split {i : ι} {keep : Event S Unit → Bool} {t₁ t₂ : List (Event S Unit)}
    {e : Event S Unit} (h : (own i l).filter keep = t₁ ++ e :: t₂) :
    ∃ l₁ q l₂, l = l₁ ++ q :: l₂ ∧ q.thread = i ∧ (⟨(), q.call, q.ret⟩ : Event S Unit) = e ∧
      (own i l₂).filter keep = t₂ := by
  obtain ⟨r₁, r₂, hown, -, hr₂⟩ := List.filter_eq_append_iff.mp h
  obtain ⟨r₃, r₄, rfl, -, -, rfl⟩ := List.filter_eq_cons_iff.mp hr₂
  rw [← List.append_assoc] at hown
  obtain ⟨m₁, m₂, hmoves, -, hm₂⟩ := List.map_eq_append_iff.mp hown
  obtain ⟨q, m₃, rfl, hq, rfl⟩ := List.map_eq_cons_iff.mp hm₂
  obtain ⟨l₁, l₂, rfl, -, hl₂⟩ := List.filter_eq_append_iff.mp hmoves
  obtain ⟨l₃, l₄, rfl, -, hthread, rfl⟩ := List.filter_eq_cons_iff.mp hl₂
  exact ⟨l₁ ++ l₃, q, l₄, by simp, by simpa using hthread, hq, rfl⟩

variable {A : (c : S.Call) → S.Ret c → Prop} {keep : Event S Unit → Bool}
  {Q : α → Unit × List (Event S Unit) → Prop} {E : ε → Unit × List (Event S Unit) → Prop}

/-- **Judging a thread.** What holds of a program however its calls are answered holds of a thread
that runs it in a pool, beside a record of the thread's own calls. -/
theorem Interleaving.judged {i : ι} (h : Interleaving K ps s l ps' s')
    (hA : ∀ m ∈ l, A m.call m.ret)
    (hwp : wp ((Contract.blind A).recording keep) (ps i) Q E ((), [])) :
    wp ((Contract.blind A).recording keep) (ps' i) Q E ((), (own i l).filter keep) := by
  induction h with
  | nil => exact hwp
  | @move l ps' s' s'' j c k x h hj hx ih =>
    have hl := ih fun m hm => hA m (List.mem_append_left _ hm)
    rw [own_append]
    by_cases hi : i = j
    · subst hi
      rw [hj] at hl
      rw [Function.update_self, own_singleton_self, List.filter_append]
      exact hl.2 x _ ⟨hA _ (List.mem_append_right _ (List.mem_singleton_self _)), rfl⟩
    · rw [Function.update_of_ne hi, own_singleton_other hi, List.append_nil]
      exact hl

/-- What holds at the end of a thread. -/
theorem Interleaving.finished {i : ι} {a : α} (h : Interleaving K ps s l ps' s')
    (hA : ∀ m ∈ l, A m.call m.ret)
    (hwp : wp ((Contract.blind A).recording keep) (ps i) Q E ((), [])) (hi : ps' i = .pure a) :
    Q a ((), (own i l).filter keep) := by
  have := h.judged hA hwp
  rwa [hi] at this

end Moves

/-- What holds of every complete record, and of a record if it holds of a longer one, holds of the
record so far. -/
theorem of_wp_recording {A : (c : S.Call) → S.Ret c → Prop} {keep : Event S Unit → Bool}
    {I : List (Event S Unit) → Prop} (hA : ∀ c, ∃ x, A c x)
    (hI : ∀ l l', I (l ++ l') → I l) {p : Program S ε α} {l : List (Event S Unit)}
    (h : wp ((Contract.blind A).recording keep) p (fun _ s => I s.2) (fun _ s => I s.2) ((), l)) :
    I l := by
  induction p generalizing l with
  | pure a => exact h
  | raise e => exact h
  | call c k ih =>
    obtain ⟨x, hx⟩ := hA c
    exact hI _ _ (ih x (h.2 x _ ⟨hx, rfl⟩))

namespace Machine

variable [DecidableEq ι] {M : Machine S F σ} {ps₀ ps : ι → Program S ε α} {s₀ s : σ}

/-- Let the threads move in the given order, each call meeting its fate. A thread that has ended
is passed over. -/
def interleave (M : Machine S F σ) :
    List (ι × F) → (ι → Program S ε α) → σ → List (Move ι S σ) × (ι → Program S ε α) × σ
  | [], ps, s => ([], ps, s)
  | (i, f) :: order, ps, s =>
    match ps i with
    | .call c k =>
      let r := M.interleave order (Function.update ps i (k (M.step c f s).1)) (M.step c f s).2
      (⟨⟨s, c, (M.step c f s).1⟩, i⟩ :: r.1, r.2)
    | .pure _ | .raise _ => M.interleave order ps s

/-- **Playing a schedule is interleaving.** -/
theorem interleaving_interleave {A : (c : S.Call) → F → σ → Prop} {l : List (Move ι S σ)}
    {order : List (ι × F)} (horder : ∀ o ∈ order, ∀ c s, A c o.2 s)
    (h : Interleaving (M.contract A) ps₀ s₀ l ps s) :
    Interleaving (M.contract A) ps₀ s₀ (l ++ (M.interleave order ps s).1)
      (M.interleave order ps s).2.1 (M.interleave order ps s).2.2 := by
  induction order generalizing l ps s with
  | nil =>
    rw [interleave, List.append_nil]
    exact h
  | cons o order ih =>
    obtain ⟨i, f⟩ := o
    have hrest : ∀ o ∈ order, ∀ c s, A c o.2 s := fun o ho => horder o (List.mem_cons_of_mem _ ho)
    cases hi : ps i with
    | pure a =>
      rw [interleave, hi]
      exact ih hrest h
    | raise e =>
      rw [interleave, hi]
      exact ih hrest h
    | call c k =>
      rw [interleave, hi]
      have hmove := Interleaving.move h hi ⟨f, horder (i, f) List.mem_cons_self c s, rfl⟩
      have := ih hrest hmove
      rwa [List.append_assoc, List.singleton_append] at this

end Machine

end Effects
