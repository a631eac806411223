import CrossingReality.Effects.Machine

/-!
# Sessions

A session runs one program after another, each to its end, on the state the one before left. The
turns it is made of are its history, oldest first. A law about histories is an invariant of the
turns so far and the state they led to.
-/

namespace Effects

variable {S : Signature} {σ ε α A F : Type}

/-- One program run to its end: what it was run for, where it started, the calls it made, how it
ended and what it left behind. -/
structure Turn (S : Signature) (σ ε α A : Type) where
  action : A
  before : σ
  trace : List (Event S σ)
  outcome : Except ε α
  after : σ

/-- `Session K prog s ts s'`: under `K`, the turns `ts` lead from `s` to `s'`. -/
inductive Session (K : Contract S σ) (prog : A → Program S ε α) (s : σ) :
    List (Turn S σ ε α A) → σ → Prop
  | nil : Session K prog s [] s
  | snoc {ts : List (Turn S σ ε α A)} {t : Turn S σ ε α A} : Session K prog s ts t.before →
      Runs K (prog t.action) t.before t.trace t.outcome t.after →
      Session K prog s (ts ++ [t]) t.after

variable {K : Contract S σ} {prog : A → Program S ε α} {s s' : σ}
  {ts : List (Turn S σ ε α A)}

/-- **Invariance.** What holds at the start and is kept by every turn meeting the condition `C`
holds after any number of such turns. -/
theorem Session.invariant {I : List (Turn S σ ε α A) → σ → Prop} {C : Turn S σ ε α A → Prop}
    (h : Session K prog s ts s') (hC : ∀ t ∈ ts, C t) (hnil : I [] s)
    (hsnoc : ∀ ts t, I ts t.before → C t →
      Runs K (prog t.action) t.before t.trace t.outcome t.after → I (ts ++ [t]) t.after) :
    I ts s' := by
  induction h with
  | nil => exact hnil
  | @snoc ts t _ hrun ih =>
    have hts : ∀ u ∈ ts, C u := fun u hu => hC u (List.mem_append_left _ hu)
    exact hsnoc ts t (ih hts) (hC t (by simp)) hrun

/-- A turn of a session is an execution, and the turns before it are a session. -/
theorem Session.split {ts₁ ts₂ : List (Turn S σ ε α A)} {t : Turn S σ ε α A}
    (h : Session K prog s (ts₁ ++ t :: ts₂) s') :
    Session K prog s ts₁ t.before ∧
      Runs K (prog t.action) t.before t.trace t.outcome t.after := by
  generalize hts : ts₁ ++ t :: ts₂ = ts at h
  induction h generalizing ts₂ with
  | nil => simp at hts
  | snoc h hrun ih =>
    rcases List.eq_nil_or_concat ts₂ with rfl | ⟨ts₃, u, rfl⟩
    · obtain ⟨rfl, ht⟩ := List.append_inj' hts rfl
      obtain rfl := List.singleton_inj.mp ht
      exact ⟨h, hrun⟩
    · rw [List.concat_eq_append, ← List.cons_append, ← List.append_assoc] at hts
      exact ih (List.append_inj_left' hts rfl)

namespace Machine

/-- The turn in which `prog a` is run on `s`, its calls meeting the given fates. -/
def turn (M : Machine S F σ) (d : F) (prog : A → Program S ε α) (a : A) (fates : List F) (s : σ) :
    Turn S σ ε α A where
  action := a
  before := s
  trace := (M.play d (prog a) fates s).1
  outcome := (M.play d (prog a) fates s).2.1
  after := (M.play d (prog a) fates s).2.2

/-- The turns of a list of actions, each with the fates of its calls. -/
def turns (M : Machine S F σ) (d : F) (prog : A → Program S ε α) :
    List (A × List F) → σ → List (Turn S σ ε α A)
  | [], _ => []
  | (a, fates) :: as, s =>
    M.turn d prog a fates s :: M.turns d prog as (M.turn d prog a fates s).after

/-- The state they lead to. -/
def endOf (M : Machine S F σ) (d : F) (prog : A → Program S ε α) (as : List (A × List F))
    (s : σ) : σ :=
  as.foldl (fun s a => (M.turn d prog a.1 a.2 s).after) s

theorem turns_append (M : Machine S F σ) (d : F) (prog : A → Program S ε α)
    (as bs : List (A × List F)) (s : σ) :
    M.turns d prog (as ++ bs) s =
      M.turns d prog as s ++ M.turns d prog bs (M.endOf d prog as s) := by
  induction as generalizing s with
  | nil => rfl
  | cons a as ih => exact congrArg (_ :: ·) (ih _)

/-- **Playing in turn is a session.** -/
theorem session_turns {M : Machine S F σ} {allowed : (c : S.Call) → F → σ → Prop} {d : F}
    {prog : A → Program S ε α} {as : List (A × List F)} (hd : ∀ c s, allowed c d s)
    (has : ∀ a ∈ as, ∀ f ∈ a.2, ∀ c s, allowed c f s) {s₀ s : σ} {ts : List (Turn S σ ε α A)}
    (h : Session (M.contract allowed) prog s₀ ts s) :
    Session (M.contract allowed) prog s₀ (ts ++ M.turns d prog as s) (M.endOf d prog as s) := by
  induction as generalizing s ts with
  | nil =>
    rw [turns, List.append_nil]
    exact h
  | cons a as ih =>
    have hrun := runs_play (M := M) (p := prog a.1) (s := s) hd (has a List.mem_cons_self)
    have hnext := Session.snoc (t := M.turn d prog a.1 a.2 s) h hrun
    have := ih (fun b hb => has b (List.mem_cons_of_mem a hb)) hnext
    rwa [List.append_assoc, List.singleton_append] at this

end Machine

end Effects
