import Mathlib.Logic.Basic
import Mathlib.Tactic.Common

/-!
# Programs that make calls

A program over a signature `S` is the tree of the calls it may make: at every node the call, and
one subtree for each value the call can give back. The tree says nothing about what a call does.
That is left to whoever runs it, so one and the same program can be run alone, with calls that
fail, or interleaved with others.

An unchecked exception is a leaf of its own (`raise`). Sequencing stops there.
-/

namespace Effects

/-- The calls of an interface, and what each gives back. -/
structure Signature where
  /-- The calls. -/
  Call : Type
  /-- The type of what a call gives back. -/
  Ret : Call → Type

/-- Programs with exceptions in `ε` and results in `α`. -/
inductive Program (S : Signature) (ε α : Type) where
  | pure (a : α)
  | raise (e : ε)
  | call (c : S.Call) (k : S.Ret c → Program S ε α)

namespace Program

variable {S : Signature} {ε α β γ : Type}

/-- Sequencing: `p`, then `f` on its result. -/
def bind : Program S ε α → (α → Program S ε β) → Program S ε β
  | .pure a, f => f a
  | .raise e, _ => .raise e
  | .call c k, f => .call c fun x => (k x).bind f

instance : Monad (Program S ε) where
  pure := .pure
  bind := .bind

/-- The program that makes one call and gives back its result. -/
def lift (c : S.Call) : Program S ε (S.Ret c) := .call c .pure

/-! ## The monad laws -/

theorem bind_pure_right (p : Program S ε α) : p.bind .pure = p := by
  induction p with
  | pure a => rfl
  | raise e => rfl
  | call c k ih => exact congrArg (Program.call c) (funext ih)

theorem bind_assoc' (p : Program S ε α) (f : α → Program S ε β) (g : β → Program S ε γ) :
    (p.bind f).bind g = p.bind fun a => (f a).bind g := by
  induction p with
  | pure a => rfl
  | raise e => rfl
  | call c k ih => exact congrArg (Program.call c) (funext ih)

instance : LawfulMonad (Program S ε) :=
  LawfulMonad.mk' _ bind_pure_right (fun _ _ => rfl) bind_assoc'

/-! ## Which calls a program makes -/

/-- Every call the program may make, whatever the calls before it gave back, satisfies `P`, and
every exception it may raise satisfies `R`. -/
def Uses (P : S.Call → Prop) (R : ε → Prop) : Program S ε α → Prop
  | .pure _ => True
  | .raise e => R e
  | .call c k => P c ∧ ∀ x, (k x).Uses P R

variable {P P' : S.Call → Prop} {R R' : ε → Prop}

@[simp] theorem uses_pure (a : α) : (Pure.pure a : Program S ε α).Uses P R := trivial

@[simp] theorem uses_raise (e : ε) : (.raise e : Program S ε α).Uses P R ↔ R e := Iff.rfl

@[simp] theorem uses_lift (c : S.Call) : (lift c : Program S ε _).Uses P R ↔ P c :=
  ⟨fun h => h.1, fun h => ⟨h, fun _ => trivial⟩⟩

@[simp] theorem uses_lift_bind (c : S.Call) (f : S.Ret c → Program S ε β) :
    (lift c >>= f).Uses P R ↔ P c ∧ ∀ x, (f x).Uses P R := Iff.rfl

@[simp] theorem uses_map (p : Program S ε α) (f : α → β) : (f <$> p).Uses P R ↔ p.Uses P R := by
  induction p with
  | pure a => exact Iff.rfl
  | raise e => exact Iff.rfl
  | call c k ih => exact and_congr_right fun _ => forall_congr' ih

theorem uses_ite (b : Prop) [Decidable b] {p q : Program S ε α} (hp : p.Uses P R)
    (hq : q.Uses P R) : (if b then p else q).Uses P R := by
  split
  · exact hp
  · exact hq

theorem Uses.mono {p : Program S ε α} (h : p.Uses P R) (hP : ∀ c, P c → P' c)
    (hR : ∀ e, R e → R' e) : p.Uses P' R' := by
  induction p with
  | pure a => trivial
  | raise e => exact hR e h
  | call c k ih => exact ⟨hP c h.1, fun x => ih x (h.2 x)⟩

theorem Uses.bind {p : Program S ε α} {f : α → Program S ε β} (hp : p.Uses P R)
    (hf : ∀ a, (f a).Uses P R) : (p >>= f).Uses P R := by
  induction p with
  | pure a => exact hf a
  | raise e => exact hp
  | call c k ih => exact ⟨hp.1, fun x => ih x (hp.2 x)⟩

end Program

end Effects
