import CrossingReality.Effects.Plan
import CrossingReality.Tidiness

/-!
# Borrowing connections

As long as no statement throws, which connections a method opens and which of them it never closes
depends on the tables, the selections and the answers to its attempts to connect. A plan says how.
Here are the contract such a plan is checked under and the rules for what the methods are made of.

* `lending` — the contract: statements go through, attempts to connect are recorded.
* `Leases` — a program follows a plan, `Loses` — it ends with more connections open than before.
* `Leases.ask`, `Leases.bind`, `Leases.lookUp` — the rules.
-/

namespace CrossingReality

open Effects

/-! ## Rules -/

/-- The calls that can throw without ending a method: all but the statements. -/
def connecting : Call → Prop
  | .createStatement _ | .executeQuery _ _ | .fetch _ | .executeUpdate _ _ => False
  | _ => True

/-- The contract the methods are judged under: statements go through, and the attempts to connect
are recorded. -/
abbrev lending (col : Collation) : Contract calls (World × List (Event calls World)) :=
  (under col connecting).recording noted

section Rules

variable {α ρ : Type} {col : Collation} {w : World} {t : List (Event calls World)}
  {E : Exn → World × List (Event calls World) → Prop}

/-- A part that makes no database call leaves the record as it is. -/
theorem wp_lending_offline {p : Panel α} {R : Exn → Prop}
    {Q : α → World × List (Event calls World) → Prop}
    (hp : p.Uses (fun c : Call => ¬ c.isJdbc) R)
    (h : wp (under col connecting) p (fun a w' => Q a (w', t)) (fun e w' => E e (w', t)) w) :
    wp (lending col) p Q E (w, t) := by
  refine wp_recording_of_dull hp ?_ h
  rintro ⟨w, c, x⟩ hc
  cases c <;> first | rfl | exact absurd trivial hc

theorem wp_lending_steady {c : Call} {x : c.Ret} {w' : World}
    {Q : c.Ret → World × List (Event calls World) → Prop} (h : ∀ f, step col c f w = (x, w'))
    (hc : ¬ c.isJdbc) : wp (lending col) (call c) Q E (w, t) ↔ Q x (w', t) := by
  have hdull : noted ⟨w, c, x⟩ = false := by
    cases c <;> first | rfl | exact absurd trivial hc
  rw [wp_call_recording]
  constructor
  · intro hq
    have := hq .fine (by simp [Fate.fine])
    simpa [h, hdull] using this
  · intro hq f _
    simpa [h, hdull] using hq

@[simp] theorem wp_lending_appendToOutput (m : Message)
    {Q : Unit → World × List (Event calls World) → Prop} :
    wp (lending col) (appendToOutput m) Q E (w, t) ↔ Q () (w.quietly (w.traffic.say m), t) :=
  wp_lending_steady (c := .append m) (fun _ => rfl) fun h => h

@[simp] theorem wp_lending_getText (f : TextField)
    {Q : String → World × List (Event calls World) → Prop} :
    wp (lending col) (getText f) Q E (w, t) ↔ Q (w.text f) (w, t) :=
  wp_lending_steady (c := .getText f) (fun _ => rfl) fun h => h

@[simp] theorem wp_lending_setText (f : TextField) (s : String)
    {Q : Unit → World × List (Event calls World) → Prop} :
    wp (lending col) (setText f s) Q E (w, t) ↔
      Q () (w.redrawn (Function.update w.text f s) w.combo w.traffic, t) :=
  wp_lending_steady (c := .setText f s) (fun _ => rfl) fun h => h

@[simp] theorem wp_lending_getSelectedItem (b : ComboBox)
    {Q : Option String → World × List (Event calls World) → Prop} :
    wp (lending col) (getSelectedItem b) Q E (w, t) ↔ Q (w.combo b).selected (w, t) :=
  wp_lending_steady (c := .getSelectedItem b) (fun _ => rfl) fun h => h

@[simp] theorem wp_lending_isSelected (b : CheckBox)
    {Q : Bool → World × List (Event calls World) → Prop} :
    wp (lending col) (isSelected b) Q E (w, t) ↔ Q (w.checked b) (w, t) :=
  wp_lending_steady (c := .isSelected b) (fun _ => rfl) fun h => h

@[simp] theorem wp_lending_setSelected (b : CheckBox) (v : Bool)
    {Q : Unit → World × List (Event calls World) → Prop} :
    wp (lending col) (setSelected b v) Q E (w, t) ↔ Q () (w.setSelected b v, t) :=
  wp_lending_steady (c := .setSelected b v) (fun _ => rfl) fun h => h

@[simp] theorem wp_lending_respond (r : Response)
    {Q : Unit → World × List (Event calls World) → Prop} :
    wp (α := Unit) (lending col) (call (.respond r)) Q E (w, t) ↔
      Q () ({ w with responses := w.responses ++ [r] }, t) :=
  wp_lending_steady (c := .respond r) (fun _ => rfl) fun h => h

/-! ### Statements -/

/-- A call that cannot throw here, and is not worth recording. -/
theorem wp_lending_statement {c : Call} {Q : c.Ret → World × List (Event calls World) → Prop}
    (hc : ¬ connecting c) {x : c.Ret} {w' : World}
    (h : ∀ f : Fate, f.fails = false → step col c f w = (x, w'))
    (hdull : noted ⟨w, c, x⟩ = false) :
    wp (lending col) (call c) Q E (w, t) ↔ Q x (w', t) := by
  rw [wp_call_recording]
  constructor
  · intro hq
    have := hq .fine (by simp [Fate.fine])
    simpa [h .fine rfl, hdull] using this
  · intro hq f hf
    have hfine : f.fails = false := by
      cases hfails : f.fails with
      | false => rfl
      | true => exact absurd (hf hfails) hc
    simpa [h f hfine, hdull] using hq

@[simp] theorem wp_lending_createStatement (c : Connection)
    {Q : Bool → World × List (Event calls World) → Prop} :
    wp (α := Bool) (lending col) (call (.createStatement c)) Q E (w, t) ↔ Q true (w, t) :=
  wp_lending_statement (c := .createStatement c) (x := true) id (fun f hf => by simp [step, hf]) rfl

@[simp] theorem wp_lending_fetch (c : Connection)
    {Q : Bool → World × List (Event calls World) → Prop} :
    wp (α := Bool) (lending col) (call (.fetch c)) Q E (w, t) ↔ Q true (w, t) :=
  wp_lending_statement (c := .fetch c) (x := true) id (fun f hf => by simp [step, hf]) rfl

@[simp] theorem wp_lending_call_executeQuery (c : Connection) (q : Query)
    {Q : Option (List q.Row) → World × List (Event calls World) → Prop} :
    wp (α := Option (List q.Row)) (lending col) (call (.executeQuery c q)) Q E (w, t) ↔
      Q (some (q.run col (w.servers c.url))) (w, t) :=
  wp_lending_statement (c := .executeQuery c q) (x := some (q.run col (w.servers c.url))) id
    (fun f hf => by simp [step, hf]) rfl

@[simp] theorem wp_lending_executeQuery (c : Connection) (q : Query) (m : Message)
    {Q : Option (List q.Row) → World × List (Event calls World) → Prop} :
    wp (lending col) (executeQuery c q m) Q E (w, t) ↔
      Q (some (q.run col (w.servers c.url))) (w, t) := by
  simp [executeQuery]

@[simp] theorem wp_lending_executeUpdate (c : Connection) (u : Update) (m : Message)
    {Q : Bool → World × List (Event calls World) → Prop} :
    wp (lending col) (executeUpdate c u m) Q E (w, t) ↔ Q true (w.update col c.url u, t) := by
  rw [executeUpdate, wp_bind]
  have hstep : ∀ f : Fate, f.fails = false →
      step col (.executeUpdate c u) f w = (true, w.update col c.url u) := fun f hf => by
    simp [step, hf]
  exact wp_lending_statement (c := .executeUpdate c u) id hstep rfl

@[simp] theorem wp_lending_firstRow (c : Connection) (rows : List ρ)
    {Q : Option ρ → World × List (Event calls World) → Prop} :
    wp (lending col) (firstRow c rows) Q E (w, t) ↔ Q rows.head? (w, t) := by
  simp [firstRow]

@[simp] theorem wp_lending_readRows {β : Type} (c : Connection) (column : ρ → β) (rows : List ρ)
    {Q : Option (List β) → World × List (Event calls World) → Prop} :
    wp (lending col) (readRows c column rows) Q E (w, t) ↔ Q (some (rows.map column)) (w, t) := by
  have hwhile : ∀ (rows : List ρ) (acc : List β)
      {Q : Option (List β) → World × List (Event calls World) → Prop},
      wp (lending col) (whileNext c (fun acc row => pure (acc ++ [column row])) rows acc) Q E
        (w, t) ↔ Q (some (acc ++ rows.map column)) (w, t) := by
    intro rows
    induction rows with
    | nil => simp [whileNext]
    | cons row rows ih => simp [whileNext, ih]
  simp [readRows, hwhile]

end Rules

/-! ## Attempts to connect -/

section Connects

variable {α : Type} {col : Collation} {w : World} {t : List (Event calls World)}

theorem wp_lending_forName {Q : Bool → World × List (Event calls World) → Prop}
    {E : Exn → World × List (Event calls World) → Prop} (htrue : Q true (w, t))
    (hfalse : ∀ e, answers [e] = [false] → Q false (w, t ++ [e])) :
    wp (α := Bool) (lending col) (call .forName) Q E (w, t) := by
  rw [wp_call_recording]
  rintro ⟨fails, r⟩ -
  cases fails with
  | false => simpa [step, noted, broken, Call.broke, Call.answer] using htrue
  | true => exact hfalse _ rfl

theorem wp_lending_getConnection
    {Q : Option Connection → World × List (Event calls World) → Prop}
    {E : Exn → World × List (Event calls World) → Prop}
    (hnone : ∀ e, answers [e] = [false] → Q none (w, t ++ [e]))
    (hsome : ∀ c e, w.mysql .mysqlAddress = some c.url → c.handle = w.nextHandle →
      answers [e] = [true] → Q (some c) (w.quietly w.traffic.opened, t ++ [e])) :
    wp (α := Option Connection) (lending col) (call .getConnection) Q E (w, t) := by
  rw [wp_call_recording]
  rintro ⟨fails, r⟩ -
  have hnoted : ∀ k : Option Connection,
      [(⟨w, .getConnection, k⟩ : Event calls World)].filter noted = [⟨w, .getConnection, k⟩] :=
    fun k => rfl
  rw [hnoted]
  cases hw : w.mysql .mysqlAddress with
  | none =>
    have hstep : step col .getConnection ⟨fails, r⟩ w = (none, w) := by simp [step, hw]
    rw [hstep]
    exact hnone _ rfl
  | some url =>
    cases fails with
    | true =>
      have hstep : step col .getConnection ⟨true, r⟩ w = (none, w) := by simp [step, hw]
      rw [hstep]
      exact hnone _ rfl
    | false =>
      have hstep : step col .getConnection ⟨false, r⟩ w =
          (some ⟨w.nextHandle, url⟩, w.quietly w.traffic.opened) := by
        simp [step, hw, World.quietly, World.traffic, Traffic.opened]
      rw [hstep]
      exact hsome _ _ hw rfl rfl

/-- One attempt to connect, refused or not. -/
theorem wp_lending_openStatement {m : Message}
    {Q : Option Connection → World × List (Event calls World) → Prop}
    {E : Exn → World × List (Event calls World) → Prop}
    (hnone : ∀ q e, q.openHandles = w.openHandles → q.nextHandle = w.nextHandle →
      answers [e] = [false] → Q none (w.quietly q, t ++ [e]))
    (hsome : ∀ c q e, w.mysql .mysqlAddress = some c.url → c.handle = w.nextHandle →
      q.openHandles = w.nextHandle :: w.openHandles → q.nextHandle = w.nextHandle + 1 →
        answers [e] = [true] → Q (some c) (w.quietly q, t ++ [e])) :
    wp (lending col) (openStatement m) Q E (w, t) := by
  simp only [openStatement, wp_bind]
  refine wp_lending_forName ?_ fun e he => ?_
  · simp only [Bool.not_true, Bool.false_eq_true, if_false, wp_bind, wp_lending_appendToOutput]
    refine wp_lending_getConnection (fun e he => ?_) fun c e hurl hc he => ?_
    · simp only [wp_bind, wp_lending_appendToOutput, wp_pure]
      exact hnone _ e rfl rfl he
    · simp only [wp_bind, wp_lending_appendToOutput, wp_lending_createStatement, Bool.not_true,
        Bool.false_eq_true, if_false, wp_pure]
      exact hsome c _ e hurl hc rfl rfl he
  · simp only [Bool.not_false, if_true, wp_bind, wp_lending_appendToOutput, wp_pure]
    exact hnone _ e rfl rfl he

/-- The handler's attempt. When it is refused, a response is sent. -/
theorem wp_lending_openForHandler {ex : HttpExchange}
    {Q : Option Connection → World × List (Event calls World) → Prop}
    {E : Exn → World × List (Event calls World) → Prop}
    (hnone : ∀ w' e, w'.openHandles = w.openHandles → answers [e] = [false] →
      Q none (w', t ++ [e]))
    (hsome : ∀ c q e, w.mysql .mysqlAddress = some c.url → c.handle = w.nextHandle →
      q.openHandles = w.nextHandle :: w.openHandles → q.nextHandle = w.nextHandle + 1 →
        answers [e] = [true] → Q (some c) (w.quietly q, t ++ [e])) :
    wp (lending col) (openForHandler ex) Q E (w, t) := by
  simp only [openForHandler, badRequest, wp_bind]
  refine wp_lending_forName ?_ fun e he => ?_
  · simp only [Bool.not_true, Bool.false_eq_true, if_false, wp_bind, wp_lending_appendToOutput]
    refine wp_lending_getConnection (fun e he => ?_) fun c e hurl hc he => ?_
    · simp only [wp_bind, wp_lending_appendToOutput, wp_lending_respond, wp_pure]
      exact hnone _ e rfl he
    · simp only [wp_bind, wp_lending_appendToOutput, wp_lending_createStatement, Bool.not_true,
        Bool.false_eq_true, if_false, wp_pure]
      exact hsome c _ e hurl hc rfl rfl he
  · simp only [Bool.not_false, if_true, wp_bind, wp_lending_appendToOutput, wp_lending_respond,
      wp_pure]
    exact hnone _ e rfl he

theorem wp_lending_close {c : Connection} {Q : Bool → World × List (Event calls World) → Prop}
    {E : Exn → World × List (Event calls World) → Prop}
    (h : ∀ ok, Q ok (w.quietly (w.traffic.closed c), t)) :
    wp (α := Bool) (lending col) (call (.close c)) Q E (w, t) := by
  rw [wp_call_recording]
  intro f _
  have hdull : ∀ ok, [(⟨w, .close c, ok⟩ : Event calls World)].filter noted = [] := fun _ => rfl
  rw [hdull, List.append_nil]
  exact h (!f.fails)

theorem wp_lending_closeConnection {c : Connection}
    {Q : Unit → World × List (Event calls World) → Prop}
    {E : Exn → World × List (Event calls World) → Prop}
    (h : ∀ q, q.openHandles = w.openHandles.erase c.handle → q.nextHandle = w.nextHandle →
      Q () (w.quietly q, t)) : wp (lending col) (closeConnection .cp c) Q E (w, t) := by
  simp only [closeConnection, wp_bind]
  refine wp_lending_close fun ok => (wp_ite _ _ _).mpr ⟨fun _ => ?_, fun _ => h _ rfl rfl⟩
  rw [appendToOutputOf, wp_lending_appendToOutput]
  exact h _ rfl rfl

end Connects

/-! ## Following a plan -/

section Follows

variable {α β γ δ : Type} {col : Collation} {w : World} {base : List Nat}

/-- From the record `t` on the plan was followed: either nothing was kept, and the rest of the plan
is as `Rest` says, or something was. -/
def Follows (P : Plan γ) (base : List Nat) (t : List (Event calls World))
    (Rest : Plan γ → World → Prop) (s : World × List (Event calls World)) : Prop :=
  ∃ l, s.2 = t ++ l ∧
    ((s.1.openHandles = base ∧ ∃ P', P.Leads (answers l) P' ∧ Rest P' s.1) ∨
      ((∃ kept, kept ≠ [] ∧ s.1.openHandles = kept ++ base) ∧ P.keeps (answers l) = true))

/-- Beside the connections in `base` the program follows the plan, and ends as `R` says if it has
kept nothing. -/
def Leases (col : Collation) (base : List Nat) (p : Panel α) (w : World) (P : Plan γ)
    (R : α → γ → World → Prop) : Prop :=
  ∀ t, wp (lending col) p
    (fun a => Follows P base t fun P' w' => ∃ g, P' = .done g ∧ R a g w')
    (fun _ => Follows P base t fun _ _ => True) (w, t)

/-- The program ends with more connections than `base`. -/
def Loses (col : Collation) (base : List Nat) (p : Panel α) (w : World) : Prop :=
  ∀ t, wp (lending col) p
    (fun _ s => ∃ kept, kept ≠ [] ∧ s.1.openHandles = kept ++ base)
    (fun _ s => ∃ kept, kept ≠ [] ∧ s.1.openHandles = kept ++ base) (w, t)

/-- The handles in use are some that were given out. -/
def World.Issued (w : World) : Prop := ∀ h ∈ w.openHandles, h < w.nextHandle

/-- The handles in use stay some that were given out. -/
theorem issued_of_le {q : Traffic} (hw : w.Issued) (hh : w.openHandles = base)
    (hq : q.openHandles = base) (hn : w.nextHandle ≤ q.nextHandle) :
    ∀ n ∈ q.openHandles, n < q.nextHandle := fun n hmem =>
  (hw n (by rwa [hh, ← hq])).trans_le hn

/-- With one more connection open, the handles in use are still some that were given out. -/
theorem issued_of_opened {c : Connection} {q : Traffic} (hw : w.Issued)
    (hh : w.openHandles = base) (hc : c.handle = w.nextHandle)
    (hq : q.openHandles = c.handle :: base) (hn : q.nextHandle = w.nextHandle + 1) :
    ∀ n ∈ q.openHandles, n < q.nextHandle := by
  intro n hmem
  rw [hq] at hmem
  rw [hn]
  rcases List.mem_cons.mp hmem with rfl | hmem
  · exact hc ▸ Nat.lt_succ_self _
  · exact (hw n (hh ▸ hmem)).trans (Nat.lt_succ_self _)

@[simp] theorem answers_append (l l' : List (Event calls World)) :
    answers (l ++ l') = answers l ++ answers l' := List.filterMap_append

/-- What closes nothing that is open keeps what is kept. -/
theorem loses_of_wp_ledger {p : Panel α} {kept : List Nat} (hne : kept ≠ [])
    (hh : w.openHandles = kept ++ base)
    (hp : ∀ t, wp ledger p (fun _ => (ledgerOf (w, t)).Leaves) (fun _ => (ledgerOf (w, t)).Leaves)
      (ledgerOf (w, t))) : Loses col base p w := by
  intro t
  have hfrom : ∀ s : World × List (Event calls World), (ledgerOf (w, t)).Leaves (ledgerOf s) →
      ∃ kept, kept ≠ [] ∧ s.1.openHandles = kept ++ base := by
    rintro s ⟨kept', hs, -⟩
    refine ⟨kept' ++ kept, by simp [hne], ?_⟩
    rw [List.append_assoc, ← hh]
    exact hs
  exact (wp_of_wp_ledger (s := (w, t)) (hp t)).mono (fun _ => hfrom) fun _ => hfrom

theorem Tidy.loses {p : Panel α} (hp : Tidy p) (hw : w.Issued) {kept : List Nat} (hne : kept ≠ [])
    (hh : w.openHandles = kept ++ base) : Loses col base p w :=
  loses_of_wp_ledger hne hh fun t => hp (ledgerOf (w, t)) hw

theorem TidyAfter.loses {p : Panel α} {c : Connection} (hp : TidyAfter c p) (hw : w.Issued)
    {kept : List Nat} (hne : kept ≠ []) (hh : w.openHandles = kept ++ base)
    (hlt : c.handle < w.nextHandle) (hnot : c.handle ∉ w.openHandles) : Loses col base p w :=
  loses_of_wp_ledger hne hh fun t => hp (ledgerOf (w, t)) hw hlt hnot

theorem Loses.follows {p : Panel α} (hp : Loses col base p w) {P : Plan γ}
    {t l : List (Event calls World)} (hk : P.keeps (answers l) = true)
    {Rest : α → Plan γ → World → Prop} {Rest' : Exn → Plan γ → World → Prop} :
    wp (lending col) p (fun a => Follows P base t (Rest a))
      (fun e => Follows P base t (Rest' e)) (w, t ++ l) := by
  have hgrows : wp (lending col) p (fun _ s => t ++ l <+: s.2) (fun _ s => t ++ l <+: s.2)
      (w, t ++ l) := wp_recording_grows (fun _ _ => trivial) p
  have hfrom : ∀ {Rest : Plan γ → World → Prop} (s : World × List (Event calls World)),
      (∃ kept, kept ≠ [] ∧ s.1.openHandles = kept ++ base) → t ++ l <+: s.2 →
        Follows P base t Rest s := by
    rintro Rest s hkept ⟨l', hl'⟩
    refine ⟨l ++ l', by rw [← hl', List.append_assoc], .inr ⟨hkept, ?_⟩⟩
    rw [answers_append]
    exact Plan.keeps_append hk
  exact ((hp (t ++ l)).and hgrows).mono (fun _ s h => hfrom s h.1 h.2) fun _ s h =>
    hfrom s h.1 h.2

theorem Follows.after {P P₁ : Plan γ} {t l : List (Event calls World)}
    {Rest : Plan γ → World → Prop} {s : World × List (Event calls World)}
    (hl : P.Leads (answers l) P₁) (h : Follows P₁ base (t ++ l) Rest s) :
    Follows P base t Rest s := by
  obtain ⟨l', hs, h⟩ := h
  refine ⟨l ++ l', by rw [hs, List.append_assoc], ?_⟩
  rw [answers_append]
  rcases h with ⟨hh, P', hlead, hrest⟩ | ⟨hkept, hk⟩
  · exact .inl ⟨hh, P', hl.trans hlead, hrest⟩
  · exact .inr ⟨hkept, hl.keeps_append.trans hk⟩

theorem Leases.pure {R : α → γ → World → Prop} {a : α} {g : γ} (hh : w.openHandles = base)
    (h : R a g w) : Leases col base (pure a) w (.done g) R :=
  fun t => ⟨[], by simp, .inl ⟨hh, _, .refl _, g, rfl, h⟩⟩

theorem Leases.mono {p : Panel α} {P : Plan γ} {R R' : α → γ → World → Prop}
    (h : Leases col base p w P R) (hR : ∀ a g w', R a g w' → R' a g w') :
    Leases col base p w P R' := by
  refine fun t => (h t).mono ?_ fun _ _ h => h
  rintro a s ⟨l, hs, h⟩
  refine ⟨l, hs, h.imp ?_ id⟩
  rintro ⟨hh, P', hlead, g, rfl, hg⟩
  exact ⟨hh, _, hlead, g, rfl, hR a g s.1 hg⟩

/-- Sequencing, where the rest keeps what the first part has kept. -/
theorem Leases.bind_loses {p : Panel α} {f : α → Panel β} {P : Plan γ} {Q : γ → Plan δ}
    {R : α → γ → World → Prop} {R' : β → δ → World → Prop} (hh : w.openHandles = base)
    (hw : w.Issued) (htp : Tidy p)
    (htf : ∀ a w' kept, kept ≠ [] → w'.openHandles = kept ++ base → w'.Issued →
      (∀ h ∈ kept, w.nextHandle ≤ h) → w.nextHandle ≤ w'.nextHandle → Loses col base (f a) w')
    (hp : Leases col base p w P R)
    (hf : ∀ a g w', R a g w' → w'.openHandles = base → w'.Issued →
      w.nextHandle ≤ w'.nextHandle → Leases col base (f a) w' (Q g) R') :
    Leases col base (p >>= f) w (P.bind Q) R' := by
  subst hh
  intro t
  rw [wp_bind]
  refine ((hp t).and (htp.wp (s := (w, t)) hw)).mono ?_ ?_
  · rintro a ⟨w', t'⟩ ⟨⟨l, rfl : t' = _, h⟩, hleaves⟩
    have hw' : w'.Issued := hleaves.issued hw
    obtain ⟨kept', hkept', hfresh, hnext, -⟩ := hleaves
    rcases h with ⟨hh, _, hlead, g, rfl, hR⟩ | ⟨⟨kept, hne, hkept⟩, hk⟩
    · exact (hf a g w' hR hh hw' hnext (t ++ l)).mono (fun _ _ h => h.after hlead.bind)
        fun _ _ h => h.after hlead.bind
    · obtain rfl := List.append_cancel_right (hkept.symm.trans hkept')
      exact (htf a w' kept hne hkept hw' (fun h hmem => (hfresh h hmem).1) hnext).follows
        (Plan.keeps_bind hk)
  · rintro e ⟨w', t'⟩ ⟨⟨l, rfl : t' = _, h⟩, -⟩
    refine ⟨l, rfl, ?_⟩
    rcases h with ⟨hh, P', hlead, -⟩ | ⟨hkept, hk⟩
    · exact .inl ⟨hh, _, hlead.bind, trivial⟩
    · exact .inr ⟨hkept, Plan.keeps_bind hk⟩

/-- **Sequencing.** -/
theorem Leases.bind {p : Panel α} {f : α → Panel β} {P : Plan γ} {Q : γ → Plan δ}
    {R : α → γ → World → Prop} {R' : β → δ → World → Prop} (hh : w.openHandles = base)
    (hw : w.Issued) (htp : Tidy p) (htf : ∀ a, Tidy (f a)) (hp : Leases col base p w P R)
    (hf : ∀ a g w', R a g w' → w'.openHandles = base → w'.Issued →
      w.nextHandle ≤ w'.nextHandle → Leases col base (f a) w' (Q g) R') :
    Leases col base (p >>= f) w (P.bind Q) R' :=
  .bind_loses hh hw htp (fun a _ _ hne hh' hw' _ _ => (htf a).loses hw' hne hh') hp hf

/-- Sequencing, where the rest asks for nothing. -/
theorem Leases.bind_done {p : Panel α} {f : α → Panel β} {P : Plan γ}
    {R : α → γ → World → Prop} {R' : β → γ → World → Prop} (hh : w.openHandles = base)
    (hw : w.Issued) (htp : Tidy p) (htf : ∀ a, Tidy (f a)) (hp : Leases col base p w P R)
    (hf : ∀ a g w', R a g w' → w'.openHandles = base → Leases col base (f a) w' (.done g) R') :
    Leases col base (p >>= f) w P R' := by
  rw [← Plan.bind_done P]
  exact .bind hh hw htp htf hp fun a g w' hR hh' _ _ => hf a g w' hR hh'

/-- **An attempt to connect.** -/
theorem Leases.ask {f : Option Connection → Panel β} {m : Message} {kept : Bool}
    {given refused : Plan γ} {R : β → γ → World → Prop} (hh : w.openHandles = base)
    (hrefused : ∀ q, q.openHandles = base → Leases col base (f none) (w.quietly q) refused R)
    (hkept : kept = true → ∀ c q, w.mysql .mysqlAddress = some c.url →
      c.handle = w.nextHandle → q.openHandles = c.handle :: base →
        q.nextHandle = w.nextHandle + 1 → Loses col base (f (some c)) (w.quietly q))
    (hgiven : kept = false → ∀ c q, w.mysql .mysqlAddress = some c.url →
      c.handle = w.nextHandle → q.openHandles = c.handle :: base →
        q.nextHandle = w.nextHandle + 1 → Leases col base (f (some c)) (w.quietly q) given R) :
    Leases col base (openStatement m >>= f) w (.ask kept given refused) R := by
  intro t
  rw [wp_bind]
  refine wp_lending_openStatement (fun q e hq hn he => ?_) fun c q e hurl hc hq hn he => ?_
  · have hlead : (Plan.ask kept given refused).Leads (answers [e]) refused := by
      rw [he]
      exact .refused (.refl _)
    exact (hrefused q (hq.trans hh) (t ++ [e])).mono (fun _ _ h => h.after hlead)
      fun _ _ h => h.after hlead
  · have hq' : q.openHandles = c.handle :: base := by rw [hq, hc, hh]
    cases kept with
    | true =>
      refine (hkept rfl c q hurl hc hq' hn).follows ?_
      rw [he]
      rfl
    | false =>
      have hlead : (Plan.ask false given refused).Leads (answers [e]) given := by
        rw [he]
        exact .given (.refl _)
      exact (hgiven rfl c q hurl hc hq' hn (t ++ [e])).mono (fun _ _ h => h.after hlead)
        fun _ _ h => h.after hlead

/-! ### Calls of the window -/

variable {f : α → Panel β} {P : Plan γ} {R : β → γ → World → Prop}

theorem Leases.appendToOutput {m : Message} {f : Unit → Panel β}
    (h : ∀ q, q.openHandles = w.openHandles → q.nextHandle = w.nextHandle →
      Leases col base (f ()) (w.quietly q) P R) :
    Leases col base (CrossingReality.appendToOutput m >>= f) w P R := by
  intro t
  rw [wp_bind, wp_lending_appendToOutput]
  exact h _ rfl rfl t

theorem Leases.getSelectedItem {b : ComboBox} {f : Option String → Panel β}
    (h : Leases col base (f (w.combo b).selected) w P R) :
    Leases col base (CrossingReality.getSelectedItem b >>= f) w P R := by
  intro t
  rw [wp_bind, wp_lending_getSelectedItem]
  exact h t

theorem Leases.getText {g : TextField} {f : String → Panel β}
    (h : Leases col base (f (w.text g)) w P R) :
    Leases col base (CrossingReality.getText g >>= f) w P R := by
  intro t
  rw [wp_bind, wp_lending_getText]
  exact h t

end Follows

/-! ## Look-ups and other parts -/

section Parts

variable {col : Collation} {w : World} {base : List Nat}

theorem Leases.redrawn {α γ : Type} {S : ComboBox → Prop} {p : Panel α}
    {P : Plan γ} {R : α → γ → World → Prop} (hp : Redraws S p) (h : Leases col base p w P R) :
    Leases col base p w P fun a g w' => R a g w' ∧ Redrawn S w w' := by
  intro t
  have hredrawn : wp (lending col) p (fun _ s => Redrawn S w s.1) (fun _ s => Redrawn S w s.1)
      (w, t) := (wp_redraws hp fun _ t b q hf => ⟨t, b, q, rfl, hf⟩).recording t fun _ _ => trivial
  refine ((h t).and hredrawn).mono ?_ fun _ _ h => h.1
  rintro a s ⟨⟨l, hs, h⟩, hw'⟩
  refine ⟨l, hs, h.imp ?_ id⟩
  rintro ⟨hh, P', hlead, g, rfl, hR⟩
  exact ⟨hh, _, hlead, g, rfl, hR, hw'⟩

/-- The query has a row. -/
def Query.finds (col : Collation) (d : Database) (q : Query) : Bool := !(q.run col d).isEmpty

/-- A look-up closes its connection only when it finds a row. -/
def lookUpPlan {α : Type} (col : Collation) (d : Database) (q : Query) (a : α) : Plan α :=
  .ask (!q.finds col d) (.done a) (.done a)

theorem head_of_not_finds {d : Database} {q : Query} (h : (!q.finds col d) = true) :
    (q.run col d).head? = none := by
  simpa [Query.finds] using h

theorem head_of_finds {d : Database} {q : Query} (h : (!q.finds col d) = false) :
    ∃ row, (q.run col d).head? = some row := by
  cases hrows : q.run col d with
  | nil => simp [Query.finds, hrows] at h
  | cons row rows => exact ⟨row, rfl⟩

/-- **A look-up.** -/
theorem Leases.lookUp {β γ : Type} {q : Query} {m m' : Message}
    {given refused : Plan γ} {f : Option Connection → Panel β}
    {k : Connection → Option (List q.Row) → Panel β} {r : Connection → Option q.Row → Panel β}
    {R : β → γ → World → Prop} (hh : w.openHandles = base)
    (hf : ∀ c, f (some c) = (executeQuery c q m' >>= k c))
    (hk : ∀ c rows, k c (some rows) = (firstRow c rows >>= r c))
    (hrefused : ∀ q', q'.openHandles = base → Leases col base (f none) (w.quietly q') refused R)
    (hempty : ∀ c q', q'.openHandles = c.handle :: base →
      Loses col base (r c none) (w.quietly q'))
    (hrow : ∀ c q' row, c.handle = w.nextHandle → q'.openHandles = c.handle :: base →
      q'.nextHandle = w.nextHandle + 1 →
        Leases col base (r c (some row)) (w.quietly q') given R) :
    Leases col base (openStatement m >>= f) w (.ask (!q.finds col w.database) given refused) R := by
  refine .ask hh hrefused ?_ ?_
  · rintro hfinds c q' hurl - hq - t
    have hnone := head_of_not_finds hfinds
    rw [World.database_of_url hurl] at hnone
    rw [hf, wp_bind, wp_lending_executeQuery, hk, wp_bind, wp_lending_firstRow,
      World.quietly_servers, hnone]
    exact hempty c q' hq t
  · rintro hfinds c q' hurl hc hq hn t
    obtain ⟨row, hrow'⟩ := head_of_finds hfinds
    rw [World.database_of_url hurl] at hrow'
    rw [hf, wp_bind, wp_lending_executeQuery, hk, wp_bind, wp_lending_firstRow,
      World.quietly_servers, hrow']
    exact hrow c q' row hc hq hn t

/-- A line about a row that is missing: the connection stays open. -/
theorem loses_appendToOutput {c : Connection} {q : Traffic} (m : Message)
    (hq : q.openHandles = c.handle :: base) :
    Loses col base (appendToOutput m) (w.quietly q) := fun t => by
  rw [wp_lending_appendToOutput]
  exact ⟨[c.handle], by simp, hq⟩

/-- Closing the connection ends a look-up. -/
theorem leases_closeConnection {γ : Type} {c : Connection} {s : γ}
    {R : Unit → γ → World → Prop} (hh : w.openHandles = c.handle :: base)
    (hR : ∀ q, R () s (w.quietly q)) :
    Leases col base (closeConnection .cp c) w (.done s) R := fun t =>
  wp_lending_closeConnection fun q hq _ => ⟨[], by simp, .inl
    ⟨hq.trans (by rw [hh, List.erase_cons_head]), _, .refl _, s, rfl, hR q⟩⟩

theorem Leases.closeConnection {β γ : Type} {c : Connection}
    {f : Unit → Panel β} {P : Plan γ} {R : β → γ → World → Prop}
    (hh : w.openHandles = c.handle :: base)
    (h : ∀ q, q.openHandles = base → q.nextHandle = w.nextHandle →
      Leases col base (f ()) (w.quietly q) P R) :
    Leases col base (CrossingReality.closeConnection .cp c >>= f) w P R := fun t => by
  rw [wp_bind]
  refine wp_lending_closeConnection fun q hq hn => ?_
  exact h q (hq.trans (by rw [hh, List.erase_cons_head])) hn t

theorem Leases.setText {β γ : Type} {f : TextField} {x : String}
    {k : Unit → Panel β} {P : Plan γ} {R : β → γ → World → Prop}
    (h : Leases col base (k ()) (w.redrawn (Function.update w.text f x) w.combo w.traffic) P R) :
    Leases col base (CrossingReality.setText f x >>= k) w P R := by
  intro t
  rw [wp_bind, wp_lending_setText]
  exact h t

/-- One connection that is closed. -/
def closedPlan {α : Type} (a : α) : Plan α := .ask false (.done a) (.done a)

/-- One connection that is not. -/
def leftPlan {α : Type} (a : α) : Plan α := .ask true (.done a) (.done a)

/-- Nothing is asked of the end. -/
def Anyhow {α γ : Type} (_ : α) (_ : γ) (_ : World) : Prop := True

theorem step_openHandles {c : Call} (hc : ¬ c.isJdbc) (f : Fate) :
    (step col c f w).2.openHandles = w.openHandles ∧
      (step col c f w).2.nextHandle = w.nextHandle := by
  have hafter : Ledger.after ⟨w.openHandles, w.nextHandle, false⟩ c (step col c f w).1 =
      ⟨w.openHandles, w.nextHandle, false⟩ := by
    cases c <;> first | rfl | exact absurd trivial hc
  have hledger := (step_ledger c f w false).trans hafter
  rw [Ledger.mk.injEq] at hledger
  exact ⟨hledger.1, hledger.2.1⟩

/-- A part that makes no database call asks for nothing. -/
theorem leases_offline {α γ : Type} {p : Panel α} {R : Exn → Prop} (g : γ)
    (hh : w.openHandles = base) (hp : p.Uses (fun c : Call => ¬ c.isJdbc) R) :
    Leases col base p w (.done g) Anyhow := by
  intro t
  refine wp_lending_offline hp ?_
  refine (wp_of_steps (I := fun w' => w'.openHandles = base) hp
    (fun c f w' hc hw' => (step_openHandles hc f).1.trans hw') hh).mono ?_ ?_
  · exact fun a w' hw' => ⟨[], by simp, .inl ⟨hw', _, .refl _, g, rfl, trivial⟩⟩
  · exact fun e w' hw' => ⟨[], by simp, .inl ⟨hw'.2, _, .refl _, trivial⟩⟩

theorem Leases.anyhow {α γ : Type} {p : Panel α} {P : Plan γ} {R : α → γ → World → Prop}
    (h : Leases col base p w P R) : Leases col base p w P Anyhow :=
  h.mono fun _ _ _ _ => trivial

/-- A part that asks, then one that makes no database call. -/
theorem Leases.bind_offline {α β γ : Type} {p : Panel α} {f : α → Panel β} {P : Plan γ}
    {R : α → γ → World → Prop} (hh : w.openHandles = base) (hw : w.Issued) (htp : Tidy p)
    (hp : Leases col base p w P R)
    (hf : ∀ a, (f a).Uses (fun c : Call => ¬ c.isJdbc) fun _ => True) :
    Leases col base (p >>= f) w P Anyhow :=
  .bind_done hh hw htp (fun a => tidy_offline (hf a)) hp
    fun a g _ _ hh' => leases_offline g hh' (hf a)

/-- One statement on a connection that is then closed. -/
theorem leases_statement {α β : Type} {m m' : Message} {u : Update}
    {f : Option Connection → Panel β} {k : Connection → Bool → Panel β} {P : Plan α}
    {R : β → α → World → Prop} (s : α) (hh : w.openHandles = base)
    (hnone : ∀ q, q.openHandles = base → Leases col base (f none) (w.quietly q) (.done s) R)
    (hf : ∀ c, f (some c) = (executeUpdate c u m' >>= k c))
    (hk : ∀ c q, w.mysql .mysqlAddress = some c.url → c.handle = w.nextHandle →
      q.openHandles = c.handle :: base → q.nextHandle = w.nextHandle + 1 →
        Leases col base (k c true) ((w.update col c.url u).quietly q) P R) :
    Leases col base (openStatement m >>= f) w (.ask false P (.done s)) R := by
  refine .ask hh hnone (fun h => by cases h) ?_
  rintro - c q hurl hc hq hn t
  rw [hf, wp_bind, wp_lending_executeUpdate]
  exact hk c q hurl hc hq hn t

end Parts

end CrossingReality
