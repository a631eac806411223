import CrossingReality.Effects.Simulation
import CrossingReality.Stages

/-!
# The ledger of connections

Which connections are open depends on three things only: the connections granted, those closed,
and the order of the two. The ledger keeps these and forgets the rest of the world; what the
tables, the window and the network answer is left open. It also notes whether a statement on a
connection has thrown, since the methods that see one throw return on the spot.

* `Tidy` — a program closes no connection it has not opened, and when a statement throws in it, it
  leaves a connection open.
* `Opens.tidy`, `tidyWith_*` — the rules for what the methods are made of.
* `Tidy.wp` — what the ledger says of a program holds of the world.
-/

namespace CrossingReality

open Effects

/-! ## The ledger -/

/-- A statement on an open connection threw. -/
def Call.broke : (c : Call) → c.Ret → Bool
  | .createStatement _, ok | .fetch _, ok | .executeUpdate _ _, ok => !ok
  | .executeQuery _ _, rows => rows.isNone
  | _, _ => false

/-- What is known of the connections. -/
structure Ledger where
  /-- The handles of the connections that are open. -/
  handles : List Nat
  /-- The next handle. -/
  next : Nat
  /-- A statement has thrown. -/
  broken : Bool

namespace Ledger

/-- A connection is opened. -/
def opened (s : Ledger) : Ledger := { s with handles := s.next :: s.handles, next := s.next + 1 }

/-- A connection is closed. -/
def closed (s : Ledger) (c : Connection) : Ledger := { s with handles := s.handles.erase c.handle }

/-- A statement throws. -/
def broke (s : Ledger) : Ledger := { s with broken := true }

/-- What a call leaves in the ledger, by what it gave back. -/
def after (s : Ledger) : (c : Call) → c.Ret → Ledger
  | .getConnection, k => if k.isSome then s.opened else s
  | .close c, _ => s.closed c
  | c, x => if Call.broke c x then s.broke else s

/-- The handles in use are some that were given out. -/
def Issued (s : Ledger) : Prop := ∀ h ∈ s.handles, h < s.next

end Ledger

/-- The connection a call granted. -/
def Call.granted : (c : Call) → c.Ret → Option Connection
  | .getConnection, k => k
  | _, _ => none

/-- The calls as the ledger sees them: they give back anything, but a new connection has the next
handle. -/
def ledger : Contract calls Ledger where
  pre _ _ := True
  post c s x s' := s' = s.after c x ∧ ∀ k, Call.granted c x = some k → k.handle = s.next

/-! ## Rules -/

section Rules

variable {s : Ledger} {E : Exn → Ledger → Prop}

theorem wp_ledger (c : Call) {Q : c.Ret → Ledger → Prop} : wp ledger (call c) Q E s ↔
    ∀ x, (∀ k, Call.granted c x = some k → k.handle = s.next) → Q x (s.after c x) := by
  refine (wp_lift (S := calls) c).trans ⟨fun h x hx => h.2 x _ ⟨rfl, hx⟩, fun h => ⟨trivial, ?_⟩⟩
  rintro x _ ⟨rfl, hx⟩
  exact h x hx

theorem wp_ledger_getConnection {Q : Option Connection → Ledger → Prop} (hnone : Q none s)
    (hsome : ∀ c : Connection, c.handle = s.next → Q (some c) s.opened) :
    wp (α := Option Connection) ledger (call .getConnection) Q E s := by
  refine (wp_ledger .getConnection).mpr fun x hx => ?_
  cases x with
  | none => exact hnone
  | some c => exact hsome c (hx c rfl)

theorem wp_ledger_close (c : Connection) {Q : Bool → Ledger → Prop}
    (h : ∀ ok, Q ok (s.closed c)) : wp (α := Bool) ledger (call (.close c)) Q E s :=
  (wp_ledger (.close c)).mpr fun ok _ => h ok

/-- A statement goes through or throws. -/
theorem wp_ledger_executeQuery (c : Connection) (q : Query)
    {Q : Option (List q.Row) → Ledger → Prop} (hsome : ∀ rows, Q (some rows) s)
    (hnone : Q none s.broke) :
    wp (α := Option (List q.Row)) ledger (call (.executeQuery c q)) Q E s := by
  refine (wp_ledger (.executeQuery c q)).mpr fun rows _ => ?_
  cases rows with
  | none => exact hnone
  | some rows => exact hsome rows

theorem wp_ledger_createStatement (c : Connection) {Q : Bool → Ledger → Prop} (htrue : Q true s)
    (hfalse : Q false s.broke) : wp (α := Bool) ledger (call (.createStatement c)) Q E s := by
  refine (wp_ledger (.createStatement c)).mpr fun ok _ => ?_
  cases ok with
  | false => exact hfalse
  | true => exact htrue

theorem wp_ledger_fetch (c : Connection) {Q : Bool → Ledger → Prop} (htrue : Q true s)
    (hfalse : Q false s.broke) : wp (α := Bool) ledger (call (.fetch c)) Q E s := by
  refine (wp_ledger (.fetch c)).mpr fun ok _ => ?_
  cases ok with
  | false => exact hfalse
  | true => exact htrue

theorem wp_ledger_executeUpdate (c : Connection) (u : Update) {Q : Bool → Ledger → Prop}
    (htrue : Q true s) (hfalse : Q false s.broke) :
    wp (α := Bool) ledger (call (.executeUpdate c u)) Q E s := by
  refine (wp_ledger (.executeUpdate c u)).mpr fun ok _ => ?_
  cases ok with
  | false => exact hfalse
  | true => exact htrue

/-- What makes no database call leaves the ledger as it is. -/
theorem wp_ledger_offline {α : Type} {p : Panel α} {R : Exn → Prop} {Q : α → Ledger → Prop}
    (hp : p.Uses (fun c : Call => ¬ c.isJdbc) R) (hQ : ∀ a, Q a s) (hE : ∀ e, R e → E e s) :
    wp ledger p Q E s := by
  refine (wp_of_uses (I := (· = s)) hp ?_ rfl).mono ?_ ?_
  · rintro c _ hc rfl
    refine ⟨trivial, ?_⟩
    rintro x _ ⟨rfl, -⟩
    cases c <;> first | rfl | exact absurd trivial hc
  · rintro a _ rfl
    exact hQ a
  · rintro e _ ⟨he, rfl⟩
    exact hE e he

end Rules

/-! ## What is left open -/

namespace Ledger

/-- From `s` to `s'` the connections in `kept` were opened and left open, and nothing else has
changed. A statement that has thrown has left one open. -/
def Leaves (s s' : Ledger) : Prop :=
  ∃ kept, s'.handles = kept ++ s.handles ∧ (∀ h ∈ kept, s.next ≤ h ∧ h < s'.next) ∧
    s.next ≤ s'.next ∧ (s'.broken = true → s.broken = true ∨ kept ≠ [])

variable {s s' s'' : Ledger}

theorem Leaves.refl (s : Ledger) : s.Leaves s := ⟨[], rfl, by simp, le_rfl, .inl⟩

theorem Leaves.trans (h : s.Leaves s') (h' : s'.Leaves s'') : s.Leaves s'' := by
  obtain ⟨kept, hh, hkept, hnext, hbroken⟩ := h
  obtain ⟨kept', hh', hkept', hnext', hbroken'⟩ := h'
  refine ⟨kept' ++ kept, by rw [hh', hh, List.append_assoc], fun h hmem => ?_,
    hnext.trans hnext', fun hb => ?_⟩
  · rcases List.mem_append.mp hmem with hmem | hmem
    · exact ⟨hnext.trans (hkept' h hmem).1, (hkept' h hmem).2⟩
    · exact ⟨(hkept h hmem).1, (hkept h hmem).2.trans_le hnext'⟩
  · rcases hbroken' hb with hb | hne
    · exact (hbroken hb).imp id fun hne => by simp [hne]
    · exact .inr (by simp [hne])

theorem Leaves.issued (h : s.Leaves s') (hs : s.Issued) : s'.Issued := by
  obtain ⟨kept, hh, hkept, hnext, -⟩ := h
  intro n hn
  rw [hh] at hn
  rcases List.mem_append.mp hn with hn | hn
  · exact (hkept n hn).2
  · exact (hs n hn).trans_le hnext

theorem issued_opened (hs : s.Issued) : s.opened.Issued := by
  intro h hh
  rcases List.mem_cons.mp hh with rfl | hh
  · exact Nat.lt_succ_self _
  · exact (hs h hh).trans (Nat.lt_succ_self _)

/-- A connection that is not closed accounts for whatever is thrown. -/
theorem Leaves.of_opened (h : s.opened.Leaves s') (hhandles : s''.handles = s'.handles)
    (hnext : s''.next = s'.next) : s.Leaves s'' := by
  obtain ⟨kept, hh, hkept, hlt, -⟩ := h
  refine ⟨kept ++ [s.next], by simp [hhandles, hh, opened], fun m hm => ?_, ?_, by simp⟩
  · rw [hnext]
    rcases List.mem_append.mp hm with hm | hm
    · exact ⟨(Nat.le_succ _).trans (hkept m hm).1, (hkept m hm).2⟩
    · obtain rfl := List.mem_singleton.mp hm
      exact ⟨le_rfl, hlt⟩
  · rw [hnext]
    exact (Nat.le_succ _).trans hlt

/-- Closing the connection that was opened first leaves those opened after it. -/
theorem Leaves.handles_closed (h : s.opened.Leaves s') {c : Connection}
    (hc : c.handle = s.next) : ∃ kept, (s'.closed c).handles = kept ++ s.handles ∧
      (∀ h ∈ kept, s.next < h ∧ h < s'.next) ∧ s.next < s'.next ∧
        (s'.broken = true → s.broken = true ∨ kept ≠ []) := by
  obtain ⟨kept, hh, hkept, hlt, hbroken⟩ := h
  have hnot : c.handle ∉ kept := fun hmem => absurd (hkept _ hmem).1 (hc ▸ Nat.not_succ_le_self _)
  refine ⟨kept, ?_, hkept, hlt, hbroken⟩
  rw [Ledger.closed, hh, List.erase_append_right _ hnot, opened, hc, List.erase_cons_head]

theorem Leaves.closed (h : s.opened.Leaves s') {c : Connection} (hc : c.handle = s.next) :
    s.Leaves (s'.closed c) := by
  obtain ⟨kept, hh, hkept, hlt, hbroken⟩ := h.handles_closed hc
  exact ⟨kept, hh, fun m hm => ⟨(hkept m hm).1.le, (hkept m hm).2⟩, hlt.le, hbroken⟩

/-- It is then neither open nor given out again. -/
theorem Leaves.not_mem_closed (h : s.opened.Leaves s') (hs : s.Issued) {c : Connection}
    (hc : c.handle = s.next) :
    c.handle < (s'.closed c).next ∧ c.handle ∉ (s'.closed c).handles := by
  obtain ⟨kept, hh, hkept, hlt, -⟩ := h.handles_closed hc
  refine ⟨hc ▸ hlt, fun hmem => ?_⟩
  rw [hh] at hmem
  rcases List.mem_append.mp hmem with hmem | hmem
  · exact (hkept _ hmem).1.ne' hc
  · exact (hs _ hmem).ne hc

/-- A closed connection stays closed, its handle not given out again. -/
theorem Leaves.not_mem (h : s.Leaves s') {n : Nat} (hlt : n < s.next) (hnot : n ∉ s.handles) :
    n < s'.next ∧ n ∉ s'.handles := by
  obtain ⟨kept, hh, hkept, hnext, -⟩ := h
  refine ⟨hlt.trans_le hnext, fun hmem => ?_⟩
  rw [hh] at hmem
  rcases List.mem_append.mp hmem with hmem | hmem
  · exact absurd (hkept n hmem).1 hlt.not_ge
  · exact hnot hmem

end Ledger

/-! ## Tidy programs -/

variable {α β ρ : Type}

/-- However it ends, the program has closed only connections it opened, and if a statement has
thrown it has left one open. -/
def Tidy (p : Panel α) : Prop :=
  ∀ s : Ledger, s.Issued → wp ledger p (fun _ => s.Leaves) (fun _ => s.Leaves) s

/-- So it is with the rest of a program, after it has opened `c`. -/
def TidyWith (c : Connection) (p : Panel α) : Prop :=
  ∀ s s' : Ledger, s.Issued → c.handle = s.next → s.opened.Leaves s' →
    wp ledger p (fun _ => s.Leaves) (fun _ => s.Leaves) s'

/-- So it is with the rest of a program, after it has closed `c`. It may close it again. -/
def TidyAfter (c : Connection) (p : Panel α) : Prop :=
  ∀ s : Ledger, s.Issued → c.handle < s.next → c.handle ∉ s.handles →
    wp ledger p (fun _ => s.Leaves) (fun _ => s.Leaves) s

section Tidy

variable {p : Panel α} {f : α → Panel β} {c : Connection}

theorem tidy_pure (a : α) : Tidy (pure a : Panel α) := fun s _ => .refl s

theorem tidy_offline {R : Exn → Prop} (hp : p.Uses (fun c : Call => ¬ c.isJdbc) R) : Tidy p :=
  fun s _ => wp_ledger_offline hp (fun _ => .refl s) fun _ _ => .refl s

theorem tidy_call {c : Call} (hc : ¬ c.isJdbc) : Tidy (call c) :=
  tidy_offline (R := fun _ => False) ⟨hc, fun _ => trivial⟩

theorem tidy_throwExn (e : Exn) : Tidy (throwExn e : Panel α) := fun s _ => .refl s

theorem tidy_appendToOutput (m : Message) : Tidy (appendToOutput m) :=
  tidy_call (c := .append m) id

theorem tidy_setText (f : TextField) (s : String) : Tidy (setText f s) :=
  tidy_call (c := .setText f s) id

theorem tidy_setTextOrNull (f : TextField) (s : Option String) : Tidy (setTextOrNull f s) :=
  tidy_setText f _

theorem tidy_getText (f : TextField) : Tidy (getText f) := tidy_call (c := .getText f) id

theorem tidy_getSelectedItem (b : ComboBox) : Tidy (getSelectedItem b) :=
  tidy_call (c := .getSelectedItem b) id

theorem tidy_isSelected (b : CheckBox) : Tidy (isSelected b) := tidy_call (c := .isSelected b) id

theorem tidy_setSelected (b : CheckBox) (v : Bool) : Tidy (setSelected b v) :=
  tidy_call (c := .setSelected b v) id

theorem Tidy.bind (hp : Tidy p) (hf : ∀ a, Tidy (f a)) : Tidy (p >>= f) := fun s hs => by
  rw [wp_bind]
  refine (hp s hs).mono (fun a s' h => ?_) fun _ _ h => h
  exact (hf a s' (h.issued hs)).mono (fun _ _ h' => h.trans h') fun _ _ h' => h.trans h'

theorem tidy_ite (b : Prop) [Decidable b] {q : Panel α} (hp : Tidy p) (hq : Tidy q) :
    Tidy (if b then p else q) := by
  split
  · exact hp
  · exact hq

/-- What does not close `c` leaves it open. -/
theorem Tidy.tidyWith (hp : Tidy p) (c : Connection) : TidyWith c p := fun s s' hs _ h => by
  have hs' := h.issued (Ledger.issued_opened hs)
  refine (hp s' hs').mono (fun _ _ h' => ?_) fun _ _ h' => ?_
  · exact (h.trans h').of_opened rfl rfl
  · exact (h.trans h').of_opened rfl rfl

theorem Tidy.bindWith (hp : Tidy p) (hf : ∀ a, TidyWith c (f a)) : TidyWith c (p >>= f) :=
  fun s s' hs hc h => by
    have hs' := h.issued (Ledger.issued_opened hs)
    rw [wp_bind]
    refine (hp s' hs').mono (fun a s'' h' => ?_) fun _ _ h' => ?_
    · exact hf a s s'' hs hc (h.trans h')
    · exact (h.trans h').of_opened rfl rfl

theorem TidyWith.bind (hp : TidyWith c p) (hf : ∀ a, Tidy (f a)) : TidyWith c (p >>= f) :=
  fun s s' hs hc h => by
    rw [wp_bind]
    refine (hp s s' hs hc h).mono (fun a s'' h' => ?_) fun _ _ h' => h'
    exact (hf a s'' (h'.issued hs)).mono (fun _ _ h'' => h'.trans h'') fun _ _ h'' => h'.trans h''

theorem tidyWith_ite (b : Prop) [Decidable b] {q : Panel α} (hp : TidyWith c p)
    (hq : TidyWith c q) : TidyWith c (if b then p else q) := by
  split
  · exact hp
  · exact hq

/-! ### Statements on the connection -/

/-- After a statement on `c` has thrown, `c` accounts for it as long as it is not closed. -/
theorem Tidy.broke (hp : Tidy p) {s s' : Ledger} (hs : s.Issued) (h : s.opened.Leaves s') :
    wp ledger p (fun _ => s.Leaves) (fun _ => s.Leaves) s'.broke := by
  have hs' : s'.broke.Issued := h.issued (Ledger.issued_opened hs)
  have hfrom : ∀ s'', s'.broke.Leaves s'' → s.Leaves s'' := by
    rintro s'' ⟨kept, hh, hkept, hlt, -⟩
    have hopened : s.opened.Leaves ⟨s''.handles, s''.next, s'.broken⟩ :=
      h.trans ⟨kept, hh, hkept, hlt, .inl⟩
    exact hopened.of_opened rfl rfl
  exact (hp _ hs').mono (fun _ => hfrom) fun _ => hfrom

theorem tidyWith_call_executeQuery {q : Query} {f : Option (List q.Row) → Panel β}
    (hnone : Tidy (f none)) (hsome : ∀ rows, TidyWith c (f (some rows))) :
    TidyWith c (call (.executeQuery c q) >>= f) := fun s s' hs hc h => by
  rw [wp_bind]
  exact wp_ledger_executeQuery c q (fun rows => hsome rows s s' hs hc h) (hnone.broke hs h)

theorem tidyWith_executeQuery {q : Query} {m : Message} {f : Option (List q.Row) → Panel β}
    (hnone : Tidy (f none)) (hsome : ∀ rows, TidyWith c (f (some rows))) :
    TidyWith c (executeQuery c q m >>= f) := by
  rw [executeQuery, bind_assoc]
  refine tidyWith_call_executeQuery ?_ hsome
  simp only [bind_assoc]
  exact (tidy_appendToOutput m).bind fun _ => hnone

theorem tidyWith_executeUpdate {u : Update} {m : Message} {f : Bool → Panel β}
    (hfalse : Tidy (f false)) (htrue : TidyWith c (f true)) :
    TidyWith c (executeUpdate c u m >>= f) := fun s s' hs hc h => by
  simp only [executeUpdate, wp_bind]
  refine wp_ledger_executeUpdate c u (htrue s s' hs hc h) ?_
  simp only [Bool.not_false, if_true, wp_bind]
  exact wp_ledger_offline (R := fun _ => True) ⟨id, fun _ => trivial⟩
    (fun _ => hfalse.broke hs h) fun _ _ => h.of_opened rfl rfl

theorem tidyWith_createStatement {f : Bool → Panel β} (hfalse : Tidy (f false))
    (htrue : TidyWith c (f true)) :
    TidyWith c (call (.createStatement c) >>= f) := fun s s' hs hc h => by
  rw [wp_bind]
  exact wp_ledger_createStatement c (htrue s s' hs hc h) (hfalse.broke hs h)

theorem tidyWith_fetch {f : Bool → Panel β} (hfalse : Tidy (f false))
    (htrue : TidyWith c (f true)) : TidyWith c (call (.fetch c) >>= f) := fun s s' hs hc h => by
  rw [wp_bind]
  exact wp_ledger_fetch c (htrue s s' hs hc h) (hfalse.broke hs h)

theorem tidyWith_firstRow {rows : List ρ} {f : Option ρ → Panel β} (hnone : Tidy (f none))
    (hsome : ∀ row, TidyWith c (f (some row))) : TidyWith c (firstRow c rows >>= f) := by
  rw [firstRow, bind_assoc]
  refine tidyWith_fetch hnone ?_
  cases rows.head? with
  | none => exact hnone.tidyWith c
  | some row => exact hsome row

theorem tidyWith_whileNext {γ : Type} {body : γ → ρ → Panel γ} {f : Option γ → Panel β}
    (hbody : ∀ acc row, Tidy (body acc row)) (hnone : Tidy (f none))
    (hsome : ∀ acc, TidyWith c (f (some acc))) (rows : List ρ) (acc : γ) :
    TidyWith c (whileNext c body rows acc >>= f) := by
  induction rows generalizing acc with
  | nil =>
    rw [whileNext, bind_assoc]
    exact tidyWith_fetch hnone (hsome acc)
  | cons row rows ih =>
    rw [whileNext, bind_assoc]
    refine tidyWith_fetch hnone ?_
    simp only [Bool.not_true, Bool.false_eq_true, if_false, bind_assoc]
    exact (hbody acc row).bindWith ih

theorem tidyWith_readRows {γ : Type} {column : ρ → γ} {rows : List ρ}
    {f : Option (List γ) → Panel β} (hnone : Tidy (f none))
    (hsome : ∀ values, TidyWith c (f (some values))) :
    TidyWith c (readRows c column rows >>= f) := by
  rw [readRows, bind_assoc]
  refine tidyWith_whileNext (fun _ _ => tidy_pure _) ?_ (fun values => ?_) rows []
  · rw [bind_assoc]
    exact (tidy_appendToOutput _).bind fun _ => hnone
  · exact hsome values

theorem tidyWith_showBoundsRow {rows : List Bounds} {f : Bool → Panel β} (hfalse : Tidy (f false))
    (htrue : TidyWith c (f true)) : TidyWith c (showBoundsRow c rows >>= f) := by
  rw [showBoundsRow, bind_assoc]
  refine tidyWith_firstRow ?_ fun row => ?_
  · simp only [bind_assoc]
    refine (tidy_appendToOutput _).bind fun _ => ?_
    refine (tidy_setText _ _).bind fun _ => ?_
    exact (tidy_setText _ _).bind fun _ => hfalse
  · simp only [bind_assoc]
    refine (tidy_setTextOrNull _ _).bindWith fun _ => ?_
    exact (tidy_setTextOrNull _ _).bindWith fun _ => htrue

/-! ### Closing and opening -/

theorem tidyWith_closeConnection {this : Instance} {f : Unit → Panel β}
    (hf : TidyAfter c (f ())) :
    TidyWith c (closeConnection this c >>= f) := fun s s' hs hc h => by
  have hclosed := h.closed hc
  have hspent := h.not_mem_closed hs hc
  have hrest := hf _ (hclosed.issued hs) hspent.1 hspent.2
  simp only [closeConnection, wp_bind]
  refine wp_ledger_close c fun ok => ?_
  have hdone : wp ledger (f ()) (fun _ => s.Leaves) (fun _ => s.Leaves) (s'.closed c) :=
    hrest.mono (fun _ _ h' => hclosed.trans h') fun _ _ h' => hclosed.trans h'
  refine (wp_ite _ _ _).mpr ⟨fun _ => ?_, fun _ => hdone⟩
  cases this with
  | cp =>
    exact wp_ledger_offline (R := fun _ => True) ⟨id, fun _ => trivial⟩ (fun _ => hdone)
      fun _ _ => hclosed
  | perRequest =>
    exact wp_ledger_offline (R := fun _ => True) ⟨id, fun _ => trivial⟩ (fun _ => hdone)
      fun _ _ => hclosed

theorem Tidy.tidyAfter (hp : Tidy p) (c : Connection) : TidyAfter c p := fun s hs _ _ => hp s hs

theorem tidyWith_closeConnection_last {this : Instance} :
    TidyWith c (closeConnection this c) := by
  rw [← bind_pure (closeConnection this c)]
  exact tidyWith_closeConnection ((tidy_pure _).tidyAfter c)

theorem Tidy.bindAfter (hp : Tidy p) (hf : ∀ a, TidyAfter c (f a)) : TidyAfter c (p >>= f) :=
  fun s hs hlt hnot => by
    rw [wp_bind]
    refine (hp s hs).mono (fun a s' h => ?_) fun _ _ h => h
    obtain ⟨hlt', hnot'⟩ := h.not_mem hlt hnot
    exact (hf a s' (h.issued hs) hlt' hnot').mono (fun _ _ h' => h.trans h') fun _ _ h' =>
      h.trans h'

/-- The calls that open nothing and close no connection but one with the handle `n`. -/
def Call.still (n : Nat) (c : Call) : Prop :=
  c ≠ .getConnection ∧ ∀ k, c = .close k → k.handle = n

/-- A program that opens nothing, and closes nothing that is open. -/
theorem wp_ledger_still {R : Exn → Prop} {s : Ledger} {n : Nat} (hn : n ∉ s.handles)
    (hp : p.Uses (Call.still n) R) :
    wp ledger p (fun _ s' => s'.handles = s.handles ∧ s'.next = s.next)
      (fun _ s' => s'.handles = s.handles ∧ s'.next = s.next) s := by
  refine (wp_of_uses (I := fun s' => s'.handles = s.handles ∧ s'.next = s.next) hp ?_
    ⟨rfl, rfl⟩).mono (fun _ _ h => h) fun _ _ h => h.2
  rintro c s' ⟨hopen, hclose⟩ hs'
  refine ⟨trivial, ?_⟩
  rintro x _ ⟨rfl, -⟩
  cases c with
  | getConnection => exact absurd rfl hopen
  | close k =>
    refine ⟨?_, hs'.2⟩
    have hk : k.handle ∉ s'.handles := by rw [hclose k rfl, hs'.1]; exact hn
    exact (List.erase_of_not_mem hk).trans hs'.1
  | _ =>
    simp only [Ledger.after]
    split <;> exact hs'

/-- The program opens one connection and makes a statement on it, or gives back none. -/
def Opens (p : Panel (Option Connection)) : Prop :=
  ∀ (s : Ledger) (Q : Option Connection → Ledger → Prop) (E : Exn → Ledger → Prop), Q none s →
    Q none s.opened.broke → (∀ c : Connection, c.handle = s.next → Q (some c) s.opened) →
      wp ledger p Q E s

theorem opens_openStatement (m : Message) : Opens (openStatement m) := by
  intro s Q E hnone hbroke hsome
  have hsay : ∀ (m : Message) {α : Type} (a : α) {Q : α → Ledger → Prop} {s : Ledger}, Q a s →
      wp ledger (appendToOutput m >>= fun _ => pure a : Panel α) Q E s := by
    intro m α a Q s hQ
    rw [wp_bind]
    exact wp_ledger_offline (R := fun _ => False) ⟨id, fun _ => trivial⟩ (fun _ => hQ) (by simp)
  simp only [openStatement, wp_bind]
  refine (wp_ledger .forName).mpr fun ok _ => ?_
  refine (wp_ite _ _ _).mpr ⟨fun _ => hsay _ none hnone, fun _ => ?_⟩
  rw [wp_bind]
  refine wp_ledger_offline (R := fun _ => False) ⟨id, fun _ => trivial⟩ (fun _ => ?_) (by simp)
  rw [wp_bind]
  refine wp_ledger_getConnection (hsay _ none hnone) fun c hc => ?_
  simp only [wp_bind]
  refine wp_ledger_offline (R := fun _ => False) ⟨id, fun _ => trivial⟩ (fun _ => ?_) (by simp)
  refine wp_ledger_createStatement c (hsome c hc) ?_
  exact hsay _ none hbroke

theorem Opens.tidy {p : Panel (Option Connection)} {f : Option Connection → Panel β}
    (hp : Opens p) (hnone : Tidy (f none)) (hsome : ∀ c, TidyWith c (f (some c))) :
    Tidy (p >>= f) := fun s hs => by
  rw [wp_bind]
  refine hp s _ _ (hnone s hs) (hnone.broke hs (.refl _)) fun c hc => ?_
  exact hsome c s s.opened hs hc (.refl _)

end Tidy

/-! ## The ledger of a world -/

/-- What an attempt to connect came to. Loading the driver decides it only when it fails. -/
def Call.answer : (c : Call) → c.Ret → Option Bool
  | .forName, ok => if ok then none else some false
  | .getConnection, k => some k.isSome
  | _, _ => none

/-- A statement of an execution that threw. -/
def broken (e : Event calls World) : Bool := Call.broke e.call e.ret

/-- The attempts to connect of an execution, and what each came to. -/
def answers (l : List (Event calls World)) : List Bool :=
  l.filterMap fun e => Call.answer e.call e.ret

/-- The calls that matter to the connections. -/
def noted (e : Event calls World) : Bool := broken e || (Call.answer e.call e.ret).isSome

/-- A world, and the calls that mattered so far, as the ledger has them. -/
def ledgerOf (s : World × List (Event calls World)) : Ledger :=
  ⟨s.1.openHandles, s.1.nextHandle, s.2.any broken⟩

variable {col : Collation} {may : Call → Prop}

/-- One call, in the world and in the ledger. -/
theorem step_ledger (c : Call) (f : Fate) (w : World) (b : Bool) :
    (⟨(step col c f w).2.openHandles, (step col c f w).2.nextHandle,
      b || Call.broke c (step col c f w).1⟩ : Ledger) =
        Ledger.after ⟨w.openHandles, w.nextHandle, b⟩ c (step col c f w).1 := by
  cases c with
  | getConnection =>
    cases hw : w.mysql .mysqlAddress with
    | none => simp [step, hw, Ledger.after, Call.broke]
    | some url =>
      cases hf : f.fails <;> simp [step, hw, hf, Ledger.after, Ledger.opened, Call.broke]
  | close c => simp [step, Ledger.after, Ledger.closed, Call.broke]
  | createStatement | fetch | executeQuery =>
    cases hf : f.fails <;> simp [step, hf, Ledger.after, Ledger.broke, Call.broke]
  | executeUpdate c u =>
    cases hf : f.fails <;> simp [step, hf, Ledger.after, Ledger.broke, Call.broke, World.update]
  | writeMysqldetails s => cases hf : f.fails <;> simp [step, hf, Ledger.after, Call.broke]
  | http c p =>
    cases c <;> cases hf : f.fails <;> simp [step, hf, Ledger.after, Call.broke]
  | _ => simp [step, Ledger.after, Call.broke, World.say, World.sayOn, World.setText,
      World.setSelected, World.setCombo, World.setMysql]

theorem step_granted {c : Call} {f : Fate} {w : World} {k : Connection}
    (h : Call.granted c (step col c f w).1 = some k) : k.handle = w.nextHandle := by
  cases c with
  | getConnection =>
    cases hw : w.mysql .mysqlAddress with
    | none => simp [step, hw, Call.granted] at h
    | some url =>
      cases hf : f.fails with
      | true => simp [step, hw, hf, Call.granted] at h
      | false =>
        simp only [step, hw, hf, Call.granted] at h
        cases h
        rfl
  | _ => cases h

/-- The ledger follows the world. -/
theorem simulates_ledger : Simulates ((under col may).recording noted) ledger
    fun s t => t = ledgerOf s := by
  rintro c ⟨w, t⟩ _ x ⟨w', t'⟩ rfl ⟨⟨f, -, hstep⟩, rfl : t' = _⟩
  obtain ⟨rfl, rfl⟩ : (step col c f w).1 = x ∧ (step col c f w).2 = w' := Prod.mk.inj hstep
  refine ⟨_, ⟨rfl, fun k => step_granted⟩, ?_⟩
  have hbroken : ([(⟨w, c, (step col c f w).1⟩ : Event calls World)].filter noted).any broken =
      Call.broke c (step col c f w).1 := by
    cases hb : Call.broke c (step col c f w).1 <;> simp [noted, broken, hb]
  change Ledger.after ⟨w.openHandles, w.nextHandle, t.any broken⟩ c _ = ⟨_, _, (t ++ _).any broken⟩
  rw [← step_ledger, List.any_append, hbroken]

theorem wp_of_wp_ledger {p : Panel α} {s : World × List (Event calls World)}
    (hp : wp ledger p (fun _ => (ledgerOf s).Leaves) (fun _ => (ledgerOf s).Leaves) (ledgerOf s)) :
    wp ((under col may).recording noted) p (fun _ s' => (ledgerOf s).Leaves (ledgerOf s'))
      (fun _ s' => (ledgerOf s).Leaves (ledgerOf s')) s := by
  refine (wp.of_simulates simulates_ledger (fun _ _ => trivial) hp rfl).mono ?_ ?_
  · rintro _ s' ⟨_, rfl, h⟩
    exact h
  · rintro _ s' ⟨_, rfl, h⟩
    exact h

theorem Tidy.wp {p : Panel α} (hp : Tidy p) {s : World × List (Event calls World)}
    (hs : (ledgerOf s).Issued) : wp ((under col may).recording noted) p
      (fun _ s' => (ledgerOf s).Leaves (ledgerOf s'))
      (fun _ s' => (ledgerOf s).Leaves (ledgerOf s')) s :=
  wp_of_wp_ledger (hp _ hs)

end CrossingReality
