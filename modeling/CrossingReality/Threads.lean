import CrossingReality.Effects.Pool
import CrossingReality.Failures

/-!
# What a thread can tell

Methods judged without their world: a call may be answered in any way that `A` allows, and what the
method can tell is which statements it has sent and what came back. Whatever other threads do in
between, this stays true.

* `watching` — the contract.
* `wp_*_watching` — one rule for each step that the methods repeat.
-/

namespace CrossingReality

open Effects

/-- A statement sent to the database. -/
def Call.isStatement : Call → Bool
  | .executeQuery _ _ | .executeUpdate _ _ => true
  | _ => false

/-- The statements of a thread and what came back, oldest first. -/
abbrev Told := List (Event calls Unit)

/-- Calls are answered as `A` allows, and statements are recorded. -/
def watching (A : (c : Call) → c.Ret → Prop) : Contract calls (Unit × Told) :=
  (Contract.blind (S := calls) A).recording fun e => e.call.isStatement

variable {A : (c : Call) → c.Ret → Prop} {E : Exn → Unit × Told → Prop} {t : Told} {α : Type}

/-! ## Calls -/

theorem wp_call_watching (c : Call) {Q : c.Ret → Unit × Told → Prop} :
    wp (watching A) (call c) Q E ((), t) ↔
      ∀ x, A c x →
        Q x ((), t ++ [(⟨(), c, x⟩ : Event calls Unit)].filter (·.call.isStatement)) := by
  constructor
  · exact fun h x hx => h.2 x ((), _) ⟨hx, rfl⟩
  · rintro h
    refine ⟨trivial, ?_⟩
    rintro x ⟨⟨⟩, t'⟩ ⟨hx, rfl : t' = _⟩
    exact h x hx

/-- A call that is no statement leaves no trace. -/
theorem wp_plain {c : Call} (hc : c.isStatement = false) {Q : c.Ret → Unit × Told → Prop} :
    wp (watching A) (call c) Q E ((), t) ↔ ∀ x, A c x → Q x ((), t) := by
  rw [wp_call_watching]
  have hnil : ∀ x, [(⟨(), c, x⟩ : Event calls Unit)].filter (·.call.isStatement) = [] := fun x => by
    simp [hc]
  simp only [hnil, List.append_nil]

theorem wp_appendToOutput_watching (m : Message) {Q : Unit → Unit × Told → Prop}
    (h : Q () ((), t)) : wp (watching A) (appendToOutput m) Q E ((), t) :=
  (wp_plain (c := .append m) rfl).mpr fun _ _ => h

theorem wp_getText_watching (f : TextField) {Q : String → Unit × Told → Prop}
    (h : ∀ s, Q s ((), t)) : wp (watching A) (getText f) Q E ((), t) :=
  (wp_plain (c := .getText f) rfl).mpr fun s _ => h s

theorem wp_getSelectedItem_watching (b : ComboBox) {Q : Option String → Unit × Told → Prop}
    (h : ∀ s, Q s ((), t)) : wp (watching A) (getSelectedItem b) Q E ((), t) :=
  (wp_plain (c := .getSelectedItem b) rfl).mpr fun s _ => h s

theorem wp_isSelected_watching (b : CheckBox) {Q : Bool → Unit × Told → Prop}
    (h : ∀ v, A (.isSelected b) v → Q v ((), t)) : wp (watching A) (isSelected b) Q E ((), t) :=
  (wp_plain (c := .isSelected b) rfl).mpr h

/-! ## JDBC -/

/-- Some database call may throw. -/
def Failing (A : (c : Call) → c.Ret → Prop) : Prop := ∃ c x, A c x ∧ Call.threw c x = true

theorem wp_openStatement_watching {m : Message} {Q : Option Connection → Unit × Told → Prop}
    (h : ∀ c, A .getConnection (some c) → Q (some c) ((), t)) (hnone : Failing A → Q none ((), t)) :
    wp (watching A) (openStatement m) Q E ((), t) := by
  simp only [openStatement, wp_bind]
  refine (wp_plain (c := .forName) rfl).mpr fun loaded hloaded => ?_
  cases loaded with
  | false =>
    simp only [Bool.not_false, if_true, wp_bind]
    exact wp_appendToOutput_watching _ (hnone ⟨_, _, hloaded, rfl⟩)
  | true =>
    simp only [Bool.not_true, Bool.false_eq_true, if_false, wp_bind]
    refine wp_appendToOutput_watching _ ((wp_plain (c := .getConnection) rfl).mpr fun c hc => ?_)
    cases c with
    | none =>
      simp only [wp_bind]
      exact wp_appendToOutput_watching _ (hnone ⟨_, _, hc, rfl⟩)
    | some c =>
      simp only [wp_bind]
      refine wp_appendToOutput_watching _ ((wp_plain (c := .createStatement c) rfl).mpr
        fun created hcreated => ?_)
      cases created with
      | false =>
        simp only [Bool.not_false, if_true, wp_bind]
        exact wp_appendToOutput_watching _ (hnone ⟨_, _, hcreated, rfl⟩)
      | true => exact h c hc

theorem wp_executeQuery_watching {c : Connection} {q : Query} {m : Message}
    {Q : Option (List q.Row) → Unit × Told → Prop}
    (h : ∀ rows, A (.executeQuery c q) (some rows) →
      Q (some rows) ((), t ++ [⟨(), .executeQuery c q, some rows⟩]))
    (hnone : Failing A → Q none ((), t ++ [⟨(), .executeQuery c q, none⟩])) :
    wp (watching A) (executeQuery c q m) Q E ((), t) := by
  simp only [executeQuery, wp_bind]
  refine (wp_call_watching (.executeQuery c q)).mpr fun rows hrows => ?_
  cases rows with
  | none =>
    simp only [wp_bind]
    exact wp_appendToOutput_watching _ (hnone ⟨_, _, hrows, rfl⟩)
  | some rows => exact h rows hrows

theorem wp_executeUpdate_watching {c : Connection} {u : Update} {m : Message}
    {Q : Bool → Unit × Told → Prop}
    (h : ∀ ok, A (.executeUpdate c u) ok → Q ok ((), t ++ [⟨(), .executeUpdate c u, ok⟩])) :
    wp (watching A) (executeUpdate c u m) Q E ((), t) := by
  simp only [executeUpdate, wp_bind]
  refine (wp_call_watching (.executeUpdate c u)).mpr fun ok hok => ?_
  cases ok with
  | false =>
    simp only [Bool.not_false, if_true, wp_bind]
    exact wp_appendToOutput_watching _ (h false hok)
  | true => exact h true hok

/-- A loop over a result set gives the fold of its body, or nothing. -/
theorem wp_whileNext_watching {ρ β : Type} {c : Connection} {body : β → ρ → Panel β}
    {g : β → ρ → β} {Q : Option β → Unit × Told → Prop} (rows : List ρ) (acc : β)
    (hbody : ∀ acc row (R : β → Unit × Told → Prop), R (g acc row) ((), t) →
      wp (watching A) (body acc row) R E ((), t))
    (h : Q (some (rows.foldl g acc)) ((), t)) (hnone : Failing A → Q none ((), t)) :
    wp (watching A) (whileNext c body rows acc) Q E ((), t) := by
  induction rows generalizing acc with
  | nil =>
    simp only [whileNext, wp_bind]
    refine (wp_plain (c := .fetch c) rfl).mpr fun ok hok => ?_
    cases ok with
    | false => exact hnone ⟨_, _, hok, rfl⟩
    | true => exact h
  | cons row rows ih =>
    simp only [whileNext, wp_bind]
    refine (wp_plain (c := .fetch c) rfl).mpr fun ok hok => ?_
    cases ok with
    | false => exact hnone ⟨_, _, hok, rfl⟩
    | true =>
      simp only [Bool.not_true, Bool.false_eq_true, if_false, wp_bind]
      exact hbody acc row _ (ih (g acc row) h)

theorem wp_readRows_watching {ρ β : Type} {c : Connection} {column : ρ → β} {rows : List ρ}
    {Q : Option (List β) → Unit × Told → Prop} (h : Q (some (rows.map column)) ((), t))
    (hnone : Failing A → Q none ((), t)) :
    wp (watching A) (readRows c column rows) Q E ((), t) := by
  have hfold : ∀ (rows : List ρ) acc, rows.foldl (fun acc row => acc ++ [column row]) acc =
      acc ++ rows.map column := by
    intro rows
    induction rows with
    | nil => simp
    | cons row rows ih => exact fun acc => by rw [List.foldl_cons, ih]; simp
  simp only [readRows, wp_bind]
  refine wp_whileNext_watching (g := fun acc row => acc ++ [column row]) rows []
    (fun _ _ _ hR => hR) ?_ fun hc => ?_
  · rw [hfold, List.nil_append]
    exact h
  · simp only [wp_bind]
    exact wp_appendToOutput_watching _ (hnone hc)

theorem wp_closeConnection_watching {c : Connection} {Q : Unit → Unit × Told → Prop}
    (h : Q () ((), t)) : wp (watching A) (closeConnection .cp c) Q E ((), t) := by
  simp only [closeConnection, wp_bind]
  refine (wp_plain (c := .close c) rfl).mpr fun ok _ => ?_
  cases ok with
  | false => exact wp_appendToOutput_watching _ h
  | true => exact h

/-- On the object of a request, closing throws when the connection does not close. -/
theorem wp_closeConnection_watching_perRequest {c : Connection} {Q : Unit → Unit × Told → Prop}
    (h : Q () ((), t)) (hbad : A (.close c) false → E .nullPointer ((), t)) :
    wp (watching A) (closeConnection .perRequest c) Q E ((), t) := by
  simp only [closeConnection, wp_bind]
  refine (wp_plain (c := .close c) rfl).mpr fun ok hok => ?_
  cases ok with
  | false =>
    simp only [Bool.not_false, if_true, appendToOutputOf, wp_bind]
    exact (wp_plain (c := .appendArea .wsnGeneralPanelOutput .closeProblem) rfl).mpr
      fun _ _ => hbad hok
  | true => exact h

/-- A part keeps what each of its calls keeps. -/
theorem wp_keeping {P : Call → Prop} {R : Exn → Prop} {I : Told → Prop} {p : Panel α}
    (hp : p.Uses P R) (hI : ∀ r (e : Event calls Unit), P e.call → I r → I (r ++ [e])) (h : I t) :
    wp (watching A) p (fun _ s => I s.2) (fun e s => R e ∧ I s.2) ((), t) := by
  refine wp_of_uses (I := fun s : Unit × Told => I s.2) hp (fun c s hc hs => ⟨trivial, ?_⟩) h
  rintro x ⟨⟨⟩, t'⟩ ⟨-, rfl : t' = _⟩
  cases hkept : c.isStatement with
  | false => simpa [hkept] using hs
  | true => simpa [hkept] using hI s.2 ⟨(), c, x⟩ hc hs

/-- A part that sends no statement. -/
theorem wp_quiet {R : Exn → Prop} {p : Panel α} {Q : α → Unit × Told → Prop}
    (hp : p.Uses (fun c : Call => c.isStatement = false) R) (h : ∀ a, Q a ((), t))
    (hE : ∀ e, R e → E e ((), t)) : wp (watching A) p Q E ((), t) := by
  refine wp_recording_of_dull hp (fun _ he => he) ?_
  refine (wp_of_uses (I := fun _ => True) hp (fun _ _ _ _ => ⟨trivial, ?_⟩) trivial).mono
    (fun a _ _ => h a) fun e _ he => hE e he.1
  exact fun _ _ _ => trivial

/-! ## Answers -/

section Answers

variable {col : Collation} {may : Call → Prop} {url : String}

/-- The program is set to the database at `url`. -/
def At (url : String) (w : World) : Prop := w.mysql .mysqlAddress = some url

/-- No call to the database throws when none can and there is an address. -/
theorem not_failing : ¬ Failing ((under col httpFault).answers (At url)) := by
  rintro ⟨c, x, ⟨w, w', hw, f, hf, hstep⟩, hthrew⟩
  obtain rfl : (step col c f w).1 = x := congrArg Prod.fst hstep
  have hfails : c.isJdbc → f.fails = false := fun hc => by
    by_contra h
    exact hf (by simpa using h) hc
  cases c with
  | forName | createStatement | fetch | executeUpdate | close =>
    simp [step, Call.threw, hfails trivial] at hthrew
  | executeQuery => simp [step, Call.threw, hfails trivial] at hthrew
  | getConnection =>
    have hurl : w.mysql .mysqlAddress = some url := hw
    simp [step, Call.threw, hfails trivial, hurl] at hthrew
  | _ => cases hthrew

/-- Connections go to the database the program is set to. -/
theorem url_of_answers {c : Connection}
    (h : (under col may).answers (At url) .getConnection (some c)) : c.url = url := by
  obtain ⟨w, w', hw, f, -, hstep⟩ := h
  have hx : (step col .getConnection f w).1 = some c := congrArg Prod.fst hstep
  have hurl : w.mysql .mysqlAddress = some url := hw
  simp only [step, hurl] at hx
  split at hx
  · cases hx
  · rw [← Option.some_inj.mp hx]

/-- What a query of the database gives back is there in some state. -/
theorem rows_of_answers {J : World → Prop} {c : Connection} {q : Query} {rows : List q.Row}
    (h : (under col may).answers J (.executeQuery c q) (some rows)) :
    ∃ w, J w ∧ q.run col (w.servers c.url) = rows := by
  obtain ⟨w, w', hw, f, -, hstep⟩ := h
  have hx : (step col (.executeQuery c q) f w).1 = some rows := congrArg Prod.fst hstep
  simp only [step] at hx
  split at hx
  · cases hx
  · exact ⟨w, hw, Option.some_inj.mp hx⟩

/-- Every call has an answer. -/
theorem exists_answer {J : World → Prop} {w : World} (hw : J w) (c : Call) :
    ∃ x, (under col may).answers J c x :=
  ⟨(step col c .fine w).1, w, _, hw, .fine, nofun, rfl⟩

/-- A call that does not set the MySQL details leaves the program with its database. -/
theorem at_of_post {c : Call} {x : c.Ret} {w w' : World} (h : (under col may).post c w x w')
    (hc : c.keepsAddress) (hw : At url w) : At url w' := by
  obtain ⟨f, -, rfl⟩ := step_of_post h
  exact (congrFun (step_mysql hc col f w) _).trans hw

end Answers

/-! ## What a move does to the databases -/

/-- Every call has some answer. -/
theorem Call.exists_ret (c : Call) : Nonempty c.Ret :=
  ⟨(step .exact c .fine (.launched (fun _ => .empty) none)).1⟩

/-- The call ran a statement on the database at `url`. -/
def Writes {σ : Type} (url : String) (u : Update) : Event calls σ → Prop
  | ⟨_, .executeUpdate c u', ok⟩ => c.url = url ∧ u' = u ∧ ok = true
  | _ => False

theorem writes_blind {σ : Type} {url : String} {u : Update} {e : Event calls σ} :
    Writes url u (⟨(), e.call, e.ret⟩ : Event calls Unit) ↔ Writes url u e := by
  obtain ⟨before, c, x⟩ := e
  cases c <;> exact Iff.rfl

/-- The statement that writes, if the call is one. -/
def Call.update : Call → Option Update
  | .executeUpdate _ u => some u
  | _ => none

theorem isStatement_of_update {c : Call} {u : Update} (h : c.update = some u) :
    c.isStatement = true := by
  cases c <;> first | rfl | cases h

/-- A reading only updates what it may. -/
theorem update_of_ofReading {U : Update → Prop} {c : Call} {u : Update} (hc : c.ofReading U)
    (hu : c.update = some u) : U u := by
  cases c with
  | executeUpdate c u' =>
    obtain rfl := Option.some_inj.mp hu
    exact hc
  | _ => cases hu

theorem Writes.update {σ : Type} {url : String} {u : Update} {e : Event calls σ}
    (h : Writes url u e) : e.call.update = some u := by
  obtain ⟨before, c, x⟩ := e
  cases c with
  | executeUpdate c u' =>
    obtain ⟨-, rfl, -⟩ := h
    rfl
  | _ => exact h.elim

/-- A call changes a database by running a statement on it, or not at all. -/
theorem servers_of_post {col : Collation} {may : Call → Prop} {c : Call} {x : c.Ret}
    {w w' : World} (h : (under col may).post c w x w') (url : String) :
    ((∀ u, ¬ Writes url u ⟨w, c, x⟩) ∧ w'.servers url = w.servers url) ∨
      ∃ u, Writes url u ⟨w, c, x⟩ ∧ w'.servers url = (w.servers url).apply col u := by
  obtain ⟨f, rfl, rfl⟩ := step_of_post h
  cases c with
  | executeUpdate c u =>
    cases hf : f.fails with
    | true =>
      refine .inl ⟨?_, by simp [step, hf]⟩
      rintro u' ⟨-, -, hok⟩
      simp [step, hf] at hok
    | false =>
      by_cases hurl : c.url = url
      · subst hurl
        refine .inr ⟨u, ⟨rfl, rfl, by simp [step, hf]⟩, ?_⟩
        simp [step, hf, World.update]
      · refine .inl ⟨fun u' hu => hurl hu.1, ?_⟩
        simp [step, hf, World.update, Function.update_of_ne (Ne.symm hurl)]
  | _ =>
    refine .inl ⟨fun _ => id, ?_⟩
    first | rfl | exact congrFun ((step_outside rfl col f w).servers (by simp)) url

/-! ## Recognition -/

section Recognition

variable [Jdk]

theorem wp_collectNode_watching {acc : List String × List String} {row : NodeRow}
    {Q : List String × List String → Unit × Told → Prop}
    (h : Q (acc.1 ++ [row.id], acc.2 ++ (parsedAddress row).toList) ((), t)) :
    wp (watching A) (collectNode acc row) Q E ((), t) := by
  unfold collectNode
  cases haddr : row.address with
  | none =>
    simp only [wp_bind]
    exact wp_appendToOutput_watching _ (by simpa [parsedAddress, haddr] using h)
  | some a =>
    cases hparse : parsesURL (some a) with
    | true => simpa [parsedAddress, haddr, hparse, Option.filter] using h
    | false =>
      simp only [hparse, Bool.false_eq_true, if_false, wp_bind]
      refine wp_appendToOutput_watching _ ?_
      simpa [parsedAddress, haddr, hparse, Option.filter] using h

theorem wp_lookUpNode_watching {id : String}
    {Q : Option (Connection × List String × List String) → Unit × Told → Prop}
    (h : ∀ c rows, A .getConnection (some c) → A (.executeQuery c (.node id)) (some rows) →
      Q (some (c, nodeLookup rows)) ((), t ++ [⟨(), .executeQuery c (.node id), some rows⟩]))
    (hclosed : Failing A → Q none ((), t))
    (hbad : ∀ c x, Failing A → Q none ((), t ++ [⟨(), .executeQuery c (.node id), x⟩])) :
    wp (watching A) (lookUpNode id) Q E ((), t) := by
  simp only [lookUpNode, wp_bind]
  refine wp_openStatement_watching (fun c hc => ?_) hclosed
  simp only [wp_bind]
  refine wp_executeQuery_watching (fun rows hrows => ?_) (hbad c none)
  simp only [wp_bind]
  refine wp_whileNext_watching (g := fun acc row => (acc.1 ++ [row.id],
    acc.2 ++ (parsedAddress row).toList)) rows ([], []) (fun _ _ _ hR => wp_collectNode_watching hR)
    ?_ fun hfail => ?_
  · rw [foldl_collect]
    exact h c rows hc hrows
  · simp only [wp_bind]
    exact wp_appendToOutput_watching _ (hbad c _ hfail)

omit [Jdk] in
theorem wp_lookUpTypes_watching {id : String} {Q : Option (List String) → Unit × Told → Prop}
    (h : ∀ c rows, A .getConnection (some c) → A (.executeQuery c (.sensors id)) (some rows) →
      Q (some (rows.map SensorRow.type))
        ((), t ++ [⟨(), .executeQuery c (.sensors id), some rows⟩]))
    (hclosed : Failing A → Q none ((), t))
    (hbad : ∀ c x, Failing A → Q none ((), t ++ [⟨(), .executeQuery c (.sensors id), x⟩])) :
    wp (watching A) (lookUpTypes id) Q E ((), t) := by
  simp only [lookUpTypes, wp_bind]
  refine wp_openStatement_watching (fun c hc => ?_) hclosed
  simp only [wp_bind]
  refine wp_executeQuery_watching (fun rows hrows => ?_) (hbad c none)
  exact wp_readRows_watching (h c rows hc hrows) (hbad c _)

omit [Jdk] in
theorem wp_readBounds_watching {id type : String} {Q : Option (List Bounds) → Unit × Told → Prop}
    (h : ∀ c rows, A .getConnection (some c) →
      Q (some rows) ((), t ++ [⟨(), .executeQuery c (.bounds id type), some rows⟩]))
    (hnone : ∀ t', Failing A → Q none ((), t')) :
    wp (watching A) (readBounds id type) Q E ((), t) := by
  simp only [readBounds, wp_bind]
  refine wp_openStatement_watching (fun c hc => ?_) (hnone _)
  simp only [wp_bind]
  refine wp_executeQuery_watching (fun rows _ => ?_) (hnone _)
  simp only [wp_bind]
  refine wp_readRows_watching ?_ (hnone _)
  simp only [wp_bind]
  refine wp_closeConnection_watching ?_
  rw [List.map_id']
  exact h c rows hc

end Recognition

/-! ## Playing threads -/

section Playing

variable {ι : Type} [DecidableEq ι]

/-- Let threads move in the given order, nothing failing. -/
def racing (ps : ι → Panel α) (order : List ι) (w : World) :
    List (Move ι calls World) × (ι → Panel α) × World :=
  (machine .exact).interleave (order.map fun i => (i, Fate.fine)) ps w

theorem interleaving_racing (may : Call → Prop) (ps : ι → Panel α) (order : List ι) (w : World) :
    Interleaving (under .exact may) ps w (racing ps order w).1 (racing ps order w).2.1
      (racing ps order w).2.2 := by
  refine Machine.interleaving_interleave (l := []) (fun o ho c s hfails => ?_) .nil
  obtain ⟨i, -, rfl⟩ := List.mem_map.mp ho
  cases hfails

end Playing

end CrossingReality
