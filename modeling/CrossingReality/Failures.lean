import CrossingReality.Usage

/-!
# Failing database calls

Which calls of an execution came back with an exception of the database, and executions without
any. Rules for the parts of the methods beside a record of the failures.
-/

namespace CrossingReality

open Effects

/-- A database call that threw. -/
def Call.threw : (c : Call) → c.Ret → Bool
  | .forName, ok | .createStatement _, ok | .fetch _, ok | .executeUpdate _ _, ok
  | .close _, ok => !ok
  | .getConnection, c => c.isNone
  | .executeQuery _ _, rows => rows.isNone
  | _, _ => false

/-- A call of an execution that was a database call, and threw. -/
def failed (e : Event calls World) : Bool := Call.threw e.call e.ret

variable {col : Collation} {may : Call → Prop} {w w' : World} {α : Type} {p : Panel α}
  {l : List (Event calls World)} {r : Except Exn α}

theorem threw_of_fails {c : Call} (hc : c.isJdbc) {f : Fate} (hf : f.fails = true)
    (col : Collation) (w : World) : Call.threw c (step col c f w).1 = true := by
  cases c with
  | forName | createStatement | executeQuery | fetch | executeUpdate | close =>
    simp [step, Call.threw, hf]
  | getConnection => cases h : w.mysql .mysqlAddress <;> simp [step, Call.threw, hf, h]
  | _ => exact hc.elim

/-- An execution in which no database call failed is one in which none could. -/
theorem runs_httpFault (h : Runs (under col anyFault) p w l r w')
    (hl : ∀ e ∈ l, failed e = false) : Runs (under col httpFault) p w l r w' := by
  induction h with
  | pure a s => exact .pure a s
  | raise e s => exact .raise e s
  | @call c k s s₁ s' x l r hpost _ ih =>
    obtain ⟨f, -, hstep⟩ := hpost
    refine .call ⟨f, fun hf hc => ?_, hstep⟩ (ih fun e he => hl e (List.mem_cons_of_mem _ he))
    have hthrew := threw_of_fails hc hf col s
    have hx : (step col c f s).1 = x := congrArg Prod.fst hstep
    rw [hx] at hthrew
    have := hl ⟨s, c, x⟩ List.mem_cons_self
    rw [failed, hthrew] at this
    cases this

/-! ## Keeping the address -/

/-- The calls that keep the address of the database. -/
def Call.keepsAddress (c : Call) : Prop := ∀ d s, c ≠ .setMysql d s

theorem step_mysql {c : Call} (hc : c.keepsAddress) (col : Collation) (f : Fate) (w : World) :
    (step col c f w).2.mysql = w.mysql := by
  cases c with
  | setMysql d s => exact absurd rfl (hc d s)
  | _ => first | rfl | exact (step_outside rfl col f w).mysql

/-- Only setting a box changes what is ticked. -/
theorem step_checked {c : Call} (hc : ∀ b v, c ≠ .setSelected b v) (f : Fate) :
    (step col c f w).2.checked = w.checked := by
  cases c with
  | setSelected b v => exact absurd rfl (hc b v)
  | _ => first | rfl | exact (step_outside rfl col f w).checked

theorem keepsAddress_of_tame {c : Call} (hc : c.tame) : c.keepsAddress := by
  rintro d s rfl
  exact hc

theorem keepsAddress_of_redraws (c : Call) (hc : c.redraws fun _ => True) : c.keepsAddress :=
  keepsAddress_of_tame (tame_of_redraws hc)

theorem Redraws.keepsAddress {α : Type} {p : Panel α} (hp : Redraws (fun _ => True) p) :
    p.Uses Call.keepsAddress fun _ => True := hp.uses keepsAddress_of_redraws

/-! ## Rules beside a record -/

section Recording

variable {keep : Event calls World → Bool} {t : List (Event calls World)}

theorem wp_call_recording (c : Call) {Q : c.Ret → World × List (Event calls World) → Prop}
    {E : Exn → World × List (Event calls World) → Prop} :
    wp ((under col may).recording keep) (call c) Q E (w, t) ↔
      ∀ f : Fate, (f.fails = true → may c) → Q (step col c f w).1
        ((step col c f w).2, t ++ [⟨w, c, (step col c f w).1⟩].filter keep) := by
  constructor
  · exact fun h f hf => h.2 _ (_, _) ⟨⟨f, hf, rfl⟩, rfl⟩
  · rintro h
    refine ⟨trivial, ?_⟩
    rintro x ⟨w', t'⟩ ⟨⟨f, hf, hstep⟩, rfl : t' = _⟩
    obtain ⟨rfl, rfl⟩ : (step col c f w).1 = x ∧ (step col c f w).2 = w' := Prod.mk.inj hstep
    exact h f hf

/-- A part that only redraws is judged as without a record of calls that are not tame. -/
theorem wp_redraws_recording (hkeep : ∀ e : Event calls World, e.call.tame → keep e = false)
    {Q : α → World × List (Event calls World) → Prop}
    {E : Exn → World × List (Event calls World) → Prop} (hp : Redraws (fun _ => True) p)
    (h : wp (under col may) p (fun a w' => Q a (w', t)) (fun e w' => E e (w', t)) w) :
    wp ((under col may).recording keep) p Q E (w, t) :=
  wp_recording_of_dull (hp.tame (R := fun _ => True)) hkeep h

/-- A statement that writes, beside a record. -/
theorem wp_executeUpdate_recording {c : Connection} {u : Update} {m : Message}
    {Q : Bool → World × List (Event calls World) → Prop}
    {E : Exn → World × List (Event calls World) → Prop} (hm : keep ⟨w, .append m, ()⟩ = false)
    (hok : Q true (w.update col c.url u, t ++ [⟨w, .executeUpdate c u, true⟩].filter keep))
    (hbad : may (.executeUpdate c u) → ∀ q,
      Q false (w.quietly q, t ++ [⟨w, .executeUpdate c u, false⟩].filter keep)) :
    wp ((under col may).recording keep) (executeUpdate c u m) Q E (w, t) := by
  rw [executeUpdate, wp_bind, wp_call_recording]
  rintro ⟨fails, reply⟩ hf
  cases fails with
  | false => exact hok
  | true =>
    change wp _ (appendToOutput m >>= fun _ => pure false) Q E _
    rw [wp_bind, appendToOutput, wp_call_recording]
    intro f' _
    change Q false (w.quietly (w.traffic.say m), _ ++ [⟨w, .append m, ()⟩].filter keep)
    have hnil : [(⟨w, .append m, ()⟩ : Event calls World)].filter keep = [] := by simp [hm]
    rw [hnil, List.append_nil]
    exact hbad (hf rfl) _

/-- Without an address there is no connection, and the attempt is a failed call. -/
theorem wp_openStatement_failed {m : Message} {E : Exn → World × List (Event calls World) → Prop}
    (hw : w.mysql .mysqlAddress = none) :
    wp ((under col may).recording failed) (openStatement m) (fun _ s => s.2 ≠ []) E (w, []) := by
  simp only [openStatement, wp_bind]
  rw [wp_call_recording]
  rintro ⟨fails, reply⟩ -
  cases fails with
  | true =>
    simp only [step, Bool.not_true, Bool.not_false, if_true, wp_bind, appendToOutput]
    rw [wp_call_recording]
    exact fun _ _ => by simp [failed, Call.threw]
  | false =>
    simp only [step, Bool.not_true, Bool.not_false, Bool.false_eq_true, if_false, wp_bind,
      appendToOutput]
    rw [wp_call_recording]
    intro f _
    rw [wp_call_recording]
    intro f' _
    simp only [step, World.say, hw, wp_bind]
    rw [wp_call_recording]
    exact fun _ _ => by simp [failed, Call.threw]

end Recording

/-! ## Rules beside the failures -/

section Failing

variable {t : List (Event calls World)}

@[simp] theorem wp_appendToOutput_failing (m : Message)
    {Q : Unit → World × List (Event calls World) → Prop}
    {E : Exn → World × List (Event calls World) → Prop} :
    wp ((under col may).recording failed) (appendToOutput m) Q E (w, t) ↔
      Q () (w.quietly (w.traffic.say m), t) := by
  have hstep : ∀ f, ((step col (.append m) f w).2,
      t ++ [(⟨w, .append m, (step col (.append m) f w).1⟩ : Event calls World)].filter failed) =
        (w.quietly (w.traffic.say m), t) := fun f => by simp [step, failed, Call.threw]; rfl
  rw [appendToOutput, wp_call_recording]
  exact ⟨fun h => hstep .fine ▸ h .fine (by simp [Fate.fine]), fun h f _ => (hstep f).symm ▸ h⟩

/-- A part that makes no database call is judged as without the record. -/
theorem wp_unfailing {R : Exn → Prop} (hp : p.Uses (fun c : Call => ¬ c.isJdbc) R)
    {Q : α → World × List (Event calls World) → Prop}
    {E : Exn → World × List (Event calls World) → Prop}
    (h : wp (under col may) p (fun a w' => Q a (w', t)) (fun e w' => E e (w', t)) w) :
    wp ((under col may).recording failed) p Q E (w, t) := by
  refine wp_recording_of_dull hp ?_ h
  rintro ⟨w, c, x⟩ hc
  cases c <;> first | rfl | exact absurd trivial hc

/-- A call that throws or not, and changes nothing. -/
theorem wp_faulty_failing {c : Call} {Q : c.Ret → World × List (Event calls World) → Prop}
    {E : Exn → World × List (Event calls World) → Prop} (hc : c.isJdbc) {x : c.Ret}
    (hfine : ∀ f, f.fails = false → step col c f w = (x, w)) (hx : c.threw x = false)
    (hfail : ∀ f, f.fails = true → (step col c f w).2 = w) (hok : Q x (w, t))
    (hbad : may c → ∀ y, failed ⟨w, c, y⟩ = true → Q y (w, t ++ [⟨w, c, y⟩])) :
    wp ((under col may).recording failed) (call c) Q E (w, t) := by
  rw [wp_call_recording]
  intro f hf
  cases hfails : f.fails with
  | false =>
    rw [hfine f hfails]
    simpa [failed, hx] using hok
  | true =>
    have hthrew : failed ⟨w, c, (step col c f w).1⟩ = true :=
      threw_of_fails hc hfails col w
    rw [hfail f hfails, List.filter_singleton, hthrew]
    exact hbad (hf hfails) _ hthrew

theorem wp_createStatement_failing {c : Connection}
    {Q : Bool → World × List (Event calls World) → Prop}
    {E : Exn → World × List (Event calls World) → Prop} (hok : Q true (w, t))
    (hbad : ∀ e : Event calls World, e.before = w → failed e = true → Q false (w, t ++ [e])) :
    wp (α := Bool) ((under col may).recording failed) (call (.createStatement c)) Q E (w, t) :=
  wp_faulty_failing (c := .createStatement c) (x := true) trivial
    (fun f hf => by simp [step, hf]) rfl (fun _ _ => rfl) hok fun _ y hy => by
      cases y with
      | false => exact hbad _ rfl hy
      | true => cases hy

/-- A statement is opened without a failure, or some call failed. -/
theorem wp_openStatement_failing {m : Message}
    {Q : Option Connection → World × List (Event calls World) → Prop}
    {E : Exn → World × List (Event calls World) → Prop}
    (hok : ∀ c q, w.mysql .mysqlAddress = some c.url → Q (some c) (w.quietly q, t))
    (hbad : ∀ q q' (e : Event calls World), e.before = w.quietly q' → failed e = true →
      Q none (w.quietly q, t ++ [e])) :
    wp ((under col may).recording failed) (openStatement m) Q E (w, t) := by
  simp only [openStatement, wp_bind]
  refine wp_faulty_failing (c := .forName) (x := true) trivial (fun f hf => by simp [step, hf]) rfl
    (fun _ _ => rfl) ?_ fun _ y hy => ?_
  · simp only [Bool.not_true, Bool.false_eq_true, if_false, wp_bind, wp_appendToOutput_failing]
    cases hw : w.mysql .mysqlAddress with
    | none =>
      rw [wp_call_recording]
      intro f _
      have hstep : step col .getConnection f (w.quietly (w.traffic.say .driverLoaded)) =
          (none, w.quietly (w.traffic.say .driverLoaded)) := by simp [step, hw]
      rw [hstep]
      simp only [wp_bind, wp_appendToOutput_failing, wp_pure]
      exact hbad _ _ _ rfl rfl
    | some url =>
      rw [wp_call_recording]
      intro f _
      cases hf : f.fails with
      | true =>
        have hstep : step col .getConnection f (w.quietly (w.traffic.say .driverLoaded)) =
            (none, w.quietly (w.traffic.say .driverLoaded)) := by simp [step, hw, hf]
        rw [hstep]
        simp only [wp_bind, wp_appendToOutput_failing, wp_pure]
        exact hbad _ _ _ rfl rfl
      | false =>
        have hstep : step col .getConnection f (w.quietly (w.traffic.say .driverLoaded)) =
            (some ⟨w.nextHandle, url⟩,
              w.quietly ((w.traffic.say .driverLoaded).opened)) := by
          simp [step, hw, hf, World.quietly, World.traffic, Traffic.opened, Traffic.say]
        rw [hstep, List.filter_cons_of_neg (by simp [failed, Call.threw]), List.filter_nil,
          List.append_nil]
        simp only [wp_bind, wp_appendToOutput_failing]
        refine wp_createStatement_failing ?_ fun e he hfails => ?_
        · exact hok ⟨w.nextHandle, url⟩ _ hw
        · simp only [Bool.not_false, if_true, wp_bind, wp_appendToOutput_failing, wp_pure]
          exact hbad _ _ e he hfails
  · cases y with
    | false =>
      simp only [Bool.not_false, if_true, wp_bind, wp_appendToOutput_failing, wp_pure]
      exact hbad _ w.traffic _ rfl hy
    | true => cases hy

theorem wp_executeQuery_failing {c : Connection} {q : Query} {m : Message}
    {Q : Option (List q.Row) → World × List (Event calls World) → Prop}
    {E : Exn → World × List (Event calls World) → Prop}
    (hok : Q (some (q.run col (w.servers c.url))) (w, t))
    (hbad : ∀ q' (e : Event calls World), e.before = w → failed e = true →
      Q none (w.quietly q', t ++ [e])) :
    wp ((under col may).recording failed) (executeQuery c q m) Q E (w, t) := by
  simp only [executeQuery, wp_bind]
  refine wp_faulty_failing (c := .executeQuery c q) (x := some (q.run col (w.servers c.url)))
    trivial (fun f hf => by simp [step, hf]) rfl (fun f hf => by simp [step, hf]) hok
    fun _ y hy => ?_
  cases y with
  | none =>
    simp only [wp_bind, wp_appendToOutput_failing, wp_pure]
    exact hbad _ _ rfl hy
  | some rows => cases hy

theorem wp_executeUpdate_failing {c : Connection} {u : Update} {m : Message}
    {Q : Bool → World × List (Event calls World) → Prop}
    {E : Exn → World × List (Event calls World) → Prop}
    (hok : Q true (w.update col c.url u, t))
    (hbad : ∀ q (e : Event calls World), e.before = w → failed e = true →
      Q false (w.quietly q, t ++ [e])) :
    wp ((under col may).recording failed) (executeUpdate c u m) Q E (w, t) :=
  wp_executeUpdate_recording rfl (by simpa [failed, Call.threw] using hok)
    fun _ q => hbad q ⟨w, .executeUpdate c u, false⟩ rfl rfl

theorem wp_readRows_failing {ρ β : Type} {c : Connection} {column : ρ → β} {rows : List ρ}
    {Q : Option (List β) → World × List (Event calls World) → Prop}
    {E : Exn → World × List (Event calls World) → Prop}
    (hok : Q (some (rows.map column)) (w, t))
    (hbad : ∀ q (e : Event calls World), e.before = w → failed e = true →
      Q none (w.quietly q, t ++ [e])) :
    wp ((under col may).recording failed) (readRows c column rows) Q E (w, t) := by
  have hfetch : ∀ {R : Bool → World × List (Event calls World) → Prop}, R true (w, t) →
      (∀ e : Event calls World, e.before = w → failed e = true → R false (w, t ++ [e])) →
      wp (α := Bool) ((under col may).recording failed) (call (.fetch c)) R E (w, t) :=
    fun h h' => wp_faulty_failing (c := .fetch c) (x := true) trivial
      (fun f hf => by simp [step, hf]) rfl (fun _ _ => rfl) h fun _ y hy => by
        cases y with
        | false => exact h' _ rfl hy
        | true => cases hy
  have hwhile : ∀ (rows : List ρ) (acc : List β)
      {R : Option (List β) → World × List (Event calls World) → Prop},
      R (some (acc ++ rows.map column)) (w, t) →
      (∀ e : Event calls World, e.before = w → failed e = true → R none (w, t ++ [e])) →
      wp ((under col may).recording failed)
        (whileNext c (fun acc row => pure (acc ++ [column row])) rows acc) R E (w, t) := by
    intro rows
    induction rows with
    | nil =>
      intro acc R h h'
      simp only [whileNext, wp_bind]
      refine hfetch (by simpa using h) fun e he hfails => ?_
      simpa using h' e he hfails
    | cons row rows ih =>
      intro acc R h h'
      simp only [whileNext, wp_bind]
      refine hfetch ?_ fun e he hfails => by simpa using h' e he hfails
      simp only [Bool.not_true, Bool.false_eq_true, if_false, wp_bind, wp_pure]
      exact ih _ (by simpa using h) h'
  simp only [readRows, wp_bind]
  refine hwhile rows [] (by simpa using hok) fun e he hfails => ?_
  simp only [wp_bind, wp_appendToOutput_failing, wp_pure]
  exact hbad _ e he hfails

end Failing

/-- An execution that opens a statement first, without a failed database call, has an address to
connect to. -/
theorem exists_address {β : Type} {m : Message} {f : Option Connection → Panel β}
    {r : Except Exn β} (h : Runs (under col may) (openStatement m >>= f) w l r w')
    (hl : ∀ e ∈ l, failed e = false) : ∃ url, w.mysql .mysqlAddress = some url := by
  have hfirst : ∃ r₁ l₁ w₁, Runs (under col may) (openStatement m) w l₁ r₁ w₁ ∧
      ∀ e ∈ l₁, failed e = false := by
    rcases h.bind_cases with ⟨e, -, h₁⟩ | ⟨a, w₁, l₁, l₂, rfl, h₁, -⟩
    · exact ⟨_, _, _, h₁, hl⟩
    · exact ⟨_, _, _, h₁, fun e he => hl e (List.mem_append_left _ he)⟩
  obtain ⟨r₁, l₁, w₁, h₁, hl₁⟩ := hfirst
  cases hw : w.mysql .mysqlAddress with
  | some url => exact ⟨url, rfl⟩
  | none =>
    have := h₁.of_recording (wp_openStatement_failed hw)
    exact absurd (List.filter_eq_nil_iff.mpr fun e he => by simp [hl₁ e he]) this


end CrossingReality
