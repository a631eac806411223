import CrossingReality.Terminals
import CrossingReality.Threads

/-!
# Exceptions that nothing catches

A reading catches what the database throws. What it does not catch comes from what others have
left behind: a list that start-up never made, an entry of a list without a node or a type, a row
that is gone by the time its bounds are read, text areas that are not level. One more is its own
slip, the console of the object made for the request.

* `AllNamed` — no entry lacks a string; kept unless *Remove sensor* is pressed with a box empty.
* `interleaving_returns` — readings beside removals, from any state the program can get to.
-/

namespace CrossingReality

open Effects

variable {col : Collation} {may : Call → Prop} {w w' : World}

/-! ## Entries of the ignore list -/

/-- Both strings of an entry are there. -/
def SensorIgnoreIdTypeObject.Named (o : SensorIgnoreIdTypeObject) : Prop :=
  o.id ≠ none ∧ o.type ≠ none

/-- Every entry of the list of sensors, if there is one, has both strings. -/
def AllNamed (w : World) : Prop := ∀ l, w.ignoreSensorList = some l → ∀ o ∈ l, o.Named

section Entries

variable [Jdk] {o : SensorIgnoreIdTypeObject} {l : List SensorIgnoreIdTypeObject}

theorem equals_of_named {entry : SensorIgnoreIdTypeObject} (h : entry.Named) :
    ∃ b, o.equals entry = .ok b := by
  obtain ⟨id, type⟩ := entry
  obtain ⟨id, rfl⟩ := Option.ne_none_iff_exists'.mp h.1
  obtain ⟨type, rfl⟩ := Option.ne_none_iff_exists'.mp h.2
  simp only [SensorIgnoreIdTypeObject.equals]
  split <;> exact ⟨_, rfl⟩

/-- A search through entries with both strings throws nothing. -/
theorem containsEntry_of_named (h : ∀ entry ∈ l, entry.Named) : ∃ b, containsEntry o l = .ok b := by
  induction l with
  | nil => exact ⟨false, rfl⟩
  | cons entry l ih =>
    obtain ⟨b, hb⟩ := equals_of_named (o := o) (h entry List.mem_cons_self)
    rw [containsEntry, hb]
    cases b with
    | true => exact ⟨true, rfl⟩
    | false => exact ih fun entry he => h entry (List.mem_cons_of_mem _ he)

theorem mem_of_mem_removeEntry {rest : List SensorIgnoreIdTypeObject}
    (h : removeEntry o l = .ok rest) : ∀ entry ∈ rest, entry ∈ l := by
  induction l generalizing rest with
  | nil =>
    obtain rfl := Except.ok.inj h
    exact fun _ he => he
  | cons entry l ih =>
    rw [removeEntry] at h
    cases ho : o.equals entry with
    | error e => simp [ho] at h
    | ok b =>
      cases b with
      | true =>
        obtain rfl : l = rest := by simpa [ho] using h
        exact fun _ he => List.mem_cons_of_mem _ he
      | false =>
        cases hrest : removeEntry o l with
        | error e => simp [ho, hrest, Except.map] at h
        | ok rest' =>
          obtain rfl : entry :: rest' = rest := by simpa [ho, hrest, Except.map] using h
          intro e he
          rcases List.mem_cons.mp he with rfl | he
          · exact List.mem_cons_self
          · exact List.mem_cons_of_mem _ (ih hrest e he)

end Entries

/-! ## What turns do to the lists -/

/-- The calls that put no entry without a string on the list of sensors. -/
def Call.names : Call → Prop
  | .setIgnoreSensorList _ => False
  | .addIgnoreSensor o => o.Named
  | _ => True

/-- No call takes a list away. -/
theorem step_lists (c : Call) (f : Fate) (w : World) :
    ((step col c f w).2.ignoreNodeList = none → w.ignoreNodeList = none) ∧
      ((step col c f w).2.ignoreSensorList = none → w.ignoreSensorList = none) := by
  have hsame : ∀ {α : Type} {x y : Option α}, x = y → (x = none → y = none) := fun h => h ▸ id
  cases c with
  | setIgnoreNodeList l => exact ⟨by simp [step], id⟩
  | setIgnoreSensorList l => exact ⟨id, by simp [step]⟩
  | addIgnoreNode | removeIgnoreNode | addIgnoreSensor => simp [step]
  | _ =>
    first
    | exact ⟨id, id⟩
    | exact ⟨hsame (step_outside rfl col f w).ignoreNodeList,
        hsame (step_outside rfl col f w).ignoreSensorList⟩

theorem step_ignoreSensorList {c : Call} (hset : ∀ l, c ≠ .setIgnoreSensorList l)
    (hadd : ∀ o, c ≠ .addIgnoreSensor o) (f : Fate) :
    (step col c f w).2.ignoreSensorList = w.ignoreSensorList := by
  cases c with
  | setIgnoreSensorList l => exact absurd rfl (hset l)
  | addIgnoreSensor o => exact absurd rfl (hadd o)
  | _ => first | rfl | exact (step_outside rfl col f w).ignoreSensorList

theorem AllNamed.add {o : SensorIgnoreIdTypeObject} (hw : AllNamed w) (ho : o.Named) :
    AllNamed (w.listing w.ignoreNodeList (w.ignoreSensorList.map (· ++ [o]))) := by
  intro l hl
  obtain ⟨l', hl', rfl⟩ := Option.map_eq_some_iff.mp hl
  intro o' ho'
  rcases List.mem_append.mp ho' with ho' | ho'
  · exact hw l' hl' o' ho'
  · obtain rfl := List.mem_singleton.mp ho'
    exact ho

theorem allNamed_of_post {c : Call} {x : c.Ret} (hc : c.names) (hw : AllNamed w)
    (hx : (under col may).post c w x w') : AllNamed w' := by
  obtain ⟨f, -, rfl⟩ := step_of_post hx
  cases c with
  | setIgnoreSensorList l => exact hc.elim
  | addIgnoreSensor o => exact hw.add hc
  | _ =>
    intro l hl
    rw [step_ignoreSensorList (by nofun) (by nofun)] at hl
    exact hw l hl

theorem names_of_tame {c : Call} (hc : c.tame) : c.names := by
  cases c with
  | setIgnoreSensorList l | addIgnoreSensor o => exact hc.elim
  | _ => trivial

/-- What makes only calls that name entries keeps them named. -/
theorem keeps_named {α : Type} {p : Panel α} (hp : p.Uses Call.names fun _ => True) :
    Keeps (under col may) AllNamed p :=
  keeps_of_uses hp fun _ _ hc hw => ⟨trivial, fun _ _ hx => allNamed_of_post hc hw hx⟩

theorem keeps_of_redraws {α : Type} {p : Panel α} (hp : Redraws (fun _ => True) p) :
    Keeps (under col may) AllNamed p :=
  keeps_named (hp.uses fun _ hc => names_of_tame (tame_of_redraws hc))

section Turns

variable [Jdk]

theorem keeps_unignoreSensor : Keeps (under col may) AllNamed unignoreSensor := by
  refine (keeps_of_redraws (redraws_getSelectedItem _)).bind fun id => ?_
  refine (keeps_of_redraws (redraws_getText _)).bind fun type => ?_
  refine (keeps_named (uses_ignoreSensorListContains _ trivial)).bind fun listed => ?_
  refine keeps_ite _ (fun w hw => ?_) (keeps_pure _)
  simp only [wp_bind, wp_getIgnoreSensorList]
  cases hl : w.ignoreSensorList with
  | none => exact hw
  | some l =>
    simp only
    cases hrest : removeEntry ⟨id, some type⟩ l with
    | error e => exact hw
    | ok rest =>
      simp only [wp_bind, wp_setIgnoreSensorList, wp_appendToOutput]
      intro l' hl' o ho
      obtain rfl := Option.some_inj.mp hl'
      exact hw l hl o (mem_of_mem_removeEntry hrest o ho)

theorem keeps_manualSensorAdd : Keeps (under col may) AllNamed manualSensorAdd := by
  have hsay : ∀ m, Keeps (under col may) AllNamed (do appendToOutput m; return : Panel Unit) :=
    fun m => (keeps_of_redraws (redraws_appendToOutput m)).bind fun _ => keeps_pure _
  refine (keeps_of_redraws (redraws_getText _)).bind fun type => keeps_ite _ (hsay _) ?_
  refine (keeps_of_redraws (redraws_openStatement _)).bindOption (keeps_pure _) fun connect => ?_
  refine (keeps_of_redraws (redraws_getSelectedItem _)).bind fun id => ?_
  refine (keeps_of_redraws (redraws_getText _)).bind fun type => ?_
  refine (keeps_of_redraws (redraws_executeQuery _ _ _)).bindOption (keeps_pure _) fun rows => ?_
  refine (keeps_of_redraws (redraws_readRows _ _ _)).bindOption (keeps_pure _) fun types => ?_
  refine keeps_ite _ (hsay _) ((keeps_of_redraws (redraws_appendToOutput _)).bind fun _ => ?_)
  refine .bind (keeps_named ?_) fun _ => ?_
  · simp only [ignoreSensorListContainsString, uses_call_bind]
    refine ⟨trivial, fun ignored => ?_⟩
    cases ignored <;> trivial
  refine (keeps_of_redraws (redraws_createStatement _)).bind fun ok => keeps_ite _ (hsay _) ?_
  refine (keeps_of_redraws (redraws_getSelectedItem _)).bind fun id => ?_
  refine (keeps_of_redraws (redraws_getText _)).bind fun type => ?_
  refine .bind (keeps_named (uses_executeUpdate (fun _ => trivial) (fun _ => trivial) _ _))
    fun ok => keeps_ite _ (keeps_pure _) ?_
  refine (keeps_of_redraws (redraws_appendToOutput _)).bind fun _ => ?_
  refine (keeps_of_redraws (redraws_closeConnection _)).bind fun _ => ?_
  refine keeps_unignoreSensor.bind fun _ => ?_
  refine (keeps_of_redraws (redraws_getSelectedItem _)).bind fun id => ?_
  refine (keeps_of_redraws (redraws_updateSensorsSelect trivial _)).bind fun _ => ?_
  exact keeps_named ((tame_setText _ _).mono (fun _ => names_of_tame) fun _ h => h)

omit [Jdk] in
/-- A removal with both boxes filled, or without *Prevent auto add*, puts a named entry on the
list, if any. -/
theorem wp_removeSensor_named {id type : Option String} (hw : AllNamed w)
    (hnamed : w.checked .wsnSensorsRemoveSensorIgnoreCheck = true →
      (⟨id, type⟩ : SensorIgnoreIdTypeObject).Named) :
    wp (under col may) (removeSensor id type) (fun _ => AllNamed) (fun _ => AllNamed) w := by
  have hdelete : Keeps (under col may) AllNamed (deleteSensor id type) :=
    keeps_named ((uses_deleteSensor id type).mono (fun _ => names_of_tame) fun _ h => h)
  simp only [removeSensor, ignoreSensorIfTicked, wp_bind, wp_isSelected]
  rw [wp_ite]
  refine ⟨fun hticked => ?_, fun _ => hdelete w hw⟩
  simp only [wp_bind, wp_addIgnoreSensor]
  have hadded := hw.add (hnamed hticked)
  rw [wp_ite]
  refine ⟨fun _ => ?_, fun _ => hadded⟩
  rw [wp_appendToOutput]
  exact hdelete _ hadded

/-- Where *Remove sensor* is pressed to prevent auto add, both boxes are filled. -/
def Filled (t : PanelTurn) : Prop :=
  t.action = .press .wsnSensorsRemoveSensorButton →
    t.before.checked .wsnSensorsRemoveSensorIgnoreCheck = true →
      (t.before.combo .wsnSensorsNodeComboBox).selected ≠ none ∧
        (t.before.combo .wsnSensorsSensorsComboBox).selected ≠ none

/-- **Step.** The entries stay named. -/
theorem allNamed_turn {t : PanelTurn} {l : List (Event calls World)} (hw : AllNamed t.before)
    (ht : Filled t)
    (hrun : Runs (under col anyFault) t.action.program t.before l t.outcome t.after) :
    AllNamed t.after := by
  by_cases hadd : t.action = .press .wsnSensorsManualAddSensorButton
  · rw [hadd] at hrun
    exact hrun.of_wp (keeps_manualSensorAdd _ hw)
  by_cases hremove : t.action = .press .wsnSensorsRemoveSensorButton
  · have hfilled := ht hremove
    rw [hremove] at hrun
    refine hrun.of_wp ?_
    simp only [Action.program, actionPerformed, wp_bind, wp_getSelectedItem]
    exact wp_removeSensor_named hw hfilled
  refine hrun.of_wp (keeps_named ((uses_action t.action).mono (fun c hc => ?_) fun _ h => h) _ hw)
  cases haction : t.action with
  | reading id type value =>
    rw [haction] at hc
    cases c with
    | setIgnoreSensorList l | addIgnoreSensor o => exact hc.elim
    | _ => trivial
  | press b =>
    rw [haction] at hc hadd hremove
    cases b with
    | wsnSensorsManualAddSensorButton => exact absurd rfl hadd
    | wsnSensorsRemoveSensorButton => exact absurd rfl hremove
    | wsnGeneralManualNodeAddButton =>
      obtain hc | ⟨id, rfl⟩ | ⟨k, id, a, rfl⟩ := hc
      · exact names_of_tame hc
      · trivial
      · trivial
    | wsnGeneralRemoveNodeButton =>
      obtain hc | ⟨id, rfl⟩ := hc
      · exact names_of_tame hc
      · trivial
    | wsnGeneralUpdateMysqlAddressButton | wsnGeneralSaveMysqlDetailsButton =>
      obtain hc | ⟨d, s, rfl⟩ := hc
      · exact names_of_tame hc
      · trivial
    | _ => exact names_of_tame hc
  | _ =>
    rw [haction] at hc
    exact names_of_tame hc

/-- **Run.** Whatever the details file held, the entries are named, the lists exist if start-up ran
to its end, and the text areas are level. -/
theorem session_named {servers : String → Database} {details : Option String}
    {l : List (Event calls World)} {r : Except Exn Unit} {w₀ : World} {ts : List PanelTurn}
    (hstart : Runs (under col anyFault) (withCarets startUp) (.launched servers details) l r w₀)
    (hsession : Session (under col anyFault) Action.withCarets w₀ ts w)
    (hts : ∀ t ∈ ts, Filled t ∧ Closes t) :
    AllNamed w ∧ (r = .ok () → w.ignoreNodeList ≠ none ∧ w.ignoreSensorList ≠ none) ∧
      Level w.output := by
  have hload : Keeps (under col anyFault) AllNamed loadMysqlDetails :=
    keeps_named (uses_loadMysqlDetails (fun _ hc => names_of_tame (tame_of_redraws hc)) trivial
      (fun _ _ => trivial) fun _ _ => trivial)
  have hwp : wp (under col anyFault) startUp
      (fun _ w' => w'.ignoreNodeList ≠ none ∧ w'.ignoreSensorList ≠ none ∧ AllNamed w')
      (fun _ => AllNamed) (.launched servers details) := by
    simp only [startUp, wp_bind]
    have hnone : AllNamed (World.launched servers details) := fun l hl => by cases hl
    refine (hload _ hnone).mono (fun _ w' _ => ?_) fun _ _ h => h
    refine (wp_call_steady (c := .setIgnoreNodeList []) fun _ => rfl).mpr ?_
    rw [wp_setIgnoreSensorList]
    refine ⟨by simp [World.listing], by simp [World.listing], ?_⟩
    intro l hl o ho
    cases hl
    cases ho
  obtain ⟨l', hplain, hlevel, -⟩ := runs_of_withCarets wholeLines_startUp (fun _ => rfl) hstart
  have hstarted := hplain.outcome_of_wp hwp
  refine hsession.invariant (I := fun _ w => AllNamed w ∧
    (r = .ok () → w.ignoreNodeList ≠ none ∧ w.ignoreSensorList ≠ none) ∧ Level w.output) hts ?_ ?_
  · cases r with
    | ok u => exact ⟨hstarted.2.2, fun _ => ⟨hstarted.1, hstarted.2.1⟩, hlevel⟩
    | error e => exact ⟨hstarted, nofun, hlevel⟩
  · intro ts t hw ht hrun
    obtain ⟨hnamed, hlists, hlevel⟩ := hw
    obtain ⟨hfilled, hcloses⟩ := ht
    obtain ⟨l'', hrun, hlevel, -⟩ := runs_plain hcloses hlevel hrun
    refine ⟨allNamed_turn hnamed hfilled hrun, fun hr => ?_, hlevel⟩
    refine hrun.of_wp ((wp_of_steps
      (I := fun w => w.ignoreNodeList ≠ none ∧ w.ignoreSensorList ≠ none) (uses_action t.action)
      (fun c f w _ hw => ?_) (hlists hr)).mono (fun _ _ h => h) fun _ _ h => h.2)
    exact ⟨fun h => hw.1 ((step_lists c f w).1 h), fun h => hw.2 ((step_lists c f w).2 h)⟩

end Turns

/-! ## What a reading can run into -/

section Reading

variable {url id type : String} {v : Int32} {A : (c : Call) → c.Ret → Prop} {t : Told} {α : Type}

/-- The call found that the sensor is registered. -/
def Finds {σ : Type} (url id type : String) : Event calls σ → Prop
  | ⟨_, .executeQuery c (.sensors i), x⟩ =>
    c.url = url ∧ i = id ∧ ∃ rows : List SensorRow, x = some rows ∧ type ∈ rows.map SensorRow.type
  | _ => False

/-- The call found no bounds of the sensor. -/
def FindsNone {σ : Type} (url id type : String) : Event calls σ → Prop
  | ⟨_, .executeQuery c (.bounds i t), x⟩ => c.url = url ∧ i = id ∧ t = type ∧ x = some []
  | _ => False

/-- What makes a reading raise: a connection on which it added a node does not close, or a sensor
it has found is gone when it reads the bounds. -/
def Hit (A : (c : Call) → c.Ret → Prop) (url id type : String) (t : Told) : Prop :=
  (∃ c, (∃ e ∈ t, AddsNode c e) ∧ A (.close c) false) ∨
    ∃ t₁ e t₂ e', t = t₁ ++ e :: t₂ ∧ Finds url id type e ∧ e' ∈ t₂ ∧ FindsNone url id type e'

/-- For one thread, a line is a call, if its carets can be set. -/
theorem faithful_watching {A : (c : Call) → c.Ret → Prop} {E : Exn → Unit × Told → Prop}
    (happend : ∀ m, A (.append m) ()) (hcaret : ∀ a, ¬ A (.setCaretPosition a) false) :
    Faithful (watching A) statements E := by
  refine faithful_statements (fun c s hc => ⟨trivial, ?_⟩) (fun a s h => absurd h.1 (hcaret a))
    fun m s => ⟨happend m, ?_⟩
  · intro x s' hx
    obtain ⟨u, t⟩ := s'
    obtain rfl : t = _ := hx.2
    cases c with
    | appendArea | setCaretPosition => exact Prod.ext rfl (List.append_nil _)
    | _ => cases hc
  · exact (List.append_nil _).symm

/-- A part that raises nothing. -/
theorem wp_mute {P : Call → Prop} {p : Panel α} {E : Exn → Unit × Told → Prop}
    (hp : p.Uses P fun _ => False) : wp (watching A) p (fun _ _ => True) E ((), t) :=
  (wp_keeping (I := fun _ => True) hp (fun _ _ _ _ => trivial) trivial).mono (fun _ _ _ => trivial)
    fun _ _ h => h.1.elim

variable [Jdk]

omit [Jdk] in
theorem wp_unrecognisedNode_hit {c : Connection}
    (hlist : A (.isSelected .wsnGeneralAutoAddCheck) true → ¬ A .getIgnoreNodeList none) :
    wp (watching A) (unrecognisedNode c id) (fun _ _ => True)
      (fun _ s => Hit A url id type s.2) ((), t) := by
  simp only [unrecognisedNode, wp_bind]
  refine wp_appendToOutput_watching _ (wp_isSelected_watching _ fun auto hauto => ?_)
  rw [wp_ite]
  refine ⟨fun _ => ?_, fun hon => ?_⟩
  · rw [wp_bind]
    exact wp_appendToOutput_watching _ trivial
  obtain rfl : auto = true := by simpa using hon
  rw [wp_bind]
  refine (wp_plain (c := .getIgnoreNodeList) rfl).mpr fun ignored hignored => ?_
  cases ignored with
  | none => exact absurd hignored (hlist hauto)
  | some l =>
    simp only
    rw [wp_ite]
    refine ⟨fun _ => ?_, fun _ => ?_⟩
    · rw [wp_bind]
      exact wp_appendToOutput_watching _ trivial
    simp only [addUnrecognisedNode, wp_bind]
    refine wp_appendToOutput_watching _ ((wp_plain (c := .createStatement c) rfl).mpr
      fun created _ => ?_)
    rw [wp_ite]
    refine ⟨fun _ => ?_, fun _ => ?_⟩
    · rw [wp_bind]
      exact wp_appendToOutput_watching _ trivial
    rw [wp_bind]
    refine wp_executeUpdate_watching fun ok _ => ?_
    cases ok with
    | false => trivial
    | true =>
      simp only [Bool.not_true, Bool.false_eq_true, if_false, wp_bind]
      refine wp_closeConnection_watching_perRequest ?_ fun hclose => .inl ⟨c, ⟨_,
        List.mem_append_right _ (List.mem_singleton_self _), by exact ⟨rfl, rfl⟩⟩, hclose⟩
      exact wp_appendToOutput_watching _ (wp_mute tame_updateNodeSelects)

theorem wp_unrecognisedSensor_hit
    (hlist : ∀ x, A .getIgnoreSensorList x → ∃ l, x = some l ∧ ∀ o ∈ l, o.Named) :
    wp (watching A) (unrecognisedSensor id type) (fun _ _ => True)
      (fun _ s => Hit A url id type s.2) ((), t) := by
  simp only [unrecognisedSensor, ignoreSensorListContains, wp_bind]
  refine (wp_plain (c := .getIgnoreSensorList) rfl).mpr fun ignored hignored => ?_
  obtain ⟨l, rfl, hnamed⟩ := hlist ignored hignored
  obtain ⟨listed, hlisted⟩ := containsEntry_of_named (o := ⟨some id, some type⟩) hnamed
  simp only [hlisted, wp_pure]
  rw [wp_ite]
  refine ⟨fun _ => ?_, fun _ => ?_⟩
  · rw [wp_bind]
    exact wp_appendToOutput_watching _ trivial
  simp only [addUnrecognisedSensor, wp_bind]
  refine wp_appendToOutput_watching _ (wp_openStatement_watching (fun c _ => ?_) fun _ => trivial)
  simp only [wp_bind]
  refine wp_executeUpdate_watching fun ok _ => wp_mute (P := fun c => c.redraws fun _ => True)
    (Program.uses_ite _ trivial ?_)
  refine (redraws_appendToOutput _).bind fun _ => (redraws_closeConnection _).bind fun _ => ?_
  refine (redraws_getSelectedItem _).bind fun selected => ?_
  exact (redraws_updateSensorsSelect trivial _).bind fun _ => redraws_appendToOutput _

/-- The sensor has been found. -/
def Found (url id type : String) (t : Told) : Prop := ∃ e ∈ t, Finds url id type e

omit [Jdk] in
theorem Found.append (h : Found url id type t) (t' : Told) : Found url id type (t ++ t') :=
  h.imp fun _ he => ⟨List.mem_append_left _ he.1, he.2⟩

omit [Jdk] in
/-- A reading that has found its sensor and finds no bounds runs into an exception. -/
theorem wp_readBounds_hit (hurl : ∀ c, A .getConnection (some c) → c.url = url)
    (ht : Found url id type t) {f : Bounds → Panel Bool} {Q : Bool → Unit × Told → Prop}
    (hf : ∀ b t', Found url id type t' →
      wp (watching A) (f b) Q (fun _ s => Hit A url id type s.2) ((), t'))
    (hnone : ∀ t', Q false ((), t')) :
    wp (watching A) (do
      let some bounds ← readBounds id type | return false
      let some b := bounds.head? | throwExn .indexOutOfBounds
      f b) Q (fun _ s => Hit A url id type s.2) ((), t) := by
  rw [wp_bind]
  refine wp_readBounds_watching (fun c rows hc => ?_) fun t' _ => hnone t'
  cases rows with
  | nil =>
    obtain ⟨e, he, hfinds⟩ := ht
    obtain ⟨t₁, t₂, rfl⟩ := List.append_of_mem he
    exact .inr ⟨t₁, e, t₂ ++ [⟨(), .executeQuery c (.bounds id type), some []⟩],
      ⟨(), .executeQuery c (.bounds id type), some []⟩, by simp, hfinds, by simp,
      hurl c hc, rfl, rfl, rfl⟩
  | cons b rows => exact hf b _ (ht.append _)

theorem wp_forwardReading_hit {addresses : List String}
    (hurl : ∀ c, A .getConnection (some c) → c.url = url) (ht : Found url id type t) :
    wp (watching A) (forwardReading id type v addresses) (fun _ _ => True)
      (fun _ s => Hit A url id type s.2) ((), t) := by
  simp only [forwardReading, wp_bind]
  refine wp_appendToOutput_watching _ (wp_isSelected_watching _ fun paused _ => ?_)
  rw [wp_ite]
  refine ⟨fun _ => ?_, fun _ => ?_⟩
  · rw [wp_bind]
    exact wp_appendToOutput_watching _ trivial
  cases addresses.head? with
  | none =>
    simp only [wp_bind]
    exact wp_appendToOutput_watching _ trivial
  | some address =>
    simp only [wp_bind]
    refine wp_appendToOutput_watching _ (wp_readBounds_hit hurl ht (fun b t' _ => ?_)
      fun _ => trivial)
    refine wp_mute (P := Call.ofReading fun _ => False)
      ((redraws_scaleValue _ _).ofReading.bind fun x => ?_)
    refine (uses_sendPost _ _).bind fun ok => Program.uses_ite _ trivial ?_
    exact (redraws_appendToOutput _).ofReading.bind fun _ => trivial

theorem wp_recognisedSensor_hit {addresses : List String}
    (hurl : ∀ c, A .getConnection (some c) → c.url = url) (ht : Found url id type t) :
    wp (watching A) (recognisedSensor id type v addresses) (fun _ _ => True)
      (fun _ s => Hit A url id type s.2) ((), t) := by
  have hgo : ∀ ok t', (ok = true → Found url id type t') → wp (watching A)
      (if !ok then pure false else forwardReading id type v addresses) (fun _ _ => True)
      (fun _ s => Hit A url id type s.2) ((), t') := by
    intro ok t' ht'
    cases ok with
    | false => trivial
    | true => exact wp_forwardReading_hit hurl (ht' rfl)
  simp only [recognisedSensor, calibrateIfTicked, wp_bind]
  refine wp_isSelected_watching _ fun ticked _ => ?_
  rw [wp_ite]
  refine ⟨fun _ => ?_, fun _ => hgo true t fun _ => ht⟩
  refine wp_readBounds_hit hurl ht (fun b t' ht' => ?_) fun t' => hgo false t' (by simp)
  refine (wp_keeping (I := Found url id type)
    (uses_calibrateRow (R := fun _ => False) ofReading_of_redraws (fun _ _ h => h) v b)
    (fun r e _ hr => hr.append [e]) ht').mono ?_ fun e _ h => h.1.elim
  rintro ok ⟨⟨⟩, t''⟩ ht''
  exact hgo ok t'' fun _ => ht''

/-- **A reading.** It raises nothing, unless it is hit. -/
theorem wp_sensed_hit (hurl : ∀ c, A .getConnection (some c) → c.url = url)
    (hnodes : A (.isSelected .wsnGeneralAutoAddCheck) true → ¬ A .getIgnoreNodeList none)
    (hauto : ∀ b b', A (.isSelected .wsnSensorsAutoAddCheck) b →
      A (.isSelected .wsnSensorsAutoAddCheck) b' → b = b')
    (hsensors : A (.isSelected .wsnSensorsAutoAddCheck) true → ∀ x, A .getIgnoreSensorList x →
      ∃ l, x = some l ∧ ∀ o ∈ l, o.Named) :
    wp (watching A) (sensed id type v) (fun _ _ => True) (fun _ s => Hit A url id type s.2)
      ((), []) := by
  simp only [sensed, wp_bind]
  refine wp_lookUpNode_watching (fun c rows _ _ => ?_) (fun _ => trivial) fun _ _ _ => trivial
  simp only
  rw [wp_ite]
  refine ⟨fun _ => ?_, fun _ => ?_⟩
  · rw [wp_bind]
    exact wp_unrecognisedNode_hit hnodes
  simp only [recognisedNode, wp_bind]
  refine wp_appendToOutput_watching _ (wp_lookUpTypes_watching (fun c' rows' hc' _ => ?_)
    (fun _ => trivial) fun _ _ _ => trivial)
  simp only [wp_bind]
  refine wp_closeConnection_watching ?_
  rw [wp_ite]
  refine ⟨fun htype => ?_, fun _ => ?_⟩
  · refine wp_recognisedSensor_hit hurl ⟨_, List.mem_append_right _ (List.mem_singleton_self _), ?_⟩
    exact ⟨hurl c' hc', rfl, rows', rfl, List.contains_iff_mem.mp htype⟩
  rw [wp_bind]
  refine wp_isSelected_watching _ fun auto hon => ?_
  rw [wp_ite]
  refine ⟨fun _ => ?_, fun hticked => ?_⟩
  · rw [wp_bind]
    exact wp_appendToOutput_watching _ trivial
  rw [wp_bind]
  refine wp_isSelected_watching _ fun auto' hon' => ?_
  -- The box is read twice, and is ticked both times.
  obtain rfl := hauto auto auto' hon hon'
  obtain rfl : auto = true := by simpa using hticked
  rw [if_pos rfl, wp_bind]
  exact wp_unrecognisedSensor_hit (hsensors hon)

end Reading

/-! ## Readings beside removals -/

/-- What runs at the same time. -/
inductive Beside where
  | sensed (id type : String) (value : Int32)
  | removeNode (id : Option String)
  | removeSensor (id type : Option String)

/-- The program it runs, with what a reading returns. -/
def Beside.program [Jdk] : Beside → Panel (Option Bool)
  | .sensed id type value => some <$> CrossingReality.sensed id type value
  | .removeNode id => do
    CrossingReality.removeNode id
    return none
  | .removeSensor id type => do
    CrossingReality.removeSensor id type
    return none

/-- The calls of readings and of removals that are carried out with both boxes filled. -/
def Call.restrained : Call → Prop
  | .setMysql _ _ | .setIgnoreSensorList _ => False
  | .setSelected b v =>
    v = false ∧ (b = .wsnGeneralRemoveNodeIgnoreCheck ∨ b = .wsnSensorsRemoveSensorIgnoreCheck)
  | .addIgnoreSensor o => o.Named
  | _ => True

/-- What such calls leave as it was in the first world. -/
structure Unharmed (w₀ w : World) : Prop where
  mysql : w.mysql = w₀.mysql
  nodeAuto : w.checked .wsnGeneralAutoAddCheck = w₀.checked .wsnGeneralAutoAddCheck
  sensorAuto : w.checked .wsnSensorsAutoAddCheck = w₀.checked .wsnSensorsAutoAddCheck
  ignore : w.checked .wsnSensorsRemoveSensorIgnoreCheck = true →
    w₀.checked .wsnSensorsRemoveSensorIgnoreCheck = true
  nodeList : w.ignoreNodeList = none → w₀.ignoreNodeList = none
  sensorList : w.ignoreSensorList = none → w₀.ignoreSensorList = none
  named : AllNamed w

section Pools

variable {w₀ : World}

/-- Such calls only untick, and only the two boxes for removals. -/
theorem checked_of_restrained {c : Call} (hc : c.restrained) (f : Fate) (b : CheckBox) :
    (step col c f w).2.checked b = w.checked b ∨ (step col c f w).2.checked b = false ∧
      (b = .wsnGeneralRemoveNodeIgnoreCheck ∨ b = .wsnSensorsRemoveSensorIgnoreCheck) := by
  by_cases hset : ∃ b' v, c = .setSelected b' v
  · obtain ⟨b', v, rfl⟩ := hset
    obtain ⟨rfl, hb'⟩ := hc
    by_cases hb : b = b'
    · subst hb
      exact .inr ⟨Function.update_self .., hb'⟩
    · exact .inl (Function.update_of_ne hb ..)
  · rw [step_checked fun b' v h => hset ⟨b', v, h⟩]
    exact .inl rfl

theorem Unharmed.post {c : Call} {x : c.Ret} (hw : Unharmed w₀ w) (hc : c.restrained)
    (hx : (under col may).post c w x w') : Unharmed w₀ w' := by
  have hnames : c.names := by
    cases c with
    | setIgnoreSensorList | addIgnoreSensor => exact hc
    | _ => trivial
  have hnamed := allNamed_of_post hnames hw.named hx
  obtain ⟨f, -, rfl⟩ := step_of_post hx
  have hmysql : (step col c f w).2.mysql = w₀.mysql :=
    (step_mysql (by rintro d s rfl; exact hc) col f w).trans hw.mysql
  obtain ⟨hnodes, hsensors⟩ := @step_lists col c f w
  have hchecked := @checked_of_restrained col w c hc f
  refine ⟨hmysql, ?_, ?_, ?_, fun h => hw.nodeList (hnodes h),
    fun h => hw.sensorList (hsensors h), hnamed⟩
  · exact ((hchecked _).resolve_right (by simp)).trans hw.nodeAuto
  · exact ((hchecked _).resolve_right (by simp)).trans hw.sensorAuto
  · intro hticked
    rcases hchecked .wsnSensorsRemoveSensorIgnoreCheck with h | ⟨h, -⟩
    · exact hw.ignore (h ▸ hticked)
    · rw [h] at hticked
      cases hticked

theorem restrained_of_redraws (c : Call) (hc : c.redraws fun _ => True) : c.restrained := by
  cases c with
  | setMysql | setIgnoreSensorList | setSelected | addIgnoreSensor => exact hc.elim
  | _ => trivial

variable [Jdk]

/-- As long as a thread is answered from unharmed states, its calls are restrained. -/
theorem guarding_restrained {b : Beside} (hb : ∀ id type, b = .removeSensor id type →
      w₀.checked .wsnSensorsRemoveSensorIgnoreCheck = true → id ≠ none ∧ type ≠ none) :
    wp (Contract.guarding Call.restrained ((under col anyFault).answers (Unharmed w₀))) b.program
      (fun _ _ => True) (fun _ _ => True) () := by
  have huses : ∀ {α : Type} {p : Panel α}, p.Uses Call.restrained (fun _ => True) →
      wp (Contract.guarding Call.restrained ((under col anyFault).answers (Unharmed w₀))) p
        (fun _ _ => True) (fun _ _ => True) () := fun hp =>
    (wp_of_uses (I := fun _ => True) hp (fun _ _ hc _ => ⟨hc, fun _ _ _ => trivial⟩) trivial).mono
      (fun _ _ _ => trivial) fun _ _ _ => trivial
  have happend : ∀ m, Call.restrained (.append m) := fun _ => trivial
  cases b with
  | sensed id type value =>
    refine huses ((Program.uses_map _ _).mpr ?_)
    refine (uses_sensed value).mono (fun c hc => ?_) fun _ h => h
    cases c with
    | setMysql | setIgnoreSensorList | setSelected | addIgnoreSensor => exact hc.elim
    | _ => trivial
  | removeNode id =>
    refine huses (.bind (.bind ?_ fun _ => ?_) fun _ => by exact trivial)
    · refine ⟨trivial, fun ticked => Program.uses_ite _ ⟨trivial, fun ok => ?_⟩ trivial⟩
      exact Program.uses_ite _ ⟨trivial, fun _ => trivial⟩ trivial
    · refine uses_bindOption ((redraws_openStatement _).uses restrained_of_redraws) trivial
        fun connect => ?_
      refine .bind (uses_executeUpdate (fun _ => trivial) happend _ _) fun ok =>
        Program.uses_ite _ trivial ?_
      refine .bind (uses_executeUpdate (fun _ => trivial) happend _ _) fun ok =>
        Program.uses_ite _ trivial ?_
      refine ((redraws_appendToOutput _).uses restrained_of_redraws).bind fun _ => ?_
      refine ⟨⟨rfl, .inl rfl⟩, fun _ => ?_⟩
      exact tame_updateNodeSelects.uses restrained_of_redraws
  | removeSensor id type =>
    have hdelete : (deleteSensor id type).Uses Call.restrained fun _ => True := by
      refine uses_bindOption ((redraws_openStatement _).uses restrained_of_redraws) trivial
        fun connect => ?_
      refine .bind (uses_executeUpdate (fun _ => trivial) happend _ _) fun ok =>
        Program.uses_ite _ trivial ?_
      refine ((redraws_appendToOutput _).uses restrained_of_redraws).bind fun _ => ?_
      refine ⟨⟨rfl, .inr rfl⟩, fun _ => ?_⟩
      exact (redraws_updateSensorsSelect trivial _).uses restrained_of_redraws
    simp only [Beside.program, removeSensor, ignoreSensorIfTicked, wp_bind]
    refine ⟨trivial, fun ticked u hticked => ?_⟩
    refine (wp_ite ..).mpr ⟨fun hon => ?_, fun _ => huses hdelete⟩
    have hnamed : (⟨id, type⟩ : SensorIgnoreIdTypeObject).Named := by
      obtain ⟨w, w', hw, f, -, hstep⟩ := hticked
      obtain rfl : w.checked .wsnSensorsRemoveSensorIgnoreCheck = ticked := congrArg Prod.fst hstep
      exact hb id type rfl (hw.ignore hon)
    rw [wp_bind]
    refine ⟨hnamed, fun ok _ _ => (wp_ite ..).mpr ⟨fun _ => ?_, fun _ => trivial⟩⟩
    exact ⟨trivial, fun _ _ _ => huses hdelete⟩

/-- **Guarantee.** So are the statements of its lines. -/
theorem guarding_restrained_withCarets {b : Beside} (hw : Unharmed w₀ w₀)
    (hb : ∀ id type, b = .removeSensor id type →
      w₀.checked .wsnSensorsRemoveSensorIgnoreCheck = true → id ≠ none ∧ type ≠ none) :
    wp (Contract.guarding Call.restrained ((under col anyFault).answers (Unharmed w₀)))
      (withCarets b.program) (fun _ _ => True) (fun _ _ => True) () := by
  refine wp_expand (faithful_statements (fun c u hc => ⟨?_, fun _ _ _ => rfl⟩)
    (fun _ _ _ => trivial) fun m u => ?_) (guarding_restrained hb)
  · cases c with
    | appendArea | setCaretPosition => trivial
    | _ => cases hc
  · exact ⟨w₀, w₀.say m, hw, .fine, by simp [Fate.fine], rfl⟩

end Pools

/-- The call asked for the bounds of the sensor. -/
def ReadsBounds {σ : Type} (url id type : String) : Event calls σ → Prop
  | ⟨_, .executeQuery c (.bounds i t), _⟩ => c.url = url ∧ i = id ∧ t = type
  | _ => False

/-- The call deleted the last row of the sensor. -/
def TakesAway (col : Collation) (url id type : String) : Event calls World → Prop
  | ⟨w, .executeUpdate c u, ok⟩ => c.url = url ∧ ok = true ∧
      (Query.bounds id type).run col (w.servers url) ≠ [] ∧
      (Query.bounds id type).run col ((w.servers url).apply col u) = []
  | _ => False

section Interleavings

variable {ι : Type}

/-- Nothing takes the sensor away after the thread has found it and before it reads the bounds. -/
def LeftAlone (col : Collation) (id type : String) (i : ι) (l : List (Move ι calls World)) : Prop :=
  ∀ url l₁ q l₂ m l₃, l = l₁ ++ q :: (l₂ ++ m :: l₃) → q.thread = i → m.thread = i →
    Finds url id type q.toEvent → ReadsBounds url id type m.toEvent →
      ∀ m' ∈ l₂, ¬ TakesAway col url id type m'.toEvent

variable {url id type : String} {v : Int32} {w₀ : World}

/-- A sensor that is not taken away stays. -/
theorem bounds_of_post {c : Call} {x : c.Ret} (hx : (under col may).post c w x w')
    (hleft : ¬ TakesAway col url id type ⟨w, c, x⟩)
    (hw : (Query.bounds id type).run col (w.servers url) ≠ []) :
    (Query.bounds id type).run col (w'.servers url) ≠ [] := by
  rcases servers_of_post hx url with ⟨-, heq⟩ | ⟨u, hu, heq⟩
  · rwa [heq]
  · rw [heq]
    cases c with
    | executeUpdate c u' =>
      obtain ⟨hurl, rfl, hok⟩ := hu
      exact fun hnil => hleft ⟨hurl, hok, hw, hnil⟩
    | _ => exact hu.elim

/-- A sensor that is found has bounds to read. -/
theorem bounds_of_finds {e : Event calls World} (hcol : ∀ s, col.same s s = true)
    (h : Finds url id type e) (hpost : ∃ w', (under col may).post e.call e.before e.ret w') :
    (Query.bounds id type).run col (e.before.servers url) ≠ [] := by
  obtain ⟨before, c, x⟩ := e
  cases c with
  | executeQuery c q =>
    cases q with
    | sensors i =>
      obtain ⟨rfl, rfl, rows, rfl, hmem⟩ := h
      obtain ⟨w', hpost⟩ := hpost
      obtain ⟨_, rfl, hrows⟩ := rows_of_answers (J := (· = before)) ⟨before, w', rfl, hpost⟩
      rw [← hrows] at hmem
      obtain ⟨b, hb⟩ := Database.head_run_bounds (hcol type) (Database.mem_run_sensors.mp hmem)
      intro hnil
      rw [hnil] at hb
      cases hb
    | _ => exact h.elim
  | _ => exact h.elim

theorem nil_of_findsNone {e : Event calls World} (h : FindsNone url id type e)
    (hpost : ∃ w', (under col may).post e.call e.before e.ret w') :
    (Query.bounds id type).run col (e.before.servers url) = [] := by
  obtain ⟨before, c, x⟩ := e
  cases c with
  | executeQuery c q =>
    cases q with
    | bounds i t =>
      obtain ⟨rfl, rfl, rfl, rfl⟩ := h
      obtain ⟨w', hpost⟩ := hpost
      obtain ⟨_, rfl, hrows⟩ := rows_of_answers (J := (· = before)) ⟨before, w', rfl, hpost⟩
      exact hrows
    | _ => exact h.elim
  | _ => exact h.elim

theorem readsBounds_of_findsNone {σ : Type} {e : Event calls σ} (h : FindsNone url id type e) :
    ReadsBounds url id type e := by
  obtain ⟨before, c, x⟩ := e
  cases c with
  | executeQuery c q =>
    cases q with
    | bounds i t => exact ⟨h.1, h.2.1, h.2.2.1⟩
    | _ => exact h.elim
  | _ => exact h.elim

theorem finds_blind {e : Event calls World} :
    Finds url id type (⟨(), e.call, e.ret⟩ : Event calls Unit) ↔ Finds url id type e := by
  obtain ⟨before, c, x⟩ := e
  cases c with
  | executeQuery c q => cases q <;> exact Iff.rfl
  | _ => exact Iff.rfl

theorem findsNone_blind {e : Event calls World} :
    FindsNone url id type (⟨(), e.call, e.ret⟩ : Event calls Unit) ↔ FindsNone url id type e := by
  obtain ⟨before, c, x⟩ := e
  cases c with
  | executeQuery c q => cases q <;> exact Iff.rfl
  | _ => exact Iff.rfl

theorem addsNode_blind {c : Connection} {e : Event calls World} :
    AddsNode c (⟨(), e.call, e.ret⟩ : Event calls Unit) ↔ AddsNode c e := by
  obtain ⟨before, c', x⟩ := e
  cases c' with
  | executeUpdate c' u => cases u <;> exact Iff.rfl
  | _ => exact Iff.rfl

theorem not_takesAway_of_finds {e : Event calls World} (h : Finds url id type e) :
    ¬ TakesAway col url id type e := by
  obtain ⟨before, c, x⟩ := e
  cases c with
  | executeQuery c q => exact fun h => h
  | _ => exact h.elim

variable [Jdk] [DecidableEq ι] {a : ι → Beside} {ps ps' : ι → Panel (Option Bool)}
  {l : List (Move ι calls World)}

omit [Jdk] in
/-- A thread that is left alone is not hit by a removal. -/
theorem not_hit_of_leftAlone {i : ι} (hcol : ∀ s, col.same s s = true)
    (h : Interleaving (under col anyFault) ps w l ps' w')
    (hleft : LeftAlone col id type i l) {t₁ t₂ : Told} {e e' : Event calls Unit}
    (ht : (own i l).filter (·.call.isStatement) = t₁ ++ e :: t₂) (he : Finds url id type e)
    (he' : e' ∈ t₂) : ¬ FindsNone url id type e' := by
  intro hnone
  obtain ⟨l₁, q, l₂, rfl, hq, rfl, rfl⟩ := own_split ht
  obtain ⟨m, hm, hthread, rfl⟩ := mem_own.mp (List.mem_filter.mp he').1
  obtain ⟨l₃, l₄, rfl⟩ := List.append_of_mem hm
  have hfinds : Finds url id type q.toEvent := finds_blind.mp he
  have hnone' : FindsNone url id type m.toEvent := findsNone_blind.mp hnone
  have hspared := hleft url l₁ q l₃ m l₄ rfl hq hthread hfinds (readsBounds_of_findsNone hnone')
  -- The sensor was there when it was found, and is there at every move up to the read.
  have hwhole : l₁ ++ q :: (l₃ ++ m :: l₄) = (l₁ ++ q :: l₃) ++ m :: l₄ := by simp
  obtain ⟨ps'', hbefore⟩ := (hwhole ▸ h).split
  refine hbefore.since (P := fun w => (Query.bounds id type).run col (w.servers url) ≠ [])
    (bounds_of_finds hcol hfinds (h.post q (by simp))) ?_
    (nil_of_findsNone hnone' (h.post m (by simp)))
  intro m' hm' w'' hw hx
  refine bounds_of_post hx ?_ hw
  rcases List.mem_cons.mp hm' with rfl | hm'
  · exact not_takesAway_of_finds hfinds
  · exact hspared m' hm'

/-- A reading that is answered from unharmed states is at most hit. -/
theorem wp_sensed_unharmed {r : Except Exn Unit} {A : (c : Call) → c.Ret → Prop}
    (hA : ∀ c x, A c x → (under col anyFault).answers (Unharmed w) c x)
    (hlists : r = .ok () → w.ignoreNodeList ≠ none ∧ w.ignoreSensorList ≠ none)
    (hready : r = .ok () ∨ w.checked .wsnGeneralAutoAddCheck = false ∧
      w.checked .wsnSensorsAutoAddCheck = false) :
    wp (watching A) (sensed id type v) (fun _ _ => True)
      (fun _ s => Hit A ((w.mysql .mysqlAddress).getD "") id type s.2) ((), []) := by
  have hticked : ∀ b v, A (.isSelected b) v → ∃ w₁, Unharmed w w₁ ∧ w₁.checked b = v := by
    intro b v hv
    obtain ⟨w₁, w₂, hw₁, f, -, hstep⟩ := hA _ _ hv
    exact ⟨w₁, hw₁, congrArg Prod.fst hstep⟩
  refine wp_sensed_hit (fun c hc => ?_) (fun hon hlist => ?_) (fun b b' hb hb' => ?_)
    fun hon x hx => ?_
  · obtain ⟨w₁, w₂, hw₁, f, -, hstep⟩ := hA _ _ hc
    have hx : (step col .getConnection f w₁).1 = some c := congrArg Prod.fst hstep
    rw [← hw₁.mysql]
    simp only [step] at hx
    split at hx
    · cases hx
    · rename_i url hurl
      split at hx
      · cases hx
      · rw [hurl, ← Option.some_inj.mp hx]
        rfl
  · obtain ⟨w₁, hw₁, hon⟩ := hticked _ _ hon
    obtain ⟨w₂, w₃, hw₂, f, -, hstep⟩ := hA _ _ hlist
    have hnone : w.ignoreNodeList = none := hw₂.nodeList (congrArg Prod.fst hstep)
    rcases hready with rfl | ⟨hoff, -⟩
    · exact (hlists rfl).1 hnone
    · rw [hw₁.nodeAuto, hoff] at hon
      cases hon
  · obtain ⟨w₁, hw₁, rfl⟩ := hticked _ _ hb
    obtain ⟨w₂, hw₂, rfl⟩ := hticked _ _ hb'
    exact hw₁.sensorAuto.trans hw₂.sensorAuto.symm
  · obtain ⟨w₁, hw₁, hon⟩ := hticked _ _ hon
    obtain ⟨w₂, w₃, hw₂, f, -, hstep⟩ := hA _ _ hx
    obtain rfl : w₂.ignoreSensorList = x := congrArg Prod.fst hstep
    cases hl : w₂.ignoreSensorList with
    | some l => exact ⟨l, rfl, hw₂.named l hl⟩
    | none =>
      rcases hready with rfl | ⟨-, hoff⟩
      · exact absurd (hw₂.sensorList hl) (hlists rfl).2
      · rw [hw₁.sensorAuto, hoff] at hon
        cases hon

omit [DecidableEq ι] in
/-- What runs beside a reading puts whole lines on the terminals. -/
theorem wholeLines_beside {A : (c : Call) → c.Ret → Prop} {b : Beside}
    (hA : ∀ c id, A (.executeUpdate c (.insertNode id none)) true → ¬ A (.close c) false) :
    WholeLines A b.program := by
  cases b with
  | sensed id type value =>
    exact (wholeLines_sensed fun c => hA c id).bind fun _ => keeps_pure _
  | removeNode id =>
    refine .bind (wholeLines_of_uses ((uses_removeNode id).mono (fun _ => ofLine_of_ofAction ?_)
      fun _ h => h)) fun _ => keeps_pure _
    simp
  | removeSensor id type =>
    refine .bind (wholeLines_of_uses ((uses_removeSensor id type).mono
      (fun _ => ofLine_of_ofAction ?_) fun _ h => h)) fun _ => keeps_pure _
    simp

end Interleavings

/-! ## A connection that does not close -/

/-- Start-up with details in the file, over one database. -/
def startedRun (d : Database) : List (Event calls World) × Except Exn Unit × World :=
  (machine .exact).play .fine (withCarets startUp) []
    (.launched (fun _ => d) (some "jdbc:mysql://db,user,pass"))

theorem runs_startedRun (d : Database) : Runs (under .exact anyFault) (withCarets startUp)
    (.launched (fun _ => d) (some "jdbc:mysql://db,user,pass")) (startedRun d).1 (startedRun d).2.1
    (startedRun d).2.2 := runs_play_anyFault _ _ _

/-- The turns of some actions after it. -/
def startedTurns (d : Database) (as : List (Action × List Fate)) : List PanelTurn :=
  (machine .exact).turns .fine (@Action.withCarets plainJdk) as (startedRun d).2.2

/-- The window they lead to. -/
def startedAfter (d : Database) (as : List (Action × List Fate)) : World :=
  (machine .exact).endOf .fine (@Action.withCarets plainJdk) as (startedRun d).2.2

theorem session_started (d : Database) (as : List (Action × List Fate)) :
    Session (under .exact anyFault) (@Action.withCarets plainJdk) (startedRun d).2.2
      (startedTurns d as) (startedAfter d as) :=
  Machine.session_turns (fun _ _ _ => by trivial) (fun _ _ _ _ _ _ => by exact fun _ => trivial)
    .nil

/-- The threads move in the given order, their calls meeting the given fates. -/
def besides {ι : Type} [DecidableEq ι] (a : ι → Beside) (order : List (ι × Fate)) (w : World) :
    List (Move ι calls World) × (ι → Panel (Option Bool)) × World :=
  (machine .exact).interleave order (fun i => withCarets (@Beside.program plainJdk (a i))) w

theorem interleaving_besides {ι : Type} [DecidableEq ι] (a : ι → Beside)
    (order : List (ι × Fate)) (w : World) : Interleaving (under .exact anyFault)
      (fun i => withCarets (@Beside.program plainJdk (a i))) w (besides a order w).1
      (besides a order w).2.1 (besides a order w).2.2 :=
  Machine.interleaving_interleave (l := []) (fun _ _ _ _ => by exact fun _ => trivial) .nil

/-- Add unknown nodes. -/
def autoAdding : List (Action × List Fate) := [(.tick .wsnGeneralAutoAddCheck true, [])]

/-- The 34th call closes the connection on which the node was added, and the 35th says so. -/
def failingClose : List (Unit × Fate) :=
  List.replicate 33 ((), .fine) ++ [((), ⟨true, .fault⟩), ((), .fine)]

/-- The call deletes the last row of the sensor. -/
def takesAway (col : Collation) (id type : String) : Event calls World → Bool
  | ⟨w, .executeUpdate c u, ok⟩ => ok &&
      !((Query.bounds id type).run col (w.servers c.url)).isEmpty &&
      ((Query.bounds id type).run col ((w.servers c.url).apply col u)).isEmpty
  | _ => false

theorem leftAlone_of_spared {ι : Type} {l : List (Move ι calls World)} {id type : String} {i : ι}
    (h : ∀ m ∈ l, takesAway col id type m.toEvent = false) : LeftAlone col id type i l := by
  rintro url l₁ q l₂ m l₃ rfl - - - - m' hm' htakes
  have hspared := h m' (by simp [hm'])
  obtain ⟨⟨before, c, x⟩, j⟩ := m'
  cases c with
  | executeUpdate c u =>
    obtain ⟨rfl, rfl, hthere, hgone⟩ := htakes
    simp [takesAway, hthere, hgone] at hspared
  | _ => exact htakes

instance (t : PanelTurn) : Decidable (Filled t) := inferInstanceAs (Decidable (_ → _ → _ ∧ _))

/-- One node with two sensors. -/
def twoSensors : Database :=
  ⟨[⟨"1", some "http://vw"⟩], [⟨"1", "light", none, none⟩, ⟨"1", "temp", none, none⟩], []⟩

/-- A reading adds a node, and removals are to prevent sensors from being added again. -/
def beforehand : List (Action × List Fate) :=
  autoAdding ++ [(.reading "2" "light" 5, []), (.tick .wsnSensorsRemoveSensorIgnoreCheck true, [])]

/-- A reading of one sensor of the node, and a removal of the other. -/
def sensedBeside (i : Bool) : Beside :=
  if i then .sensed "1" "light" 5 else .removeSensor (some "1") (some "temp")

/-- They take turns, so many calls of the one and of the other at a time, nothing failing: single
calls and whole lines. -/
def takingTurns : List (Bool × Fate) :=
  ([(1, 2), (6, 6), (1, 1), (6, 6), (4, 1), (6, 6), (1, 2), (6, 6), (1, 1), (6, 6), (7, 3),
    (6, 6), (1, 1), (6, 6), (1, 4), (6, 6), (1, 3), (6, 6), (12, 1), (6, 6)] :
      List (Nat × Nat)).flatMap fun n =>
    List.replicate n.1 (true, .fine) ++ List.replicate n.2 (false, .fine)

end CrossingReality
