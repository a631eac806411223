import CrossingReality.Threads

/-!
# Duplicate rows

The tables have no keys of their own: a row is unique because the program selects before it
inserts. Readings and the operator's adds run at the same time, and two that both find the row
missing both insert it.

**Theorem (`interleaving_unique`).** The tables stay free of duplicates in every interleaving in
which, whenever a row goes in, its thread has looked for just this row and none has put it in since.
-/

namespace CrossingReality

open Effects

variable {col : Collation} {d : Database}

/-! ## Keys -/

/-- What a row is known by. -/
inductive Key where
  | node (id : String)
  | sensor (id type : String)
deriving DecidableEq

/-- There is a row with the key. -/
def Key.isIn (d : Database) : Key → Prop
  | .node id => id ∈ d.nodeIds
  | .sensor id type => (id, type) ∈ d.sensorKeys

/-- No two rows have the same key. -/
structure Unique (d : Database) : Prop where
  nodes : d.nodeIds.Nodup
  sensors : d.sensorKeys.Nodup

/-- The key of the row that is inserted. -/
def Update.inserts : Update → Option Key
  | .insertNode id _ => some (.node id)
  | .insertSensor id type => some (.sensor id type)
  | _ => none

/-- The query asks for the rows with a key, perhaps among others. -/
def Query.asks : Key → Query → Prop
  | .node i, .node id => i = id
  | .sensor i _, .sensors id => i = id
  | .sensor i t, .sensor id type => i = id ∧ t = type
  | _, _ => False

instance (k : Key) (q : Query) : Decidable (q.asks k) := by
  cases k <;> cases q <;> simp only [Query.asks] <;> infer_instance

/-- The result set has a row with the key. -/
def Query.shows (k : Key) : (q : Query) → List q.Row → Prop
  | .node _, rows => ∃ r ∈ rows, k = .node r.id
  | .sensors _, rows => ∃ r ∈ rows, k = .sensor r.id r.type
  | .sensor _ _, rows => ∃ r ∈ rows, k = .sensor r.id r.type
  | _, _ => False

/-- A row that is asked for is shown if it is there. -/
theorem shows_of_asks {k : Key} {q : Query} (hcol : ∀ s, col.same s s = true) (hq : q.asks k)
    (hk : k.isIn d) : q.shows k (q.run col d) := by
  cases k with
  | node id =>
    obtain ⟨r, hr, rfl⟩ := List.mem_map.mp hk
    cases q with
    | node i =>
      obtain rfl : r.id = i := hq
      exact ⟨r, List.mem_filter.mpr ⟨hr, hcol _⟩, rfl⟩
    | _ => exact hq.elim
  | sensor id type =>
    obtain ⟨r, hr, hkey⟩ := Database.mem_sensorKeys.mp hk
    obtain ⟨rfl, rfl⟩ := Prod.mk.inj hkey
    cases q with
    | sensors i =>
      obtain rfl : r.id = i := hq
      exact ⟨r, List.mem_filter.mpr ⟨hr, hcol _⟩, rfl⟩
    | sensor i t =>
      obtain ⟨rfl, rfl⟩ : r.id = i ∧ r.type = t := hq
      exact ⟨r, List.mem_filter.mpr ⟨hr, by simp [hcol]⟩, rfl⟩
    | _ => exact hq.elim

namespace Database

theorem nodeIds_insertNode (id : String) (address : Option String) :
    (d.apply col (.insertNode id address)).nodeIds = d.nodeIds ++ [id] := List.map_append

theorem sensorKeys_insertSensor (id type : String) :
    (d.apply col (.insertSensor id type)).sensorKeys = d.sensorKeys ++ [(id, type)] :=
  List.map_append

/-- Only `INSERT`s add keys. -/
theorem sublist_apply {u : Update} (hu : u.inserts = none) :
    (d.apply col u).nodeIds.Sublist d.nodeIds ∧
      (d.apply col u).sensorKeys.Sublist d.sensorKeys := by
  have hsame : ∀ {d' : Database}, d'.nodeIds = d.nodeIds → d'.sensorKeys = d.sensorKeys →
      d'.nodeIds.Sublist d.nodeIds ∧ d'.sensorKeys.Sublist d.sensorKeys := fun hn hs =>
    ⟨hn ▸ .refl _, hs ▸ .refl _⟩
  have hbounds : ∀ id type f, (d.mapBounds col id type f).nodeIds.Sublist d.nodeIds ∧
      (d.mapBounds col id type f).sensorKeys.Sublist d.sensorKeys := fun _ _ f =>
    hsame rfl (mapBounds_sensorKeys f)
  cases u with
  | insertNode | insertSensor => cases hu
  | deleteNode id => exact ⟨List.filter_sublist.map _, .refl _⟩
  | deleteSensors id => exact ⟨.refl _, List.filter_sublist.map _⟩
  | deleteSensor id type => exact ⟨.refl _, List.filter_sublist.map _⟩
  | setNodeAddress address id => exact hsame (nodeIds_setNodeAddress _ _ _) rfl
  | setMin v id type =>
    rw [apply_setMin]
    exact hbounds id type _
  | setMax v id type =>
    rw [apply_setMax]
    exact hbounds id type _
  | setBounds v id type =>
    rw [apply_setBounds]
    exact hbounds id type _
  | resetBounds id type =>
    rw [apply_resetBounds]
    exact hbounds id type _
  | insertActuator | deleteActuator | setActuatorAddress => exact hsame rfl rfl

/-- A key that is there after a statement was there before, or the statement inserted it. -/
theorem isIn_apply {u : Update} {k : Key} (h : k.isIn (d.apply col u)) :
    k.isIn d ∨ u.inserts = some k := by
  cases hu : u.inserts with
  | none =>
    obtain ⟨hnodes, hsensors⟩ := @sublist_apply col d u hu
    cases k with
    | node id => exact .inl (hnodes.subset h)
    | sensor id type => exact .inl (hsensors.subset h)
  | some k' =>
    cases u <;> cases hu
    · cases k with
      | node id =>
        rw [Key.isIn, nodeIds_insertNode] at h
        exact (List.mem_append.mp h).imp_right fun h => by rw [List.mem_singleton.mp h]
      | sensor id type => exact .inl h
    · cases k with
      | node id => exact .inl h
      | sensor id type =>
        rw [Key.isIn, sensorKeys_insertSensor] at h
        refine (List.mem_append.mp h).imp_right fun h => ?_
        obtain ⟨rfl, rfl⟩ := Prod.mk.inj (List.mem_singleton.mp h)
        rfl

/-- A statement makes no duplicate unless it inserts a key that is there. -/
theorem unique_apply {u : Update} (hd : Unique d) (hu : ∀ k, u.inserts = some k → ¬ k.isIn d) :
    Unique (d.apply col u) := by
  cases hins : u.inserts with
  | none =>
    obtain ⟨hnodes, hsensors⟩ := @sublist_apply col d u hins
    exact ⟨hd.nodes.sublist hnodes, hd.sensors.sublist hsensors⟩
  | some k =>
    have hk := hu k hins
    cases u <;> cases hins
    · refine ⟨?_, hd.sensors⟩
      rw [nodeIds_insertNode, ← List.concat_eq_append]
      exact hd.nodes.concat hk
    · refine ⟨hd.nodes, ?_⟩
      rw [sensorKeys_insertSensor, ← List.concat_eq_append]
      exact hd.sensors.concat hk

end Database

/-! ## A thread looks before it inserts -/

/-- The key of the row that a call inserts. -/
def Call.inserts : Call → Option Key
  | .executeUpdate _ u => u.inserts
  | _ => none

/-- If the call asked for a key, it was shown no row. -/
def Missed {σ : Type} (k : Key) : Event calls σ → Prop
  | ⟨_, .executeQuery _ q, x⟩ => q.asks k → ∃ rows, x = some rows ∧ ¬ q.shows k rows
  | _ => True

/-- Whatever has been asked for a key, there was no row. -/
def Clear (k : Key) (t : Told) : Prop := ∀ e ∈ t, Missed k e

/-- When a row was inserted, whatever had been asked for its key had shown none. -/
def Checked : Told → Prop :=
  Stepwise fun t e => ∀ k, e.call.inserts = some k → Clear k t

section Looking

variable {t t' : Told} {k : Key} {e : Event calls Unit}

theorem Clear.snoc (h : Clear k t) (he : Missed k e) : Clear k (t ++ [e]) := by
  intro e' he'
  rcases List.mem_append.mp he' with he' | he'
  · exact h e' he'
  · obtain rfl := List.mem_singleton.mp he'
    exact he

theorem Checked.snoc (h : Checked t) (he : ∀ k, e.call.inserts = some k → Clear k t) :
    Checked (t ++ [e]) := stepwise_concat.mpr ⟨h, he⟩

theorem checked_of_inserts (h : ∀ e ∈ t, e.call.inserts = none) : Checked t := by
  rintro t₁ e t₂ rfl k hk
  rw [h e (by simp)] at hk
  cases hk

theorem not_shows_nil (k : Key) (q : Query) : ¬ q.shows k [] := by
  cases q <;> simp [Query.shows]

/-- A query that shows no row at all misses every key. -/
theorem missed_nil (k : Key) (c : Connection) (q : Query) :
    Missed k (⟨(), .executeQuery c q, some []⟩ : Event calls Unit) := fun _ =>
  ⟨[], rfl, not_shows_nil k q⟩

end Looking

section Adding

variable [Jdk] {A : (c : Call) → c.Ret → Prop} {t : Told} {α : Type}

omit [Jdk] in
/-- A part that inserts nothing. -/
theorem wp_checked {p : Panel α} (hp : p.Uses (fun c : Call => c.inserts = none) fun _ => True)
    (h : Checked t) :
    wp (watching A) p (fun _ s => Checked s.2) (fun _ s => Checked s.2) ((), t) :=
  (wp_keeping hp (fun _ _ he h => h.snoc fun _ hk => by rw [he] at hk; cases hk) h).mono
    (fun _ _ h => h) fun _ _ h => h.2

omit [Jdk] in
theorem inserts_of_redraws (c : Call) (hc : c.redraws fun _ => True) : c.inserts = none := by
  cases c <;> first | rfl | exact hc.elim

omit [Jdk] in
theorem inserts_of_calibrates {id type : String} (c : Call)
    (hc : c.ofReading (Update.calibrates id type)) : c.inserts = none := by
  cases c with
  | executeUpdate c u => cases u <;> first | rfl | exact hc.elim
  | _ => rfl

omit [Jdk] in
theorem wp_checked_of_redraws {p : Panel α} (hp : Redraws (fun _ => True) p) (h : Checked t) :
    wp (watching A) p (fun _ s => Checked s.2) (fun _ s => Checked s.2) ((), t) :=
  wp_checked (hp.uses inserts_of_redraws) h

omit [Jdk] in
theorem wp_unrecognisedNode_checked {c : Connection} {id : String} (ht : Checked t)
    (hclear : ∀ k, Clear k t) :
    wp (watching A) (unrecognisedNode c id) (fun _ s => Checked s.2) (fun _ s => Checked s.2)
      ((), t) := by
  simp only [unrecognisedNode, wp_bind]
  refine wp_appendToOutput_watching _ (wp_isSelected_watching _ fun auto _ => ?_)
  rw [wp_ite]
  refine ⟨fun _ => ?_, fun _ => ?_⟩
  · rw [wp_bind]
    exact wp_appendToOutput_watching _ ht
  rw [wp_bind]
  refine (wp_plain (c := .getIgnoreNodeList) rfl).mpr fun ignored _ => ?_
  cases ignored with
  | none => exact ht
  | some l =>
    simp only
    rw [wp_ite]
    refine ⟨fun _ => ?_, fun _ => ?_⟩
    · rw [wp_bind]
      exact wp_appendToOutput_watching _ ht
    simp only [addUnrecognisedNode, wp_bind]
    refine wp_appendToOutput_watching _ ((wp_plain (c := .createStatement c) rfl).mpr
      fun created _ => ?_)
    rw [wp_ite]
    refine ⟨fun _ => ?_, fun _ => ?_⟩
    · rw [wp_bind]
      exact wp_appendToOutput_watching _ ht
    rw [wp_bind]
    refine wp_executeUpdate_watching fun ok _ => ?_
    refine wp_checked (Program.uses_ite _ trivial (.bind ?_ fun _ => ?_))
      (ht.snoc fun k _ => hclear k)
    · simp [closeConnection, appendToOutputOf, Call.inserts]
    · refine ((redraws_appendToOutput _).uses inserts_of_redraws).bind fun _ => ?_
      exact (redraws_updateNodeSelects.mono fun _ _ => trivial).uses inserts_of_redraws

theorem wp_unrecognisedSensor_checked {id type : String} (ht : Checked t)
    (hclear : Clear (.sensor id type) t) :
    wp (watching A) (unrecognisedSensor id type) (fun _ s => Checked s.2) (fun _ s => Checked s.2)
      ((), t) := by
  simp only [unrecognisedSensor, ignoreSensorListContains, wp_bind]
  refine (wp_plain (c := .getIgnoreSensorList) rfl).mpr fun ignored _ => ?_
  cases ignored with
  | none => exact ht
  | some l =>
    simp only
    cases containsEntry ⟨some id, some type⟩ l with
    | error e => exact ht
    | ok listed =>
      simp only [wp_pure]
      rw [wp_ite]
      refine ⟨fun _ => ?_, fun _ => ?_⟩
      · rw [wp_bind]
        exact wp_appendToOutput_watching _ ht
      simp only [addUnrecognisedSensor, wp_bind]
      refine wp_appendToOutput_watching _ (wp_openStatement_watching (fun c _ => ?_) fun _ => ht)
      simp only [wp_bind]
      refine wp_executeUpdate_watching fun ok _ => ?_
      refine wp_checked_of_redraws (Program.uses_ite _ trivial ?_) (ht.snoc ?_)
      · refine (redraws_appendToOutput _).bind fun _ => (redraws_closeConnection _).bind fun _ => ?_
        refine (redraws_getSelectedItem _).bind fun selected => ?_
        exact (redraws_updateSensorsSelect trivial _).bind fun _ => redraws_appendToOutput _
      · rintro k ⟨⟩
        exact hclear

theorem wp_recognisedNode_checked {id type : String} {value : Int32} {c : Connection}
    {addresses : List String} (ht : Checked t) (hclear : Clear (.sensor id type) t) :
    wp (watching A) (recognisedNode id type value c addresses) (fun _ s => Checked s.2)
      (fun _ s => Checked s.2) ((), t) := by
  have hrecognised : ∀ {t}, Checked t → wp (watching A) (recognisedSensor id type value addresses)
      (fun _ s => Checked s.2) (fun _ s => Checked s.2) ((), t) := fun ht =>
    wp_checked ((uses_recognisedSensor value addresses).mono inserts_of_calibrates fun _ h => h) ht
  have hasked : ∀ c x, Checked (t ++ [⟨(), .executeQuery c (.sensors id), x⟩]) := fun c x =>
    ht.snoc fun _ hk => by cases hk
  simp only [recognisedNode, wp_bind]
  refine wp_appendToOutput_watching _ (wp_lookUpTypes_watching (fun c' rows _ _ => ?_) (fun _ => ht)
    fun c x _ => hasked c x)
  simp only [wp_bind]
  refine wp_closeConnection_watching ?_
  rw [wp_ite]
  refine ⟨fun _ => hrecognised (hasked c' _), fun hmem => ?_⟩
  rw [wp_bind]
  refine wp_isSelected_watching _ fun auto _ => ?_
  rw [wp_ite]
  refine ⟨fun _ => ?_, fun _ => ?_⟩
  · rw [wp_bind]
    exact wp_appendToOutput_watching _ (hasked c' _)
  rw [wp_bind]
  refine wp_isSelected_watching _ fun auto' _ => ?_
  rw [wp_ite]
  refine ⟨fun _ => ?_, fun _ => hrecognised (hasked c' _)⟩
  rw [wp_bind]
  refine wp_unrecognisedSensor_checked (hasked c' _) (hclear.snoc fun _ => ⟨rows, rfl, ?_⟩)
  rintro ⟨r, hr, hkey⟩
  refine hmem ?_
  rw [List.contains_iff_mem]
  exact List.mem_map.mpr ⟨r, hr, (Key.sensor.inj hkey).2.symm⟩

/-- A reading looks before it inserts. -/
theorem wp_sensed_checked {id type : String} {value : Int32} :
    wp (watching A) (sensed id type value) (fun _ s => Checked s.2) (fun _ s => Checked s.2)
      ((), []) := by
  have hasked : ∀ c x, Checked ([] ++ [(⟨(), .executeQuery c (.node id), x⟩ : Event calls Unit)]) :=
    fun c x => checked_of_inserts (by simp [Call.inserts])
  simp only [sensed, wp_bind]
  refine wp_lookUpNode_watching (fun c rows _ _ => ?_) (fun _ => checked_of_inserts (by simp))
    fun c x _ => hasked c x
  simp only [nodeLookup, List.isEmpty_iff]
  rw [wp_ite]
  refine ⟨fun hnone => ?_, fun _ => ?_⟩
  · obtain rfl := List.map_eq_nil_iff.mp hnone
    rw [wp_bind]
    refine wp_unrecognisedNode_checked (hasked c _) fun k => ?_
    exact Clear.snoc (t := []) (by simp [Clear]) (missed_nil k c _)
  · refine wp_recognisedNode_checked (hasked c _) ?_
    exact Clear.snoc (t := []) (by simp [Clear]) fun h => by cases h

omit [Jdk] in
theorem quiet_unignoreNode :
    unignoreNode.Uses (fun c : Call => c.isStatement = false) fun _ => True := by
  simp only [unignoreNode, getText, uses_call_bind]
  refine ⟨rfl, fun id => ⟨rfl, fun ignored => ?_⟩⟩
  cases ignored with
  | none => trivial
  | some l =>
    refine Program.uses_ite _ ?_ trivial
    exact ⟨rfl, fun _ => ⟨rfl, fun _ => ⟨rfl, fun _ => trivial⟩⟩⟩

theorem wp_manualNodeAdd_checked :
    wp (watching A) manualNodeAdd (fun _ s => Checked s.2) (fun _ s => Checked s.2) ((), []) := by
  have hempty : Checked [] := checked_of_inserts (by simp)
  simp only [manualNodeAdd, wp_bind]
  refine wp_getText_watching _ fun id => ?_
  rw [wp_ite]
  refine ⟨fun _ => ?_, fun _ => ?_⟩
  · rw [wp_bind]
    exact wp_appendToOutput_watching _ hempty
  rw [wp_bind]
  refine wp_openStatement_watching (fun c _ => ?_) fun _ => hempty
  simp only [wp_bind]
  refine wp_getText_watching _ fun id => ?_
  have hasked : ∀ x, Checked ([] ++ [(⟨(), .executeQuery c (.node id), x⟩ : Event calls Unit)]) :=
    fun x => checked_of_inserts (by simp [Call.inserts])
  refine wp_executeQuery_watching (fun rows _ => ?_) fun _ => hasked none
  simp only [wp_bind]
  refine wp_readRows_watching ?_ fun _ => hasked _
  simp only
  rw [wp_ite]
  refine ⟨fun _ => ?_, fun hnone => ?_⟩
  · rw [wp_bind]
    exact wp_appendToOutput_watching _ (hasked _)
  obtain rfl : rows = [] := by simpa using hnone
  rw [wp_bind]
  refine wp_getText_watching _ fun address => ?_
  rw [wp_ite]
  refine ⟨fun _ => ?_, fun _ => ?_⟩
  · rw [wp_bind]
    exact wp_appendToOutput_watching _ (hasked _)
  simp only [wp_bind]
  refine wp_appendToOutput_watching _ ?_
  refine wp_quiet quiet_unignoreNode (fun _ => ?_) fun _ _ => hasked _
  simp only [insertTypedNode, wp_bind]
  refine (wp_plain (c := .createStatement c) rfl).mpr fun created _ => ?_
  rw [wp_ite]
  refine ⟨fun _ => ?_, fun _ => ?_⟩
  · rw [wp_bind]
    exact wp_appendToOutput_watching _ (hasked _)
  simp only [wp_bind]
  refine wp_getText_watching _ fun id' => wp_getText_watching _ fun address' => ?_
  refine wp_executeUpdate_watching fun ok _ => ?_
  refine wp_checked (Program.uses_ite _ trivial ?_) ((hasked _).snoc fun k _ => ?_)
  · refine ((redraws_appendToOutput _).uses inserts_of_redraws).bind fun _ => ?_
    refine ((redraws_closeConnection _).uses inserts_of_redraws).bind fun _ => ?_
    refine ((redraws_updateNodeSelects.mono fun _ _ => trivial).uses inserts_of_redraws).bind
      fun _ => ?_
    exact ⟨rfl, fun _ => ⟨rfl, fun _ => trivial⟩⟩
  · exact Clear.snoc (t := []) (by simp [Clear]) (missed_nil k c _)

theorem quiet_unignoreSensor :
    unignoreSensor.Uses (fun c : Call => c.isStatement = false) fun _ => True := by
  simp only [unignoreSensor, getSelectedItem, getText, uses_call_bind]
  refine ⟨rfl, fun id => ⟨rfl, fun type => ?_⟩⟩
  refine .bind (uses_ignoreSensorListContains _ (by rfl)) fun listed => ?_
  refine Program.uses_ite _ ?_ trivial
  simp only [uses_call_bind]
  refine ⟨rfl, fun ignored => ?_⟩
  cases ignored with
  | none => trivial
  | some l =>
    simp only
    cases removeEntry ⟨id, some type⟩ l with
    | error e => trivial
    | ok rest => exact ⟨rfl, fun _ => ⟨rfl, fun _ => trivial⟩⟩

omit [Jdk] in
theorem inserts_of_quiet (c : Call) (hc : c.isStatement = false) : c.inserts = none := by
  cases c <;> first | rfl | cases hc

theorem wp_manualSensorAdd_checked :
    wp (watching A) manualSensorAdd (fun _ s => Checked s.2) (fun _ s => Checked s.2) ((), []) := by
  have hempty : Checked [] := checked_of_inserts (by simp)
  simp only [manualSensorAdd, wp_bind]
  refine wp_getText_watching _ fun type => ?_
  rw [wp_ite]
  refine ⟨fun _ => ?_, fun _ => ?_⟩
  · rw [wp_bind]
    exact wp_appendToOutput_watching _ hempty
  rw [wp_bind]
  refine wp_openStatement_watching (fun c _ => ?_) fun _ => hempty
  simp only [wp_bind]
  refine wp_getSelectedItem_watching _ fun id => wp_getText_watching _ fun type => ?_
  have hasked : ∀ x, Checked ([] ++
      [(⟨(), .executeQuery c (.sensor (spell id) type), x⟩ : Event calls Unit)]) :=
    fun x => checked_of_inserts (by simp [Call.inserts])
  refine wp_executeQuery_watching (fun rows _ => ?_) fun _ => hasked none
  simp only [wp_bind]
  refine wp_readRows_watching ?_ fun _ => hasked _
  simp only
  rw [wp_ite]
  refine ⟨fun _ => ?_, fun hnone => ?_⟩
  · rw [wp_bind]
    exact wp_appendToOutput_watching _ (hasked _)
  obtain rfl : rows = [] := by simpa using hnone
  simp only [ignoreSensorListContainsString, wp_bind]
  refine wp_appendToOutput_watching _ ((wp_plain (c := .getIgnoreSensorList) rfl).mpr
    fun ignored _ => ?_)
  cases ignored with
  | none => exact hasked _
  | some l =>
    simp only [wp_pure, insertTypedSensor, wp_bind]
    refine (wp_plain (c := .createStatement c) rfl).mpr fun created _ => ?_
    rw [wp_ite]
    refine ⟨fun _ => ?_, fun _ => ?_⟩
    · rw [wp_bind]
      exact wp_appendToOutput_watching _ (hasked _)
    simp only [wp_bind]
    refine wp_getSelectedItem_watching _ fun id' => wp_getText_watching _ fun type' => ?_
    refine wp_executeUpdate_watching fun ok _ => ?_
    refine wp_checked (Program.uses_ite _ trivial ?_) ((hasked _).snoc fun k _ => ?_)
    · refine ((redraws_appendToOutput _).uses inserts_of_redraws).bind fun _ => ?_
      refine ((redraws_closeConnection _).uses inserts_of_redraws).bind fun _ => ?_
      refine (quiet_unignoreSensor.mono inserts_of_quiet fun _ h => h).bind fun _ => ?_
      refine ((redraws_getSelectedItem _).uses inserts_of_redraws).bind fun _ => ?_
      refine ((redraws_updateSensorsSelect trivial _).uses inserts_of_redraws).bind fun _ => ?_
      exact ⟨rfl, fun _ => trivial⟩
    · exact Clear.snoc (t := []) (by simp [Clear]) (missed_nil k c _)

/-- What adds rows: a reading, or one of the operator's two adds. -/
inductive Adding where
  | sensed (id type : String) (value : Int32)
  | manualNodeAdd
  | manualSensorAdd

/-- The program it runs. -/
def Adding.program : Adding → Panel Unit
  | .sensed id type value => do
    let _ ← CrossingReality.sensed id type value
  | .manualNodeAdd => CrossingReality.manualNodeAdd
  | .manualSensorAdd => CrossingReality.manualSensorAdd

/-- **Looking first.** Whatever adds rows looks before it inserts. -/
theorem wp_adding_checked (a : Adding) :
    wp (watching A) a.program (fun _ s => Checked s.2) (fun _ s => Checked s.2) ((), []) := by
  cases a with
  | sensed id type value =>
    simp only [Adding.program, wp_bind]
    exact wp_sensed_checked
  | manualNodeAdd => exact wp_manualNodeAdd_checked
  | manualSensorAdd => exact wp_manualSensorAdd_checked

end Adding

/-! ## Interleavings -/

variable {ι : Type}

/-- A move of a pool of the program's threads. -/
abbrev PanelMove (ι : Type) := Move ι calls World

/-- The move put a row with the key into the database at `url`. -/
def PutIn (url : String) (k : Key) (e : Event calls World) : Prop :=
  ∃ u, Writes url u e ∧ u.inserts = some k

/-- The move asked the database at `url` for the rows with a key. -/
def Selects (url : String) (k : Key) : Event calls World → Prop
  | ⟨_, .executeQuery c q, _⟩ => c.url = url ∧ q.asks k
  | _ => False

/-- Whenever a row goes in, its thread has asked for its key before, and no row with that key has
gone in since. -/
def Undisturbed (url : String) : List (PanelMove ι) → Prop :=
  Stepwise fun l m => ∀ k, PutIn url k m.toEvent →
    ∃ l₁ q l₂, l = l₁ ++ q :: l₂ ∧ q.thread = m.thread ∧ Selects url k q.toEvent ∧
      ∀ m' ∈ l₂, ¬ PutIn url k m'.toEvent

section Pools

variable [DecidableEq ι] {ps ps' : ι → Panel Unit} {w w' : World} {l : List (PanelMove ι)}
  {url : String}

/-- A key that a move added was put in. -/
theorem isIn_of_post {may : Call → Prop} {c : Call} {x : c.Ret} {k : Key}
    (h : (under col may).post c w x w') (hk : k.isIn (w'.servers url)) :
    k.isIn (w.servers url) ∨ PutIn url k ⟨w, c, x⟩ := by
  rcases servers_of_post h url with ⟨-, heq⟩ | ⟨u, hwrites, heq⟩
  · exact .inl (heq ▸ hk)
  · rw [heq] at hk
    exact (Database.isIn_apply hk).imp_right fun hu => ⟨u, hwrites, hu⟩

/-- A key that is there was there at any earlier move, or has been put in since. -/
theorem isIn_of_interleaving {may : Call → Prop} {k : Key}
    (h : Interleaving (under col may) ps w l ps' w') (hk : k.isIn (w'.servers url)) :
    ∀ l₁ m l₂, l = l₁ ++ m :: l₂ →
      k.isIn (m.before.servers url) ∨ ∃ m' ∈ m :: l₂, PutIn url k m'.toEvent := by
  induction h with
  | nil =>
    intro l₁ m l₂ heq
    simp at heq
  | @move l ps' s' s'' i c p x h hi hx ih =>
    intro l₁ m l₂ heq
    rcases List.eq_nil_or_concat l₂ with rfl | ⟨l₃, m', rfl⟩
    · obtain ⟨rfl, hm⟩ := List.append_inj' heq rfl
      obtain rfl := List.singleton_inj.mp hm
      exact (isIn_of_post hx hk).imp_right fun hput => ⟨_, List.mem_singleton_self _, hput⟩
    · rw [List.concat_eq_append, ← List.cons_append, ← List.append_assoc] at heq
      obtain ⟨rfl, hm⟩ := List.append_inj' heq rfl
      obtain rfl := List.singleton_inj.mp hm
      rw [List.concat_eq_append, ← List.cons_append]
      rcases isIn_of_post hx hk with hk | hput
      · refine (ih hk l₁ m l₃ rfl).imp_right ?_
        rintro ⟨m', hm', hput⟩
        exact ⟨m', List.mem_append_left _ hm', hput⟩
      · exact .inr ⟨_, List.mem_append_right _ (List.mem_singleton_self _), hput⟩

theorem call_of_putIn {k : Key} {e : Event calls World} (h : PutIn url k e) :
    e.call.isStatement = true ∧ e.call.inserts = some k := by
  obtain ⟨before, c, x⟩ := e
  obtain ⟨u, hwrites, hu⟩ := h
  cases c with
  | executeUpdate c u' =>
    obtain ⟨-, rfl, -⟩ := hwrites
    exact ⟨rfl, hu⟩
  | _ => exact hwrites.elim

theorem isStatement_of_selects {k : Key} {e : Event calls World} (h : Selects url k e) :
    e.call.isStatement = true := by
  obtain ⟨before, c, x⟩ := e
  cases c with
  | executeQuery c q => rfl
  | _ => exact h.elim

theorem not_putIn_of_selects {k k' : Key} {e : Event calls World} (h : Selects url k e) :
    ¬ PutIn url k' e := by
  obtain ⟨before, c, x⟩ := e
  cases c with
  | executeQuery c q => exact fun ⟨_, hwrites, _⟩ => hwrites.elim
  | _ => exact h.elim

theorem missed_blind {k : Key} {e : Event calls World} :
    Missed k (⟨(), e.call, e.ret⟩ : Event calls Unit) ↔ Missed k e := by
  obtain ⟨before, c, x⟩ := e
  cases c <;> exact Iff.rfl

/-- A selected key that is there is shown, if the query is answered at all. -/
theorem not_isIn_of_missed {may : Call → Prop} {k : Key} {q : Event calls World}
    (hcol : ∀ s, col.same s s = true) (hq : Selects url k q) (hmissed : Missed k q)
    (hpost : ∃ w', (under col may).post q.call q.before q.ret w') :
    ¬ k.isIn (q.before.servers url) := by
  obtain ⟨before, c, x⟩ := q
  cases c with
  | executeQuery c q =>
    obtain ⟨rfl, hasks⟩ := hq
    obtain ⟨rows, rfl, hshows⟩ := hmissed hasks
    obtain ⟨w', f, -, hstep⟩ := hpost
    have hrows : some (q.run col (before.servers c.url)) = some rows := by
      have hx : (step col (.executeQuery c q) f before).1 = some rows := congrArg Prod.fst hstep
      simp only [step] at hx
      split at hx
      · cases hx
      · exact hx
    exact fun hk => hshows (Option.some_inj.mp hrows ▸ shows_of_asks hcol hasks hk)
  | _ => exact hq.elim

variable [Jdk]

/-- **Uniqueness.** In an interleaving of readings and adds in which every row goes in undisturbed,
no table gets two rows with the same key, whatever fails. -/
theorem interleaving_unique {a : ι → Adding} (hcol : ∀ s, col.same s s = true)
    (h : Interleaving (under col anyFault) (fun i => (a i).program) w l ps' w')
    (hw : Unique (w.servers url)) (hl : Undisturbed url l) : Unique (w'.servers url) := by
  induction h with
  | nil => exact hw
  | @move l ps' s' s'' i c p x h hi hx ih =>
    have hunique := ih hl.of_append
    rcases servers_of_post hx url with ⟨-, heq⟩ | ⟨u, hwrites, heq⟩
    · rwa [heq]
    rw [heq]
    refine Database.unique_apply hunique fun k hk hin => ?_
    have hput : PutIn url k ⟨s', c, x⟩ := ⟨u, hwrites, hk⟩
    obtain ⟨l₃, q, l₄, rfl, hthread, hselects, hnone⟩ := (stepwise_concat.mp hl).2 k hput
    -- The thread saw that there is no such row, and none has been put in since.
    have hchecked := of_wp_recording (fun c => (Call.exists_ret c).elim fun x => ⟨x, trivial⟩)
      (fun _ _ => Stepwise.of_append)
      ((Interleaving.move h hi hx).judged (A := fun _ _ => True) (fun _ _ => trivial)
        (wp_adding_checked (a i)))
    have hmissed : Missed k q.toEvent := by
      obtain ⟨hstatement, hinserts⟩ := call_of_putIn hput
      have hnew : [(⟨(), c, x⟩ : Event calls Unit)].filter (·.call.isStatement) = [⟨(), c, x⟩] := by
        simpa using hstatement
      rw [own_append, own_singleton_self, List.filter_append, hnew] at hchecked
      refine missed_blind.mp ((stepwise_concat.mp hchecked).2 k hinserts _
        (List.mem_filter.mpr ⟨?_, ?_⟩))
      · exact mem_own.mpr ⟨q, by simp, hthread, rfl⟩
      · exact isStatement_of_selects hselects
    rcases isIn_of_interleaving h hin l₃ q l₄ rfl with hbefore | ⟨m', hm', hput'⟩
    · exact not_isIn_of_missed hcol hselects hmissed (h.post q (by simp)) hbefore
    · rcases List.mem_cons.mp hm' with rfl | hm'
      · exact not_putIn_of_selects hselects hput'
      · exact hnone m' hm' hput'

end Pools

/-! ## Two first readings -/

instance (url : String) (k : Key) (e : Event calls World) : Decidable (Selects url k e) := by
  obtain ⟨before, c, x⟩ := e
  cases c <;> simp only [Selects] <;> infer_instance

/-- The thread has asked for the key, and no row with it has gone in since. The moves are the latest
first. -/
def soughtBefore {ι : Type} [DecidableEq ι] (url : String) (k : Key) (i : ι) :
    List (PanelMove ι) → Bool
  | [] => false
  | m :: l => (decide (m.thread = i) && decide (Selects url k m.toEvent)) ||
    (m.call.inserts != some k && soughtBefore url k i l)

/-- The scan for a row that goes in without that, after the moves `l`, the latest first. -/
def scanInserts {ι : Type} [DecidableEq ι] (url : String) :
    List (PanelMove ι) → List (PanelMove ι) → Bool
  | _, [] => true
  | l, m :: l' => m.call.inserts.all (soughtBefore url · m.thread l) && scanInserts url (m :: l) l'

section Scan

variable {ι : Type} [DecidableEq ι] {url : String} {l : List (PanelMove ι)}

theorem exists_of_soughtBefore {k : Key} {i : ι} (h : soughtBefore url k i l.reverse = true) :
    ∃ l₁ q l₂, l = l₁ ++ q :: l₂ ∧ q.thread = i ∧ Selects url k q.toEvent ∧
      ∀ m ∈ l₂, m.call.inserts ≠ some k := by
  induction l using List.reverseRecOn with
  | nil => cases h
  | append_singleton l m ih =>
    rw [List.reverse_append] at h
    rcases Bool.or_eq_true_iff.mp h with h | h
    · obtain ⟨hthread, hselects⟩ := Bool.and_eq_true_iff.mp h
      exact ⟨l, m, [], rfl, of_decide_eq_true hthread, of_decide_eq_true hselects, by simp⟩
    · obtain ⟨hm, h⟩ := Bool.and_eq_true_iff.mp h
      obtain ⟨l₁, q, l₂, rfl, hthread, hselects, hl₂⟩ := ih h
      refine ⟨l₁, q, l₂ ++ [m], by simp, hthread, hselects, fun m' hm' => ?_⟩
      rcases List.mem_append.mp hm' with hm' | hm'
      · exact hl₂ m' hm'
      · obtain rfl := List.mem_singleton.mp hm'
        exact bne_iff_ne.mp hm

theorem undisturbed_of_scan {l' : List (PanelMove ι)} (hl : Undisturbed url l)
    (h : scanInserts url l.reverse l' = true) : Undisturbed url (l ++ l') := by
  induction l' generalizing l with
  | nil => rwa [List.append_nil]
  | cons m l' ih =>
    obtain ⟨hm, hrest⟩ := Bool.and_eq_true_iff.mp h
    have hconcat : Undisturbed url (l ++ [m]) := by
      refine stepwise_concat.mpr ⟨hl, fun k hput => ?_⟩
      rw [(call_of_putIn hput).2] at hm
      obtain ⟨l₁, q, l₂, heq, hthread, hselects, hl₂⟩ := exists_of_soughtBefore hm
      exact ⟨l₁, q, l₂, heq, hthread, hselects, fun m' hm' hput' =>
        hl₂ m' hm' (call_of_putIn hput').2⟩
    have := ih hconcat (by rwa [List.reverse_append])
    rwa [List.append_assoc, List.singleton_append] at this

end Scan

/-- A window over empty tables, adding nodes. -/
def addingNodes : World :=
  { World.running "jdbc:mysql://db" .empty with checked := fun b => b = .wsnGeneralAutoAddCheck }

/-- First readings from two nodes. -/
def firstReadings (id : Bool → String) (i : Bool) : Adding := .sensed (id i) "light" 5

/-- Their moves in the given order. -/
def twoFirst (id : Bool → String) (order : List Bool) :
    List (PanelMove Bool) × (Bool → Panel Unit) × World :=
  racing (fun i => @Adding.program plainJdk (firstReadings id i)) order addingNodes

theorem interleaving_twoFirst (id : Bool → String) (order : List Bool) :
    Interleaving (under .exact anyFault) (fun i => @Adding.program plainJdk (firstReadings id i))
      addingNodes (twoFirst id order).1 (twoFirst id order).2.1 (twoFirst id order).2.2 :=
  interleaving_racing anyFault _ order addingNodes

/-- It is one node, and both look before either inserts. -/
theorem not_always_unique : ¬ ∀ (jdk : Jdk) (col : Collation) (a : Bool → Adding)
    (ps' : Bool → Panel Unit) (w w' : World) (l : List (PanelMove Bool)) (url : String),
    (∀ s, col.same s s = true) →
    Interleaving (under col anyFault) (fun i => @Adding.program jdk (a i)) w l ps' w' →
    Unique (w.servers url) → Unique (w'.servers url) := by
  intro h
  have hunique := h plainJdk .exact _ _ _ _ _ "jdbc:mysql://db" (by simp)
    (interleaving_twoFirst (fun _ => "1") (List.replicate 14 [true, false]).flatten)
    ⟨by decide, by decide⟩
  have hnodes : ((twoFirst (fun _ => "1") (List.replicate 14 [true, false]).flatten).2.2.servers
      "jdbc:mysql://db").nodeIds = ["1", "1"] := by decide +kernel
  have hnodup := hunique.nodes
  rw [hnodes] at hnodup
  exact absurd hnodup (by decide)

/-- Two nodes, whose readings take turns to the end. -/
def twoNodes (i : Bool) : String := if i then "1" else "2"

theorem twoNodes_unique :
    Unique ((twoFirst twoNodes (List.replicate 90 [true, false]).flatten).2.2.servers
      "jdbc:mysql://db") :=
  @interleaving_unique .exact Bool _ _ _ _ _ "jdbc:mysql://db" plainJdk (firstReadings twoNodes)
    (by simp) (interleaving_twoFirst twoNodes (List.replicate 90 [true, false]).flatten)
    ⟨by decide, by decide⟩ (undisturbed_of_scan stepwise_nil (by decide +kernel))

end CrossingReality
