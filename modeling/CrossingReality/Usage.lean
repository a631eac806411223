import CrossingReality.Registering

/-!
# Which calls the methods make

A reading updates nothing but its own node and sensor, and leaves both ignore lists alone. The
operator's actions leave the ignore lists alone and insert no row, apart from the three that add
or remove nodes and sensors.

* `uses_sensed` — the calls of a reading.
* `uses_action` — the calls of every action.
-/

namespace CrossingReality

open Effects

variable {P : Call → Prop} {R : Exn → Prop}

/-- What only redraws makes no call that a predicate allowing redrawing forbids. -/
theorem Redraws.uses {α : Type} {p : Panel α} (hp : Redraws (fun _ => True) p)
    (hP : ∀ c, c.redraws (fun _ => True) → P c) : p.Uses P R :=
  Program.Uses.mono hp hP fun _ h => h.elim

/-- Going on from a result that may be missing. -/
theorem uses_bindOption {α β : Type} {p : Panel (Option α)} {f : Option α → Panel β}
    (hp : p.Uses P R) (hnone : (f none).Uses P R) (hsome : ∀ a, (f (some a)).Uses P R) :
    (p >>= f).Uses P R :=
  Program.Uses.bind hp fun o => by
    cases o with
    | none => exact hnone
    | some a => exact hsome a

/-! ## Readings -/

/-- The calls of a reading, with updates in `U`. A line on one area alone goes with adding a
node. -/
def Call.ofReading (U : Update → Prop) : Call → Prop
  | .executeUpdate _ u => U u
  | .appendArea _ _ => ∃ id, U (.insertNode id none)
  | .setText f _ => f.shows
  | .setCaretPosition _ | .setSelected _ _ | .setSelectedItem _ _ | .setIgnoreNodeList _
  | .addIgnoreNode _ | .removeIgnoreNode _ | .setIgnoreSensorList _ | .addIgnoreSensor _
  | .setMysql _ _ | .readMysqldetails | .writeMysqldetails _ | .execute _ _ _ | .respond _ => False
  | _ => True

/-- The updates of a sensor's bounds that a reading makes. -/
def Update.calibrates (id type : String) : Update → Prop
  | .setMin _ i t | .setMax _ i t | .setBounds _ i t => i = id ∧ t = type
  | _ => False

/-- The updates of a sensor that a reading makes. -/
def Update.ofSensor (id type : String) : Update → Prop
  | .insertSensor i t | .setMin _ i t | .setMax _ i t | .setBounds _ i t => i = id ∧ t = type
  | _ => False

section Readings

variable {id type : String} {U V : Update → Prop}

theorem Call.ofReading_mono (h : ∀ u, U u → V u) {c : Call} (hc : c.ofReading U) :
    c.ofReading V := by
  cases c <;> first | exact hc | exact h _ hc | exact hc.imp fun _ => h _

theorem ofReading_of_redraws (c : Call) (hc : c.redraws fun _ => True) : c.ofReading U := by
  cases c <;> first | exact hc | trivial

/-- The part of a reading that only redraws. -/
theorem Redraws.ofReading {α : Type} {p : Panel α} (hp : Redraws (fun _ => True) p) :
    p.Uses (Call.ofReading U) R := hp.uses ofReading_of_redraws

theorem uses_executeUpdate {u : Update} (hu : ∀ c, P (.executeUpdate c u))
    (hP : ∀ m, P (.append m)) (c : Connection) (m : Message) :
    (executeUpdate c u m).Uses P R := by
  simp [executeUpdate, appendToOutput, hu, hP]

theorem uses_writeBound {u : Update} (hP : ∀ c, c.redraws (fun _ => True) → P c)
    (hu : ∀ k, P (.executeUpdate k u)) (m m' : Message) : (writeBound u m m').Uses P R := by
  refine uses_bindOption ((redraws_openStatement _).uses hP) trivial fun connect => ?_
  refine .bind (uses_executeUpdate hu (fun m => hP (.append m) trivial) _ _) fun ok => ?_
  refine Program.uses_ite _ trivial (((redraws_closeConnection _).uses hP).bind fun _ => ?_)
  exact ((redraws_appendToOutput _).uses hP).bind fun _ => trivial

theorem uses_sendPost (p : Post) (l : List (HttpCall × Message)) :
    (sendPost p l).Uses (Call.ofReading U) R := by
  induction l with
  | nil => trivial
  | cons c l ih =>
    simp only [sendPost, uses_call_bind]
    refine ⟨trivial, fun ok => Program.uses_ite _ ?_ ih⟩
    exact (redraws_appendToOutput _).ofReading.bind fun _ => trivial

theorem redraws_scaleValue {S : ComboBox → Prop} (value : Int32) (b : Bounds) :
    Redraws S (scaleValue value b) := by
  have habove : ∀ x, Redraws S (clampAbove x) := fun x =>
    Program.uses_ite _ ((redraws_appendToOutput _).bind fun _ => trivial) trivial
  have hbelow : ∀ x, Redraws S (clampBelow x) := fun x =>
    Program.uses_ite _ ((redraws_appendToOutput _).bind fun _ => trivial) trivial
  unfold scaleValue
  split
  · exact (habove _).bind fun x => hbelow x
  · trivial

/-- Adding a sensor is redrawing, but for the row it adds. -/
theorem uses_addUnrecognisedSensor (hP : ∀ c, c.redraws (fun _ => True) → P c)
    (hU : ∀ k, P (.executeUpdate k (.insertSensor id type))) :
    (addUnrecognisedSensor id type).Uses P R := by
  refine ((redraws_appendToOutput _).uses hP).bind fun _ => ?_
  refine uses_bindOption ((redraws_openStatement _).uses hP) trivial fun connect => ?_
  refine .bind (uses_executeUpdate hU (fun m => hP (.append m) trivial) _ _) fun ok => ?_
  refine Program.uses_ite _ trivial ?_
  refine ((redraws_appendToOutput _).uses hP).bind fun _ => ?_
  refine ((redraws_closeConnection _).uses hP).bind fun _ => ?_
  refine ((redraws_getSelectedItem _).uses hP).bind fun id => ?_
  refine ((redraws_updateSensorsSelect trivial _).uses hP).bind fun _ => ?_
  exact (redraws_appendToOutput _).uses hP

theorem uses_addUnrecognisedNode (hP : ∀ c, c.redraws (fun _ => True) → P c)
    (hstray : ∀ a m, P (.appendArea a m))
    (hU : ∀ k, P (.executeUpdate k (.insertNode id none))) (connect : Connection) :
    (addUnrecognisedNode connect id).Uses P fun _ => True := by
  have happend : ∀ m, P (.append m) := fun m => hP (.append m) trivial
  refine ((redraws_appendToOutput _).uses hP).bind fun _ => ?_
  simp only [uses_call_bind]
  refine ⟨hP (.createStatement connect) trivial, fun ok => Program.uses_ite _ ?_ ?_⟩
  · exact ((redraws_appendToOutput _).uses hP).bind fun _ => trivial
  refine .bind (uses_executeUpdate hU happend _ _) fun ok => ?_
  refine Program.uses_ite _ trivial (.bind ?_ fun _ => ?_)
  · simp [closeConnection, appendToOutputOf, hstray, hP (.close connect) trivial]
  refine ((redraws_appendToOutput _).uses hP).bind fun _ => ?_
  exact (redraws_updateNodeSelects.mono fun _ _ => trivial).uses hP

/-- A reading of an unregistered node asks one box and one list, and redraws. -/
theorem uses_unrecognisedNode (hP : ∀ c, c.redraws (fun _ => True) → P c)
    (hstray : ∀ a m, P (.appendArea a m)) (hauto : P (.isSelected .wsnGeneralAutoAddCheck))
    (hlist : P .getIgnoreNodeList) (hU : ∀ k, P (.executeUpdate k (.insertNode id none)))
    (connect : Connection) :
    (unrecognisedNode connect id).Uses P fun _ => True := by
  refine ((redraws_appendToOutput _).uses hP).bind fun _ => ?_
  simp only [isSelected, uses_call_bind]
  refine ⟨hauto, fun auto => Program.uses_ite _ ?_ ⟨hlist, fun ignored => ?_⟩⟩
  · exact ((redraws_appendToOutput _).uses hP).bind fun _ => trivial
  cases ignored with
  | none => trivial
  | some l =>
    refine Program.uses_ite _ ?_ (uses_addUnrecognisedNode hP hstray hU connect)
    exact ((redraws_appendToOutput _).uses hP).bind fun _ => trivial

theorem redraws_lookUpTypes {S : ComboBox → Prop} (id : String) : Redraws S (lookUpTypes id) := by
  refine redraws_bindOption (redraws_openStatement _) trivial fun connect => ?_
  refine redraws_bindOption (redraws_executeQuery _ _ _) trivial fun rows => ?_
  exact redraws_readRows _ _ _

variable [Jdk]

/-- Write a bound and show it. -/
theorem uses_writeShown {value : Int32} {u : Update} (hP : ∀ c, c.redraws (fun _ => True) → P c)
    (hu : ∀ k, P (.executeUpdate k u)) (m m' : Message)
    {fields : List TextField} (hf : ∀ f ∈ fields, f.shows) :
    (do
      if !(← writeBound u m m') then return false
      showBound id type value fields
      return true : Panel Bool).Uses P R := by
  refine (uses_writeBound hP hu m m').bind fun ok => Program.uses_ite _ trivial ?_
  exact ((redraws_showBound value hf).uses hP).bind fun _ => trivial

/-- Calibrating is redrawing, but for the bounds it writes. -/
theorem uses_calibrateRow (hP : ∀ c, c.redraws (fun _ => True) → P c)
    (hU : ∀ k u, u.calibrates id type → P (.executeUpdate k u)) (value : Int32) (b : Bounds) :
    (calibrateRow id type value b).Uses P R := by
  have hshows : ∀ f ∈ [TextField.wsnSensorsCalibrationMinField,
      .wsnSensorsCalibrationMaxField], f.shows := by simp [TextField.shows]
  have hshown : ∀ {u : Update} {m m' : Message} {fields : List TextField},
      u.calibrates id type → (∀ f ∈ fields, f ∈ [TextField.wsnSensorsCalibrationMinField,
        .wsnSensorsCalibrationMaxField]) → (do
      if !(← writeBound u m m') then return false
      showBound id type value fields
      return true : Panel Bool).Uses P R := fun hu hf =>
    uses_writeShown hP (fun k => hU k _ hu) _ _ fun f h => hshows f (hf f h)
  have hlower : ∀ min, (lowerMin id type value min).Uses P R := fun min =>
    Program.uses_ite _ (hshown (by exact ⟨rfl, rfl⟩) (by simp)) trivial
  have hraise : ∀ max, (raiseMax id type value max).Uses P R := fun max =>
    Program.uses_ite _ (hshown (by exact ⟨rfl, rfl⟩) (by simp)) trivial
  obtain ⟨max, min⟩ := b
  cases min with
  | none =>
    cases max with
    | none => exact hshown (by exact ⟨rfl, rfl⟩) fun _ h => h
    | some max => trivial
  | some min =>
    cases max with
    | none => trivial
    | some max => exact (hlower min).bind fun ok => Program.uses_ite _ trivial (hraise max)

theorem uses_calibrateIfTicked (hP : ∀ c, c.redraws (fun _ => True) → P c)
    (hbox : P (.isSelected .wsnSensorsCalibrateCheck))
    (hU : ∀ k u, u.calibrates id type → P (.executeUpdate k u)) (value : Int32) :
    (calibrateIfTicked id type value).Uses P fun _ => True := by
  simp only [calibrateIfTicked, isSelected, uses_call_bind]
  refine ⟨hbox, fun on => Program.uses_ite _ ?_ trivial⟩
  refine uses_bindOption ((redraws_readBounds _ _).uses hP) trivial fun bounds => ?_
  cases h : bounds.head? <;> simp only [h]
  · trivial
  · exact uses_calibrateRow hP hU _ _

theorem uses_forwardReading (value : Int32) (addresses : List String) :
    (forwardReading id type value addresses).Uses (Call.ofReading U) fun _ => True := by
  refine (redraws_appendToOutput _).ofReading.bind fun _ => ?_
  simp only [isSelected, uses_call_bind]
  refine ⟨trivial, fun paused => Program.uses_ite _ ?_ ?_⟩
  · exact (redraws_appendToOutput _).ofReading.bind fun _ => trivial
  cases addresses.head? with
  | none => exact (redraws_appendToOutput _).ofReading.bind fun _ => trivial
  | some address =>
    refine (redraws_appendToOutput _).ofReading.bind fun _ => ?_
    refine uses_bindOption (redraws_readBounds _ _).ofReading trivial fun bounds => ?_
    cases h : bounds.head? <;> simp only [h]
    · trivial
    refine (redraws_scaleValue _ _).ofReading.bind fun x => ?_
    refine (uses_sendPost _ _).bind fun ok => Program.uses_ite _ trivial ?_
    exact (redraws_appendToOutput _).ofReading.bind fun _ => trivial

theorem redraws_collectNode {S : ComboBox → Prop} (acc : List String × List String)
    (row : NodeRow) : Redraws S (collectNode acc row) := by
  unfold collectNode
  split
  · exact Program.uses_ite _ trivial ((redraws_appendToOutput _).bind fun _ => trivial)
  · exact (redraws_appendToOutput _).bind fun _ => trivial

theorem redraws_lookUpNode {S : ComboBox → Prop} (id : String) : Redraws S (lookUpNode id) := by
  refine redraws_bindOption (redraws_openStatement _) trivial fun connect => ?_
  refine redraws_bindOption (redraws_executeQuery _ _ _) trivial fun rows => ?_
  refine redraws_bindOption (redraws_whileNext redraws_collectNode _ _) ?_ fun found => trivial
  exact (redraws_appendToOutput _).bind fun _ => trivial

theorem uses_ignoreSensorListContains (o : SensorIgnoreIdTypeObject)
    (hP : P .getIgnoreSensorList) : (ignoreSensorListContains o).Uses P fun _ => True := by
  simp only [ignoreSensorListContains, uses_call_bind]
  refine ⟨hP, fun ignored => ?_⟩
  cases ignored with
  | none => trivial
  | some l => cases h : containsEntry o l <;> simp only [h] <;> trivial

theorem uses_unrecognisedSensor (hP : ∀ c, c.redraws (fun _ => True) → P c)
    (hlist : P .getIgnoreSensorList) (hU : ∀ k, P (.executeUpdate k (.insertSensor id type))) :
    (unrecognisedSensor id type).Uses P fun _ => True := by
  refine (uses_ignoreSensorListContains _ hlist).bind fun listed => Program.uses_ite _ ?_ ?_
  · exact ((redraws_appendToOutput _).uses hP).bind fun _ => trivial
  · exact uses_addUnrecognisedSensor hP hU

omit [Jdk] in
theorem ofSensor_of_calibrates (u : Update) (hu : u.calibrates id type) : u.ofSensor id type := by
  cases u <;> first | exact hu | exact hu.elim

/-- A reading of a registered sensor updates only its bounds. -/
theorem uses_recognisedSensor (value : Int32) (addresses : List String) :
    (recognisedSensor id type value addresses).Uses
      (Call.ofReading (Update.calibrates id type)) fun _ => True :=
  (uses_calibrateIfTicked ofReading_of_redraws trivial (fun _ _ h => h) value).bind fun _ =>
    Program.uses_ite _ trivial (uses_forwardReading _ _)

/-- A reading of a registered node updates only its own sensor. -/
theorem uses_recognisedNode (value : Int32) (connect : Connection) (addresses : List String) :
    (recognisedNode id type value connect addresses).Uses
      (Call.ofReading (Update.ofSensor id type)) fun _ => True := by
  refine (redraws_appendToOutput _).ofReading.bind fun _ => ?_
  refine uses_bindOption (redraws_lookUpTypes _).ofReading trivial fun types => ?_
  refine (redraws_closeConnection _).ofReading.bind fun _ => ?_
  have hrecognised := Program.Uses.mono (@uses_recognisedSensor id type _ value addresses)
    (fun _ => Call.ofReading_mono ofSensor_of_calibrates) fun _ h => h
  refine Program.uses_ite _ hrecognised ?_
  simp only [isSelected, uses_call_bind]
  refine ⟨trivial, fun auto => Program.uses_ite _ ?_ ⟨trivial, fun auto => ?_⟩⟩
  · exact (redraws_appendToOutput _).ofReading.bind fun _ => trivial
  refine Program.uses_ite _ (.bind ?_ fun _ => trivial) hrecognised
  exact uses_unrecognisedSensor ofReading_of_redraws trivial fun _ => ⟨rfl, rfl⟩

/-- The updates of a reading. -/
def Update.ofReading (id type : String) (u : Update) : Prop :=
  u = .insertNode id none ∨ u.ofSensor id type

/-- **Readings.** A reading updates only its own node and sensor, and changes no ignore list. -/
theorem uses_sensed (value : Int32) :
    (sensed id type value).Uses (Call.ofReading (Update.ofReading id type)) fun _ => True := by
  refine uses_bindOption (redraws_lookUpNode _).ofReading trivial fun found => ?_
  obtain ⟨connect, ids, addresses⟩ := found
  refine Program.uses_ite _ (.bind ?_ fun _ => trivial) ?_
  · exact uses_unrecognisedNode ofReading_of_redraws (fun _ _ => ⟨id, .inl rfl⟩) trivial trivial
      (fun _ => .inl rfl) connect
  exact (uses_recognisedNode value connect addresses).mono
    (fun _ => Call.ofReading_mono fun _ hu => .inr hu) fun _ h => h

end Readings

/-! ## The operator's actions -/

/-- The calls that neither insert a node or a sensor nor change an ignore list or the MySQL
details, and are no part of putting a line on the terminals. -/
def Call.tame : Call → Prop
  | .executeUpdate _ (.insertNode _ _) | .executeUpdate _ (.insertSensor _ _)
  | .appendArea _ _ | .setCaretPosition _ | .setIgnoreNodeList _ | .addIgnoreNode _
  | .removeIgnoreNode _ | .setIgnoreSensorList _ | .addIgnoreSensor _ | .setMysql _ _ => False
  | _ => True

/-- The calls of an action. -/
def Call.ofAction : Action → Call → Prop
  | .reading id type _, c => c.ofReading (Update.ofReading id type)
  | .press .wsnGeneralManualNodeAddButton, c =>
    c.tame ∨ (∃ id, c = .removeIgnoreNode id) ∨ ∃ k id a, c = .executeUpdate k (.insertNode id a)
  | .press .wsnSensorsManualAddSensorButton, c =>
    c.tame ∨ (∃ l, c = .setIgnoreSensorList l) ∨
      ∃ k id type, c = .executeUpdate k (.insertSensor id type)
  | .press .wsnGeneralRemoveNodeButton, c => c.tame ∨ ∃ id, c = .addIgnoreNode id
  | .press .wsnSensorsRemoveSensorButton, c => c.tame ∨ ∃ o, c = .addIgnoreSensor o
  | .press .wsnGeneralUpdateMysqlAddressButton, c
  | .press .wsnGeneralSaveMysqlDetailsButton, c => c.tame ∨ ∃ d s, c = .setMysql d s
  | _, c => c.tame

section Actions

theorem tame_of_redraws {S : ComboBox → Prop} {c : Call} (hc : c.redraws S) : c.tame := by
  cases c <;> first | exact hc.elim | trivial

/-- What only redraws is tame, and so are the calls of any class that has the tame ones. -/
theorem Redraws.tame {α : Type} {p : Panel α} (hp : Redraws (fun _ => True) p) :
    p.Uses Call.tame R := hp.uses fun _ => tame_of_redraws

theorem Redraws.tameOr {X : Call → Prop} {α : Type} {p : Panel α}
    (hp : Redraws (fun _ => True) p) : p.Uses (fun c : Call => c.tame ∨ X c) R :=
  hp.uses fun _ hc => .inl (tame_of_redraws hc)

theorem tame_executeUpdate {u : Update} (hu : ∀ c, Call.tame (.executeUpdate c u))
    (c : Connection) (m : Message) : (executeUpdate c u m).Uses Call.tame R :=
  uses_executeUpdate hu (fun _ => trivial) c m

theorem tameOr_executeUpdate {X : Call → Prop} {u : Update} (hu : ∀ c, X (.executeUpdate c u))
    (c : Connection) (m : Message) :
    (executeUpdate c u m).Uses (fun c : Call => c.tame ∨ X c) R :=
  uses_executeUpdate (fun c => .inr (hu c)) (fun _ => .inl trivial) c m

theorem tame_setText (f : TextField) (s : String) : (setText f s).Uses Call.tame R := by
  simp [setText, Call.tame]

theorem tameOr_setText {X : Call → Prop} (f : TextField) (s : String) :
    (setText f s).Uses (fun c : Call => c.tame ∨ X c) R := by
  simp [setText, Call.tame]

theorem redraws_getText {S : ComboBox → Prop} (f : TextField) : Redraws S (getText f) := by
  simp [Redraws, getText]

theorem tame_isSelected (b : CheckBox) : (isSelected b).Uses Call.tame R := by
  simp [isSelected, Call.tame]

theorem tameOr_isSelected {X : Call → Prop} (b : CheckBox) :
    (isSelected b).Uses (fun c : Call => c.tame ∨ X c) R := by
  simp [isSelected, Call.tame]

theorem redraws_createStatement {S : ComboBox → Prop} (c : Connection) :
    Redraws S (call (.createStatement c)) := by
  simp [Redraws]

theorem tame_updateNodeSelects : Redraws (fun _ => True) updateNodeSelects :=
  redraws_updateNodeSelects.mono fun _ _ => trivial

theorem tame_updateActuatorsSelects : Redraws (fun _ => True) updateActuatorsSelects :=
  redraws_updateActuatorsSelects.mono fun _ _ => trivial

theorem uses_removeActuator (id : Option String) :
    (removeActuator id).Uses Call.tame fun _ => True := by
  refine uses_bindOption (redraws_openStatement _).tame trivial fun connect => ?_
  refine .bind (tame_executeUpdate (fun _ => by trivial) _ _) fun ok => ?_
  refine Program.uses_ite _ trivial ((redraws_appendToOutput _).tame.bind fun _ => ?_)
  exact tame_updateActuatorsSelects.tame

theorem uses_calibrateReset : calibrateReset.Uses Call.tame fun _ => True := by
  refine (redraws_getSelectedItem _).tame.bind fun id => ?_
  refine (redraws_getSelectedItem _).tame.bind fun type => ?_
  refine uses_bindOption (redraws_openStatement _).tame trivial fun connect => ?_
  refine .bind (tame_executeUpdate (fun _ => by trivial) _ _) fun ok => ?_
  refine Program.uses_ite _ trivial ((redraws_appendToOutput _).tame.bind fun _ => ?_)
  refine (redraws_closeConnection _).tame.bind fun _ => ?_
  exact (tame_setText _ _).bind fun _ => tame_setText _ _

theorem uses_takeMysqlFields :
    takeMysqlFields.Uses (fun c : Call => c.tame ∨ ∃ d s, c = .setMysql d s) fun _ => True := by
  simp [takeMysqlFields, getText, Call.tame]

theorem uses_saveMysqlDetails : saveMysqlDetails.Uses Call.tame fun _ => True := by
  simp only [saveMysqlDetails, uses_call_bind]
  refine ⟨trivial, fun _ => ⟨trivial, fun _ => ⟨trivial, fun _ => ⟨trivial, fun ok => ?_⟩⟩⟩⟩
  exact Program.uses_ite _ (redraws_appendToOutput _).tame (redraws_appendToOutput _).tame

variable [Jdk]

theorem uses_updateNodeAddress : updateNodeAddress.Uses Call.tame fun _ => True := by
  refine (redraws_getText _).tame.bind fun newAddress => ?_
  refine (redraws_getSelectedItem _).tame.bind fun id => ?_
  refine (redraws_getText _).tame.bind fun text => Program.uses_ite _ ?_ ?_
  · exact (redraws_appendToOutput _).tame.bind fun _ => trivial
  refine uses_bindOption (redraws_openStatement _).tame trivial fun connect => ?_
  refine .bind (tame_executeUpdate (fun _ => by trivial) _ _) fun ok => ?_
  refine Program.uses_ite _ trivial ((redraws_appendToOutput _).tame.bind fun _ => ?_)
  exact (redraws_closeConnection _).tame.bind fun _ => tame_setText _ _

theorem uses_updateActuatorAddress : updateActuatorAddress.Uses Call.tame fun _ => True := by
  refine (redraws_getText _).tame.bind fun newAddress => ?_
  refine (redraws_getSelectedItem _).tame.bind fun id => ?_
  refine (redraws_getText _).tame.bind fun text => Program.uses_ite _ ?_ ?_
  · exact (redraws_appendToOutput _).tame.bind fun _ => trivial
  refine uses_bindOption (redraws_openStatement _).tame trivial fun connect => ?_
  refine .bind (tame_executeUpdate (fun _ => by trivial) _ _) fun ok => ?_
  refine Program.uses_ite _ trivial ((redraws_appendToOutput _).tame.bind fun _ => ?_)
  exact (redraws_closeConnection _).tame.bind fun _ => tame_setText _ _

omit [Jdk] in
theorem uses_insertTypedActuator (connect : Connection) :
    (insertTypedActuator connect).Uses Call.tame fun _ => True := by
  refine (redraws_createStatement _).tame.bind fun ok => Program.uses_ite _ ?_ ?_
  · exact (redraws_appendToOutput _).tame.bind fun _ => trivial
  refine (redraws_getText _).tame.bind fun id => (redraws_getText _).tame.bind fun address => ?_
  refine .bind (tame_executeUpdate (fun _ => by trivial) _ _) fun ok => ?_
  refine Program.uses_ite _ trivial ((redraws_appendToOutput _).tame.bind fun _ => ?_)
  refine (redraws_closeConnection _).tame.bind fun _ => ?_
  refine (tame_setText _ _).bind fun _ => (tame_setText _ _).bind fun _ => ?_
  exact tame_updateActuatorsSelects.tame

theorem uses_manualActuatorAdd : manualActuatorAdd.Uses Call.tame fun _ => True := by
  have hsay : ∀ m, (do appendToOutput m; return : Panel Unit).Uses Call.tame fun _ => True :=
    fun m => (redraws_appendToOutput m).tame.bind fun _ => trivial
  refine (redraws_getText _).tame.bind fun id => Program.uses_ite _ (hsay _) ?_
  refine (redraws_getText _).tame.bind fun address => Program.uses_ite _ (hsay _) ?_
  refine (redraws_getText _).tame.bind fun address => Program.uses_ite _ (hsay _) ?_
  refine uses_bindOption (redraws_openStatement _).tame trivial fun connect => ?_
  refine (redraws_getText _).tame.bind fun id => ?_
  refine uses_bindOption (redraws_executeQuery _ _ _).tame trivial fun rows => ?_
  refine uses_bindOption (redraws_readRows _ _ _).tame trivial fun types => ?_
  refine Program.uses_ite _ (hsay _) ((redraws_appendToOutput _).tame.bind fun _ => ?_)
  exact uses_insertTypedActuator connect

omit [Jdk] in
theorem uses_unignoreNode :
    unignoreNode.Uses (Call.ofAction (.press .wsnGeneralManualNodeAddButton)) fun _ => True := by
  refine (redraws_getText _).tameOr.bind fun id => ?_
  simp only [uses_call_bind]
  refine ⟨.inl trivial, fun ignored => ?_⟩
  cases ignored with
  | none => trivial
  | some l =>
    refine Program.uses_ite _ ((redraws_appendToOutput _).tameOr.bind fun _ => ?_) trivial
    refine (redraws_getText _).tameOr.bind fun id => ?_
    exact ⟨.inr (.inl ⟨id, rfl⟩), fun _ => trivial⟩

omit [Jdk] in
theorem uses_insertTypedNode (connect : Connection) :
    (insertTypedNode connect).Uses (Call.ofAction (.press .wsnGeneralManualNodeAddButton))
      fun _ => True := by
  refine (redraws_createStatement _).tameOr.bind fun ok => Program.uses_ite _ ?_ ?_
  · exact (redraws_appendToOutput _).tameOr.bind fun _ => trivial
  refine (redraws_getText _).tameOr.bind fun id => ?_
  refine (redraws_getText _).tameOr.bind fun address => ?_
  refine .bind (tameOr_executeUpdate (fun c => .inr ⟨c, id, _, rfl⟩) _ _) fun ok => ?_
  refine Program.uses_ite _ trivial ((redraws_appendToOutput _).tameOr.bind fun _ => ?_)
  refine (redraws_closeConnection _).tameOr.bind fun _ => ?_
  refine tame_updateNodeSelects.tameOr.bind fun _ => ?_
  exact (tameOr_setText _ _).bind fun _ => tameOr_setText _ _

theorem uses_manualNodeAdd :
    manualNodeAdd.Uses (Call.ofAction (.press .wsnGeneralManualNodeAddButton)) fun _ => True := by
  have hsay : ∀ m, (do appendToOutput m; return : Panel Unit).Uses
      (Call.ofAction (.press .wsnGeneralManualNodeAddButton)) fun _ => True :=
    fun m => (redraws_appendToOutput m).tameOr.bind fun _ => trivial
  refine (redraws_getText _).tameOr.bind fun id => Program.uses_ite _ (hsay _) ?_
  refine uses_bindOption (redraws_openStatement _).tameOr trivial fun connect => ?_
  refine (redraws_getText _).tameOr.bind fun id => ?_
  refine uses_bindOption (redraws_executeQuery _ _ _).tameOr trivial fun rows => ?_
  refine uses_bindOption (redraws_readRows _ _ _).tameOr trivial fun ids => ?_
  refine Program.uses_ite _ (hsay _) ?_
  refine (redraws_getText _).tameOr.bind fun address => Program.uses_ite _ (hsay _) ?_
  refine (redraws_appendToOutput _).tameOr.bind fun _ => ?_
  exact uses_unignoreNode.bind fun _ => uses_insertTypedNode connect

theorem uses_unignoreSensor :
    unignoreSensor.Uses (Call.ofAction (.press .wsnSensorsManualAddSensorButton))
      fun _ => True := by
  refine (redraws_getSelectedItem _).tameOr.bind fun id => ?_
  refine (redraws_getText _).tameOr.bind fun type => ?_
  refine .bind (uses_ignoreSensorListContains _ (.inl trivial)) fun listed => ?_
  refine Program.uses_ite _ ?_ trivial
  simp only [uses_call_bind]
  refine ⟨.inl trivial, fun ignored => ?_⟩
  cases ignored with
  | none => trivial
  | some l =>
    simp only
    cases removeEntry ⟨id, some type⟩ l with
    | error e => trivial
    | ok rest => exact ⟨.inr (.inl ⟨rest, rfl⟩), fun _ => (redraws_appendToOutput _).tameOr⟩

theorem uses_insertTypedSensor (connect : Connection) :
    (insertTypedSensor connect).Uses (Call.ofAction (.press .wsnSensorsManualAddSensorButton))
      fun _ => True := by
  refine (redraws_createStatement _).tameOr.bind fun ok => Program.uses_ite _ ?_ ?_
  · exact (redraws_appendToOutput _).tameOr.bind fun _ => trivial
  refine (redraws_getSelectedItem _).tameOr.bind fun id => ?_
  refine (redraws_getText _).tameOr.bind fun type => ?_
  refine .bind (tameOr_executeUpdate (fun c => .inr ⟨c, _, type, rfl⟩) _ _) fun ok => ?_
  refine Program.uses_ite _ trivial ((redraws_appendToOutput _).tameOr.bind fun _ => ?_)
  refine (redraws_closeConnection _).tameOr.bind fun _ => ?_
  refine uses_unignoreSensor.bind fun _ => ?_
  refine (redraws_getSelectedItem _).tameOr.bind fun id => ?_
  exact (redraws_updateSensorsSelect trivial _).tameOr.bind fun _ => tameOr_setText _ _

theorem uses_manualSensorAdd :
    manualSensorAdd.Uses (Call.ofAction (.press .wsnSensorsManualAddSensorButton))
      fun _ => True := by
  have hsay : ∀ m, (do appendToOutput m; return : Panel Unit).Uses
      (Call.ofAction (.press .wsnSensorsManualAddSensorButton)) fun _ => True :=
    fun m => (redraws_appendToOutput m).tameOr.bind fun _ => trivial
  refine (redraws_getText _).tameOr.bind fun type => Program.uses_ite _ (hsay _) ?_
  refine uses_bindOption (redraws_openStatement _).tameOr trivial fun connect => ?_
  refine (redraws_getSelectedItem _).tameOr.bind fun id => ?_
  refine (redraws_getText _).tameOr.bind fun type => ?_
  refine uses_bindOption (redraws_executeQuery _ _ _).tameOr trivial fun rows => ?_
  refine uses_bindOption (redraws_readRows _ _ _).tameOr trivial fun types => ?_
  refine Program.uses_ite _ (hsay _) ((redraws_appendToOutput _).tameOr.bind fun _ => ?_)
  refine .bind ?_ fun _ => uses_insertTypedSensor connect
  simp only [ignoreSensorListContainsString, uses_call_bind]
  refine ⟨.inl trivial, fun ignored => ?_⟩
  cases ignored <;> trivial

omit [Jdk] in
theorem uses_deleteNode (id : Option String) : (deleteNode id).Uses Call.tame R := by
  refine uses_bindOption (redraws_openStatement _).tame trivial fun connect => ?_
  refine .bind (tame_executeUpdate (fun _ => by trivial) _ _) fun ok =>
    Program.uses_ite _ trivial ?_
  refine .bind (tame_executeUpdate (fun _ => by trivial) _ _) fun ok =>
    Program.uses_ite _ trivial ?_
  refine (redraws_appendToOutput _).tame.bind fun _ => ?_
  exact ⟨trivial, fun _ => tame_updateNodeSelects.tame⟩

omit [Jdk] in
theorem uses_removeNode (id : Option String) :
    (removeNode id).Uses (Call.ofAction (.press .wsnGeneralRemoveNodeButton)) fun _ => True := by
  refine .bind ((tameOr_isSelected _).bind fun ticked => ?_) fun _ =>
    (uses_deleteNode id).mono (fun _ hc => .inl hc) fun _ h => h
  refine Program.uses_ite _ ⟨.inr ⟨id, rfl⟩, fun ok => ?_⟩ trivial
  exact Program.uses_ite _ (redraws_appendToOutput _).tameOr trivial

omit [Jdk] in
theorem uses_deleteSensor (id type : Option String) :
    (deleteSensor id type).Uses Call.tame R := by
  refine uses_bindOption (redraws_openStatement _).tame trivial fun connect => ?_
  refine .bind (tame_executeUpdate (fun _ => by trivial) _ _) fun ok =>
    Program.uses_ite _ trivial ?_
  refine (redraws_appendToOutput _).tame.bind fun _ => ?_
  exact ⟨trivial, fun _ => (redraws_updateSensorsSelect trivial _).tame⟩

omit [Jdk] in
theorem uses_removeSensor (id type : Option String) :
    (removeSensor id type).Uses (Call.ofAction (.press .wsnSensorsRemoveSensorButton))
      fun _ => True := by
  refine .bind ((tameOr_isSelected _).bind fun ticked => ?_) fun _ =>
    (uses_deleteSensor id type).mono (fun _ hc => .inl hc) fun _ h => h
  refine Program.uses_ite _ ⟨.inr ⟨⟨id, type⟩, rfl⟩, fun ok => ?_⟩ trivial
  exact Program.uses_ite _ (redraws_appendToOutput _).tameOr trivial

/-- **Usage.** An action makes the calls of its kind. -/
theorem uses_action (a : Action) : a.program.Uses (Call.ofAction a) fun _ => True := by
  cases a with
  | reading id type value => exact (uses_sensed value).bind fun _ => trivial
  | press b =>
    cases b with
    | wsnGeneralUpdateNodeAddressButton => exact uses_updateNodeAddress
    | wsnGeneralUpdateMysqlAddressButton =>
      exact uses_takeMysqlFields.bind fun _ => tame_updateNodeSelects.tameOr
    | wsnGeneralSaveMysqlDetailsButton =>
      refine uses_takeMysqlFields.bind fun _ => ?_
      exact uses_saveMysqlDetails.mono (fun _ hc => .inl hc) fun _ h => h
    | wsnGeneralManualNodeAddButton => exact uses_manualNodeAdd
    | wsnGeneralRemoveNodeButton =>
      exact (redraws_getSelectedItem _).tameOr.bind fun id => uses_removeNode id
    | wsnSensorsManualAddSensorButton => exact uses_manualSensorAdd
    | wsnSensorsRemoveSensorButton =>
      refine (redraws_getSelectedItem _).tameOr.bind fun id => ?_
      exact (redraws_getSelectedItem _).tameOr.bind fun type => uses_removeSensor id type
    | wsnSensorsCalibrateResetButton => exact uses_calibrateReset
    | wsnGeneralRefreshNodeAddressButton => exact redraws_refreshNodeAddress.tame
    | actuatorManualActuatorAddButton => exact uses_manualActuatorAdd
    | actuatorUpdateActuatorAddressButton => exact uses_updateActuatorAddress
    | actuatorRefreshActuatorAddressButton => exact redraws_refreshActuatorAddress.tame
    | actuatorRemoveActuatorButton =>
      exact (redraws_getSelectedItem _).tame.bind fun id => uses_removeActuator id
  | tick b v => exact ⟨trivial, fun _ => trivial⟩
  | typeText f s => exact Program.uses_ite _ trivial ⟨trivial, fun _ => trivial⟩
  | select b s =>
    refine ⟨trivial, fun n => Redraws.tame ?_⟩
    exact redraws_fire (redraws_itemStateChanged b fun _ => trivial) n

/-! ## Start-up -/

omit [Jdk] in
theorem uses_loadMysqlDetails (hP : ∀ c, c.redraws (fun _ => True) → P c)
    (hread : P .readMysqldetails) (hset : ∀ d s, P (.setMysql d s))
    (hfield : ∀ f s, P (.setText f s)) : loadMysqlDetails.Uses P fun _ => True := by
  have happend : ∀ m, (appendToOutput m).Uses P fun _ => True := fun m =>
    (redraws_appendToOutput m).uses hP
  have hdetail : ∀ pieces i d f, (loadDetail pieces i d f).Uses P fun _ => True := by
    intro pieces i d f
    refine .bind ?_ fun s => ⟨hset d s, fun _ => ⟨hfield f s, fun _ => trivial⟩⟩
    unfold pieceAt
    split <;> trivial
  refine .bind ⟨hread, fun file => ?_⟩ fun _ => (tame_updateNodeSelects.uses hP).bind fun _ =>
    tame_updateActuatorsSelects.uses hP
  cases file with
  | notFound => exact happend _
  | failed => exact happend _
  | line s =>
    cases s with
    | none => trivial
    | some s =>
      exact (hdetail _ _ _ _).bind fun _ => (hdetail _ _ _ _).bind fun _ => hdetail _ _ _ _

end Actions

end CrossingReality
