import CrossingReality.Recognition
import CrossingReality.Window

/-!
# The program as its operator knows it

Where no database call fails, what an action makes of the tables, the window, the check boxes and
the ignore lists depends on nothing else. `Desk.act` says what it makes of them, method by method
and without a single call.

* `Desk` — what the operator has in front of him.
* `Desk.act` — what an action does to it, and what it throws.
-/

namespace CrossingReality

open Effects

instance (col : Collation) (d : Database) (id : String) : Decidable (d.hasNode col id) :=
  inferInstanceAs (Decidable (∃ r ∈ d.nodes, _))

instance (col : Collation) (d : Database) (id type : String) :
    Decidable (d.hasSensor col id type) :=
  inferInstanceAs (Decidable (∃ r ∈ d.sensors, _))

/-- What the actions work on once there is a database address. -/
structure Desk where
  servers : String → Database
  /-- The address in force. -/
  url : String
  screen : Screen
  checked : CheckBox → Bool
  ignoreNodeList : Option (List (Option String))
  ignoreSensorList : Option (List SensorIgnoreIdTypeObject)

/-- The fields that show a bound once it is written. -/
def Update.shownIn : Update → List TextField
  | .setMin _ _ _ => [.wsnSensorsCalibrationMinField]
  | .setMax _ _ _ => [.wsnSensorsCalibrationMaxField]
  | .setBounds _ _ _ => [.wsnSensorsCalibrationMinField, .wsnSensorsCalibrationMaxField]
  | _ => []

namespace Screen

variable [Jdk] (col : Collation) (d : Database)

/-- The sensor is the one selected on the sensors tab. -/
def selectedSensorIs (id type : String) (s : Screen) : Bool :=
  equalsIgnoreCase id (s.selected .wsnSensorsNodeComboBox) &&
    equalsIgnoreCase type (s.selected .wsnSensorsSensorsComboBox)

def showBound (id type : String) (value : Int32) (fields : List TextField) (s : Screen) :
    Screen :=
  if s.selectedSensorIs id type then fields.foldl (fun s f => s.setText f (toString value.toInt)) s
  else s

omit [Jdk] in
/-- The types of the node that is selected on the sensors tab. -/
def updateSelectedSensors (s : Screen) : Screen :=
  s.updateSensorsSelect col d (s.selected .wsnSensorsNodeComboBox)

omit [Jdk] in
def refreshNodeAddress (s : Screen) : Screen :=
  let address := d.nodeAddress col (spell (s.selected .wsnGeneralNodeComboBox))
  (s.showAddress .wsnGeneralNodeAddressField address).showAddress .wsnSensorsNodeAddressField
    address

omit [Jdk] in
def selectItem (b : ComboBox) (i : String) (s : Screen) : Screen :=
  s.changeCombo (itemStateChanged col d b) b ((s.combo b).setSelectedItem i)

omit [Jdk] in
def typeInto (f : TextField) (v : String) (s : Screen) : Screen :=
  if f.readOnly then s else s.setText f v

end Screen

namespace Desk

/-- The database in force. -/
def database (s : Desk) : Database := s.servers s.url

/-- What an action throws, if it does, and what it leaves. -/
abbrev Outcome := Except Exn Unit × Desk

def done (s : Desk) : Outcome := (.ok (), s)

def throws (e : Exn) (s : Desk) : Outcome := (.error e, s)

/-- Run a statement on the database in force. -/
def update (col : Collation) (u : Update) (s : Desk) : Desk :=
  { s with servers := Function.update s.servers s.url (s.database.apply col u) }

/-- Change the window by the tables in force. -/
def draw (f : Database → Screen → Screen) (s : Desk) : Desk :=
  { s with screen := f s.database s.screen }

def setText (f : TextField) (v : String) (s : Desk) : Desk := s.draw fun _ w => w.setText f v

def setSelected (b : CheckBox) (v : Bool) (s : Desk) : Desk :=
  { s with checked := Function.update s.checked b v }

section Fields

variable (col : Collation) (u : Update) (f : Database → Screen → Screen) (s : Desk)

@[simp] theorem update_database : (s.update col u).database = s.database.apply col u :=
  Function.update_self ..

@[simp] theorem update_screen : (s.update col u).screen = s.screen := rfl
@[simp] theorem update_url : (s.update col u).url = s.url := rfl
@[simp] theorem draw_database : (s.draw f).database = s.database := rfl
@[simp] theorem draw_screen : (s.draw f).screen = f s.database s.screen := rfl
@[simp] theorem draw_url : (s.draw f).url = s.url := rfl
@[simp] theorem setText_database (g : TextField) (v : String) :
    (s.setText g v).database = s.database := rfl
@[simp] theorem setText_screen (g : TextField) (v : String) :
    (s.setText g v).screen = s.screen.setText g v := rfl
@[simp] theorem setText_url (g : TextField) (v : String) : (s.setText g v).url = s.url := rfl
@[simp] theorem setSelected_database (b : CheckBox) (v : Bool) :
    (s.setSelected b v).database = s.database := rfl
@[simp] theorem setSelected_screen (b : CheckBox) (v : Bool) :
    (s.setSelected b v).screen = s.screen := rfl
@[simp] theorem setSelected_url (b : CheckBox) (v : Bool) : (s.setSelected b v).url = s.url := rfl

end Fields

/-! ## Readings -/

section Readings

variable (col : Collation)

def addNode (id : String) (address : Option String) (s : Desk) : Desk :=
  (s.update col (.insertNode id address)).draw (Screen.updateNodeSelects col)

def addSensor (id type : String) (s : Desk) : Desk :=
  (s.update col (.insertSensor id type)).draw (Screen.updateSelectedSensors col)

def unrecognisedNode (id : String) (s : Desk) : Outcome :=
  if s.checked .wsnGeneralAutoAddCheck then
    match s.ignoreNodeList with
    | none => s.throws .nullPointer
    | some ignored =>
      if ignored.contains (some id) then s.done else (s.addNode col id none).done
  else s.done

variable [Jdk]

/-- Write a bound and show it. -/
def writeShown (id type : String) (value : Int32) (s : Desk) (u : Update) : Desk :=
  (s.update col u).draw fun _ => Screen.showBound id type value u.shownIn

def calibrateIfTicked (id type : String) (value : Int32) (s : Desk) : Desk :=
  if s.checked .wsnSensorsCalibrateCheck then
    match ((Query.bounds id type).run col s.database).head? with
    | none => s
    | some b => (calibration id type value b).foldl (writeShown col id type value) s
  else s

def unrecognisedSensor (id type : String) (s : Desk) : Outcome :=
  if s.checked .wsnSensorsAutoAddCheck then
    match s.ignoreSensorList with
    | none => s.throws .nullPointer
    | some ignored =>
      match containsEntry ⟨some id, some type⟩ ignored with
      | .error e => s.throws e
      | .ok true => s.done
      | .ok false => (s.addSensor col id type).done
  else s.done

def sensed (id type : String) (value : Int32) (s : Desk) : Outcome :=
  if s.database.hasNode col id then
    if s.database.hasSensor col id type then (s.calibrateIfTicked col id type value).done
    else s.unrecognisedSensor col id type
  else s.unrecognisedNode col id

end Readings

/-! ## Buttons -/

section Buttons

variable [Jdk] (col : Collation)

omit [Jdk] in
def insertTypedNode (s : Desk) : Desk :=
  ((s.addNode col (s.screen.text .wsnGeneralManualNodeAddId)
    (some (s.screen.text .wsnGeneralManualNodeAddAddress))).setText .wsnGeneralManualNodeAddId
      "").setText .wsnGeneralManualNodeAddAddress ""

/-- There is a node to add: it has an id that is new, and an address that parses. -/
def newNode (s : Desk) : Prop :=
  (s.screen.text .wsnGeneralManualNodeAddId).isEmpty = false ∧
    ¬ s.database.hasNode col (s.screen.text .wsnGeneralManualNodeAddId) ∧
      parsesURL (some (s.screen.text .wsnGeneralManualNodeAddAddress)) = true

instance (s : Desk) : Decidable (s.newNode col) := inferInstanceAs (Decidable (_ ∧ ¬ _ ∧ _))

def manualNodeAdd (s : Desk) : Outcome :=
  if s.newNode col then
    match s.ignoreNodeList with
    | none => s.throws .nullPointer
    | some ignored => (insertTypedNode col { s with
        ignoreNodeList := some (ignored.erase (some (s.screen.text .wsnGeneralManualNodeAddId)))
      }).done
  else s.done

omit [Jdk] in
def insertTypedSensor (s : Desk) : Desk :=
  (s.addSensor col (spell (s.screen.selected .wsnSensorsNodeComboBox))
    (s.screen.text .wsnSensorsManualSensorAddType)).setText .wsnSensorsManualSensorAddType ""

omit [Jdk] in
/-- There is a sensor to add: it has a type that is new for what is selected. -/
def newSensor (s : Desk) : Prop :=
  (s.screen.text .wsnSensorsManualSensorAddType).isEmpty = false ∧
    (Query.sensor (spell (s.screen.selected .wsnSensorsNodeComboBox))
      (s.screen.text .wsnSensorsManualSensorAddType)).run col s.database = []

instance (s : Desk) : Decidable (s.newSensor col) := inferInstanceAs (Decidable (_ ∧ _ = _))

/-- The sensor that is typed, of the node that is selected. -/
def typedSensor (s : Desk) : SensorIgnoreIdTypeObject :=
  ⟨s.screen.selected .wsnSensorsNodeComboBox, some (s.screen.text .wsnSensorsManualSensorAddType)⟩

/-- The row is in the table by the time the ignore list is seen to. -/
def manualSensorAdd (s : Desk) : Outcome :=
  if s.newSensor col then
    match s.ignoreSensorList with
    | none => s.throws .nullPointer
    | some ignored =>
      match removeEntry s.typedSensor ignored with
      | .error e => (s.update col (.insertSensor (spell (s.screen.selected .wsnSensorsNodeComboBox))
          (s.screen.text .wsnSensorsManualSensorAddType))).throws e
      | .ok rest => (insertTypedSensor col { s with ignoreSensorList := some rest }).done
  else s.done

omit [Jdk] in
def insertTypedActuator (s : Desk) : Desk :=
  (((s.update col (.insertActuator (s.screen.text .actuatorManualActuatorAddId)
    (s.screen.text .actuatorManualActuatorAddAddress))).setText .actuatorManualActuatorAddAddress
      "").setText .actuatorManualActuatorAddId "").draw (Screen.updateActuatorsSelects col)

/-- There is an actuator to add: it has an id that is new, and an address that parses. -/
def newActuator (s : Desk) : Prop :=
  (s.screen.text .actuatorManualActuatorAddId).isEmpty = false ∧
    (s.screen.text .actuatorManualActuatorAddAddress).isEmpty = false ∧
      (Query.actuator (s.screen.text .actuatorManualActuatorAddId)).run col s.database = [] ∧
        parsesURL (some (s.screen.text .actuatorManualActuatorAddAddress)) = true

instance (s : Desk) : Decidable (s.newActuator col) :=
  inferInstanceAs (Decidable (_ ∧ _ ∧ _ = _ ∧ _))

def manualActuatorAdd (s : Desk) : Outcome :=
  if s.newActuator col then (s.insertTypedActuator col).done else s.done

omit [Jdk] in
def removeNode (id : Option String) (s : Desk) : Outcome :=
  if s.checked .wsnGeneralRemoveNodeIgnoreCheck ∧ s.ignoreNodeList = none then
    s.throws .nullPointer
  else
    let ignored := listedIf (s.checked .wsnGeneralRemoveNodeIgnoreCheck) id s.ignoreNodeList
    ((((({ s with ignoreNodeList := ignored } : Desk).update col
      (.deleteNode (spell id))).update col (.deleteSensors (spell id))).setSelected
        .wsnGeneralRemoveNodeIgnoreCheck false).draw (Screen.updateNodeSelects col)).done

omit [Jdk] in
def removeSensor (id type : Option String) (s : Desk) : Outcome :=
  if s.checked .wsnSensorsRemoveSensorIgnoreCheck ∧ s.ignoreSensorList = none then
    s.throws .nullPointer
  else
    let ignored := listedIf (s.checked .wsnSensorsRemoveSensorIgnoreCheck) ⟨id, type⟩
      s.ignoreSensorList
    (((({ s with ignoreSensorList := ignored } : Desk).update col (.deleteSensor (spell id)
      (spell type))).setSelected .wsnSensorsRemoveSensorIgnoreCheck false).draw fun d =>
        Screen.updateSensorsSelect col d id).done

omit [Jdk] in
def removeActuator (id : Option String) (s : Desk) : Outcome :=
  ((s.update col (.deleteActuator (spell id))).draw (Screen.updateActuatorsSelects col)).done

def updateNodeAddress (s : Desk) : Outcome :=
  let address := s.screen.text .wsnGeneralNodeAddressField
  let id := s.screen.selected .wsnGeneralNodeComboBox
  if parsesURL (some address) then
    ((s.update col (.setNodeAddress address (spell id))).setText .wsnSensorsNodeAddressField
      address).done
  else s.done

def updateActuatorAddress (s : Desk) : Outcome :=
  let address := s.screen.text .actuatorAddressField
  let id := s.screen.selected .actuatorActuatorComboBox
  if parsesURL (some address) then
    ((s.update col (.setActuatorAddress address (spell id))).setText .actuatorAddressField
      address).done
  else s.done

omit [Jdk] in
def calibrateReset (s : Desk) : Outcome :=
  let id := s.screen.selected .wsnSensorsNodeComboBox
  let type := s.screen.selected .wsnSensorsSensorsComboBox
  (((s.update col (.resetBounds (spell id) (spell type))).setText .wsnSensorsCalibrationMaxField
    "").setText .wsnSensorsCalibrationMinField "").done

omit [Jdk] in
/-- The typed address is in force from now on. -/
def takeMysqlFields (s : Desk) : Desk :=
  { s with url := "jdbc:mysql://" ++ s.screen.text .wsnGeneralMysqlAddressField }

def actionPerformed (b : Button) (s : Desk) : Outcome :=
  match b with
  | .wsnGeneralUpdateNodeAddressButton => s.updateNodeAddress col
  | .wsnGeneralUpdateMysqlAddressButton =>
    (s.takeMysqlFields.draw (Screen.updateNodeSelects col)).done
  | .wsnGeneralSaveMysqlDetailsButton => s.takeMysqlFields.done
  | .wsnGeneralManualNodeAddButton => s.manualNodeAdd col
  | .wsnGeneralRemoveNodeButton =>
    s.removeNode col (s.screen.selected .wsnGeneralRemoveNodeComboBox)
  | .wsnSensorsManualAddSensorButton => s.manualSensorAdd col
  | .wsnSensorsRemoveSensorButton =>
    s.removeSensor col (s.screen.selected .wsnSensorsNodeComboBox)
      (s.screen.selected .wsnSensorsSensorsComboBox)
  | .wsnSensorsCalibrateResetButton => s.calibrateReset col
  | .wsnGeneralRefreshNodeAddressButton => (s.draw (Screen.refreshNodeAddress col)).done
  | .actuatorManualActuatorAddButton => s.manualActuatorAdd col
  | .actuatorUpdateActuatorAddressButton => s.updateActuatorAddress col
  | .actuatorRefreshActuatorAddressButton => (s.draw (Screen.actuatorActuatorChanged col)).done
  | .actuatorRemoveActuatorButton =>
    s.removeActuator col (s.screen.selected .actuatorRemoveActuatorComboBox)

/-- What an action does. -/
def act (a : Action) (s : Desk) : Outcome :=
  match a with
  | .reading id type value => s.sensed col id type value
  | .press b => s.actionPerformed col b
  | .tick b v => (s.setSelected b v).done
  | .typeText f v => (s.draw fun _ => Screen.typeInto f v).done
  | .select b i => (s.draw fun d => Screen.selectItem col d b i).done

/-- The desk after some actions. -/
def run (s : Desk) (as : List Action) : Desk := as.foldl (fun s a => (s.act col a).2) s

end Buttons

section Unrecognised

variable {col : Collation} {id type : String} {s : Desk}

theorem unrecognisedNode_skipped (h : s.checked .wsnGeneralAutoAddCheck = true →
    ∃ l, s.ignoreNodeList = some l ∧ some id ∈ l) : s.unrecognisedNode col id = s.done := by
  unfold unrecognisedNode
  split
  · obtain ⟨l, hl, hid⟩ := h ‹_›
    simp only [hl, if_pos (List.contains_iff_mem.mpr hid)]
  · rfl

theorem unrecognisedNode_throws (hon : s.checked .wsnGeneralAutoAddCheck = true)
    (hl : s.ignoreNodeList = none) : s.unrecognisedNode col id = s.throws .nullPointer := by
  rw [unrecognisedNode, if_pos hon]
  simp only [hl]

theorem unrecognisedNode_added {l : List (Option String)}
    (hon : s.checked .wsnGeneralAutoAddCheck = true) (hl : s.ignoreNodeList = some l)
    (hid : some id ∉ l) : s.unrecognisedNode col id = (s.addNode col id none).done := by
  rw [unrecognisedNode, if_pos hon]
  simp only [hl, if_neg fun h => hid (List.contains_iff_mem.mp h)]

variable [Jdk]

theorem unrecognisedSensor_skipped (h : s.checked .wsnSensorsAutoAddCheck = true →
    ∃ l, s.ignoreSensorList = some l ∧ containsEntry ⟨some id, some type⟩ l = .ok true) :
    s.unrecognisedSensor col id type = s.done := by
  unfold unrecognisedSensor
  split
  · obtain ⟨l, hl, hpair⟩ := h ‹_›
    simp only [hl, hpair]
  · rfl

theorem unrecognisedSensor_throws {e : Exn} (hon : s.checked .wsnSensorsAutoAddCheck = true)
    (hl : ∃ l, s.ignoreSensorList = some l ∧ containsEntry ⟨some id, some type⟩ l = .error e) :
    s.unrecognisedSensor col id type = s.throws e := by
  obtain ⟨l, hl, hpair⟩ := hl
  rw [unrecognisedSensor, if_pos hon]
  simp only [hl, hpair]

theorem unrecognisedSensor_crashes (hon : s.checked .wsnSensorsAutoAddCheck = true)
    (hl : s.ignoreSensorList = none) :
    s.unrecognisedSensor col id type = s.throws .nullPointer := by
  rw [unrecognisedSensor, if_pos hon]
  simp only [hl]

theorem unrecognisedSensor_added {l : List SensorIgnoreIdTypeObject}
    (hon : s.checked .wsnSensorsAutoAddCheck = true) (hl : s.ignoreSensorList = some l)
    (hpair : containsEntry ⟨some id, some type⟩ l = .ok false) :
    s.unrecognisedSensor col id type = (s.addSensor col id type).done := by
  rw [unrecognisedSensor, if_pos hon]
  simp only [hl, hpair]

end Unrecognised

section Adding

variable [Jdk] {col : Collation} {s : Desk}

theorem manualNodeAdd_throws (h : s.newNode col) (hl : s.ignoreNodeList = none) :
    s.manualNodeAdd col = s.throws .nullPointer := by
  rw [manualNodeAdd, if_pos h]
  simp only [hl]

theorem manualNodeAdd_added {l : List (Option String)} (h : s.newNode col)
    (hl : s.ignoreNodeList = some l) : s.manualNodeAdd col = (insertTypedNode col { s with
      ignoreNodeList := some (l.erase (some (s.screen.text .wsnGeneralManualNodeAddId)))
    }).done := by
  rw [manualNodeAdd, if_pos h]
  simp only [hl]

theorem manualSensorAdd_crashes (h : s.newSensor col) (hl : s.ignoreSensorList = none) :
    s.manualSensorAdd col = s.throws .nullPointer := by
  rw [manualSensorAdd, if_pos h]
  simp only [hl]

theorem manualSensorAdd_throws {l : List SensorIgnoreIdTypeObject} {e : Exn}
    (h : s.newSensor col) (hl : s.ignoreSensorList = some l)
    (he : removeEntry s.typedSensor l = .error e) : s.manualSensorAdd col =
      (s.update col (.insertSensor (spell (s.screen.selected .wsnSensorsNodeComboBox))
        (s.screen.text .wsnSensorsManualSensorAddType))).throws e := by
  rw [manualSensorAdd, if_pos h]
  simp only [hl, he]

theorem manualSensorAdd_added {l rest : List SensorIgnoreIdTypeObject} (h : s.newSensor col)
    (hl : s.ignoreSensorList = some l) (hrest : removeEntry s.typedSensor l = .ok rest) :
    s.manualSensorAdd col =
      (insertTypedSensor col { s with ignoreSensorList := some rest }).done := by
  rw [manualSensorAdd, if_pos h]
  simp only [hl, hrest]

end Adding

section Calibrating

variable [Jdk] (col : Collation) (id type : String) (value : Int32) (s : Desk)

theorem foldl_writeShown_database (us : List Update) :
    (us.foldl (writeShown col id type value) s).database =
      us.foldl (Database.apply col) s.database := by
  induction us generalizing s with
  | nil => rfl
  | cons u us ih =>
    rw [List.foldl_cons, ih, List.foldl_cons, writeShown, draw_database, update_database]

/-- Calibrating only changes bounds. -/
theorem calibrateIfTicked_database : ∃ f,
    (s.calibrateIfTicked col id type value).database = s.database.mapBounds col id type f := by
  unfold calibrateIfTicked
  split
  · split
    · exact ⟨_, Database.mapBounds_id.symm⟩
    · obtain ⟨f, hf, -⟩ := foldl_calibration col id type s.database value ‹_›
      exact ⟨f, (foldl_writeShown_database _ _ _ _ _ _).trans hf⟩
  · exact ⟨_, Database.mapBounds_id.symm⟩

end Calibrating

end Desk

/-- What the window and the tables are, once there is an address. -/
def World.desk (w : World) : Option Desk :=
  (w.mysql .mysqlAddress).map fun url =>
    ⟨w.servers, url, w.screen, w.checked, w.ignoreNodeList, w.ignoreSensorList⟩

end CrossingReality
