import CrossingReality.Registry

/-!
# The operator's side: start-up, buttons, and runs

`main` up to the point where the two ignore lists exist, `actionPerformed` button by button, and
what a run of the whole program is: start-up, then readings and operator actions in any order, each
run to its end before the next.
-/

namespace CrossingReality

open Effects

variable [Jdk]

/-! ## The MySQL details -/

/-- `pieces[i]`. -/
def pieceAt (pieces : List String) (i : Nat) : Panel String :=
  match pieces[i]? with
  | none => throwExn .indexOutOfBounds
  | some s => pure s

/-- One of the three values of a loaded line: into its static field, then into its text field. -/
def loadDetail (pieces : List String) (i : Nat) (d : Detail) (f : TextField) : Panel Unit := do
  let s ← pieceAt pieces i
  call (.setMysql d s)
  setText f s

/-- Take the three details from the first line of the file. -/
def loadLine : Option String → Panel Unit
  | none => throwExn .nullPointer
  | some s => do
    loadDetail (split s ',') 0 .mysqlAddress .wsnGeneralMysqlAddressField
    loadDetail (split s ',') 1 .mysqlUser .wsnGeneralMysqlUserField
    loadDetail (split s ',') 2 .mysqlPass .wsnGeneralMysqlPassField

/-- The file part of `loadMysqlDetails`; only I/O exceptions are caught. -/
def loadFile : Panel Unit := do
  match ← call .readMysqldetails with
  | .notFound => appendToOutput .detailsNotFound
  | .failed => appendToOutput .detailsNotLoaded
  | .line s => loadLine s

/-- `loadMysqlDetails`. -/
def loadMysqlDetails : Panel Unit := do
  loadFile
  updateNodeSelects
  updateActuatorsSelects

/-- `saveMysqlDetails`. -/
def saveMysqlDetails : Panel Unit := do
  let address ← call (.getMysql .mysqlAddress)
  let user ← call (.getMysql .mysqlUser)
  let pass ← call (.getMysql .mysqlPass)
  if ← call (.writeMysqldetails (spell address ++ "," ++ spell user ++ "," ++ spell pass)) then
    appendToOutput .detailsSaved
  else
    appendToOutput .detailsNotSaved

/-- The typed details become those in force, the address with the JDBC prefix. -/
def takeMysqlFields : Panel Unit := do
  let address ← getText .wsnGeneralMysqlAddressField
  call (.setMysql .mysqlAddress ("jdbc:mysql://" ++ address))
  let user ← getText .wsnGeneralMysqlUserField
  call (.setMysql .mysqlUser user)
  let pass ← getText .wsnGeneralMysqlPassField
  call (.setMysql .mysqlPass pass)

/-! ## Buttons -/

/-- The buttons. -/
inductive Button where
  | wsnGeneralUpdateNodeAddressButton
  | wsnGeneralUpdateMysqlAddressButton
  | wsnGeneralSaveMysqlDetailsButton
  | wsnGeneralManualNodeAddButton
  | wsnGeneralRemoveNodeButton
  | wsnSensorsManualAddSensorButton
  | wsnSensorsRemoveSensorButton
  | wsnSensorsCalibrateResetButton
  | wsnGeneralRefreshNodeAddressButton
  | actuatorManualActuatorAddButton
  | actuatorUpdateActuatorAddressButton
  | actuatorRefreshActuatorAddressButton
  | actuatorRemoveActuatorButton
deriving DecidableEq

/-- *Save node address*. -/
def updateNodeAddress : Panel Unit := do
  let newAddress ← getText .wsnGeneralNodeAddressField
  let id ← getSelectedItem .wsnGeneralNodeComboBox
  if !parsesURL (some (← getText .wsnGeneralNodeAddressField)) then
    appendToOutput .nodeAddressUpdateInvalid
    return
  let some connect ← openStatement .createStatementProblem | return
  if !(← executeUpdate connect (.setNodeAddress newAddress (spell id)) .executeProblem) then return
  appendToOutput .nodeAddressUpdated
  closeConnection .cp connect
  setText .wsnSensorsNodeAddressField newAddress

/-- *Reset* (calibration). -/
def calibrateReset : Panel Unit := do
  let id ← getSelectedItem .wsnSensorsNodeComboBox
  let type ← getSelectedItem .wsnSensorsSensorsComboBox
  let some connect ← openStatement .createStatementProblem | return
  if !(← executeUpdate connect (.resetBounds (spell id) (spell type)) .executeProblem) then return
  appendToOutput .boundsReset
  closeConnection .cp connect
  setText .wsnSensorsCalibrationMaxField ""
  setText .wsnSensorsCalibrationMinField ""

/-- *Refresh node address*. The column is read once for each of the two fields. -/
def refreshNodeAddress : Panel Unit := do
  let id ← getSelectedItem .wsnGeneralNodeComboBox
  let some connect ← openStatement .createStatementProblem | return
  let some rows ← executeQuery connect (.node (spell id)) .executeProblem | return
  let some row ← firstRow connect rows | appendToOutput .resultsProblem
  setTextOrNull .wsnGeneralNodeAddressField row.address
  if !(← call (.fetch connect)) then
    appendToOutput .resultsProblem
    return
  setTextOrNull .wsnSensorsNodeAddressField row.address
  closeConnection .cp connect

/-- *Save actuator address*. -/
def updateActuatorAddress : Panel Unit := do
  let newAddress ← getText .actuatorAddressField
  let id ← getSelectedItem .actuatorActuatorComboBox
  if !parsesURL (some (← getText .actuatorAddressField)) then
    appendToOutput .actuatorAddressInvalid
    return
  let some connect ← openStatement .createStatementProblem | return
  if !(← executeUpdate connect (.setActuatorAddress newAddress (spell id)) .executeProblem) then
    return
  appendToOutput .actuatorAddressUpdated
  closeConnection .cp connect
  setText .actuatorAddressField newAddress

/-- *Refresh actuator address*. -/
def refreshActuatorAddress : Panel Unit := do
  let id ← getSelectedItem .actuatorActuatorComboBox
  let some connect ← openStatement .createStatementProblem | return
  let some rows ← executeQuery connect (.actuator (spell id)) .executeProblem | return
  let some row ← firstRow connect rows | appendToOutput .resultsProblem
  setTextOrNull .actuatorAddressField row.address
  closeConnection .cp connect

/-- `actionPerformed`. -/
def actionPerformed : Button → Panel Unit
  | .wsnGeneralUpdateNodeAddressButton => updateNodeAddress
  | .wsnGeneralUpdateMysqlAddressButton => do
    takeMysqlFields
    updateNodeSelects
  | .wsnGeneralSaveMysqlDetailsButton => do
    takeMysqlFields
    saveMysqlDetails
  | .wsnGeneralManualNodeAddButton => manualNodeAdd
  | .wsnGeneralRemoveNodeButton => do
    removeNode (← getSelectedItem .wsnGeneralRemoveNodeComboBox)
  | .wsnSensorsManualAddSensorButton => manualSensorAdd
  | .wsnSensorsRemoveSensorButton => do
    let id ← getSelectedItem .wsnSensorsNodeComboBox
    let type ← getSelectedItem .wsnSensorsSensorsComboBox
    removeSensor id type
  | .wsnSensorsCalibrateResetButton => calibrateReset
  | .wsnGeneralRefreshNodeAddressButton => refreshNodeAddress
  | .actuatorManualActuatorAddButton => manualActuatorAdd
  | .actuatorUpdateActuatorAddressButton => updateActuatorAddress
  | .actuatorRefreshActuatorAddressButton => refreshActuatorAddress
  | .actuatorRemoveActuatorButton => do
    removeActuator (← getSelectedItem .actuatorRemoveActuatorComboBox)

/-! ## Runs -/

/-- What can happen to the running program: a reading arrives, or the operator does something. -/
inductive Action where
  | reading (id type : String) (value : Int32)
  | press (b : Button)
  | tick (b : CheckBox) (v : Bool)
  | typeText (f : TextField) (s : String)
  | select (b : ComboBox) (s : String)
deriving DecidableEq

/-- The operator types into a field, if it is editable. -/
def typeInto (f : TextField) (s : String) : Panel Unit :=
  if f.readOnly then pure () else setText f s

/-- The operator picks an item of a combo box. -/
def selectItem (b : ComboBox) (s : String) : Panel Unit := do
  let n ← call (.setSelectedItem b s)
  fire (itemStateChanged b) n

/-- The program an action runs. -/
def Action.program : Action → Panel Unit
  | .reading id t v => do
    let _ ← sensed id t v
  | .press b => actionPerformed b
  | .tick b v => setSelected b v
  | .typeText f s => typeInto f s
  | .select b s => selectItem b s

/-- The rest of `main`, once the window and the servers are up. -/
def startUp : Panel Unit := do
  loadMysqlDetails
  call (.setIgnoreNodeList [])
  call (.setIgnoreSensorList [])

/-- The world before `startUp`: an empty window, no details, no ignore lists. -/
def World.launched (servers : String → Database) (mysqldetails : Option String) : World where
  servers := servers
  openHandles := []
  nextHandle := 0
  mysql := fun _ => none
  mysqldetails := mysqldetails
  text := fun _ => ""
  checked := fun _ => false
  combo := fun _ => Combo.empty
  ignoreNodeList := none
  ignoreSensorList := none
  output := fun _ => []
  posts := []
  delivered := []
  commands := []
  responses := []

/-- The world after a start-up that went well, with an empty registry or none of it shown yet. -/
def World.running (url : String) (d : Database) : World :=
  { World.launched (fun _ => d) (some (url ++ ",user,pass")) with
    mysql := fun
      | .mysqlAddress => some url
      | .mysqlUser => some "user"
      | .mysqlPass => some "pass"
    ignoreNodeList := some []
    ignoreSensorList := some [] }

end CrossingReality
