import CrossingReality.World

/-!
# The selection lists

The JDBC preamble every method repeats, the combo boxes' item events (`itemStateChanged`) and the
three methods that refill a combo box from the database. Refilling changes selections, and every
change of selection runs `itemStateChanged` on the spot, so a refill reads the database many times
over.
-/

namespace CrossingReality

open Effects

/-! ## Single calls -/

/-- One call. -/
def call (c : Call) : Panel c.Ret := Program.lift (S := calls) c

/-- Throw an unchecked exception. -/
def throwExn {α : Type} (e : Exn) : Panel α := .raise e

def getText (f : TextField) : Panel String := call (.getText f)

def setText (f : TextField) (s : String) : Panel Unit := call (.setText f s)

def isSelected (b : CheckBox) : Panel Bool := call (.isSelected b)

def setSelected (b : CheckBox) (v : Bool) : Panel Unit := call (.setSelected b v)

def getSelectedItem (b : ComboBox) : Panel (Option String) := call (.getSelectedItem b)

/-- `cp.appendToOutput`. -/
def appendToOutput (m : Message) : Panel Unit := call (.append m)

/-- Set a caret to the length of the general area. -/
def setCaretPosition (a : TextArea) : Panel Unit := do
  if !(← call (.setCaretPosition a)) then throwExn .illegalArgument

/-- Put a line on some of the areas, in turn. -/
def appendLine (m : Message) : List TextArea → Panel Unit
  | [] => pure ()
  | a :: as => do
    call (.appendArea a m)
    setCaretPosition a
    appendLine m as

/-- `appendToOutput` on the object the method runs on. It writes to the widgets of `cp`, but asks
its own `wsnGeneralPanelOutput` for the caret positions. On an object made for a request that one
is null, and the line has reached the general area by then. -/
def appendToOutputOf : Instance → Message → Panel Unit
  | .cp, m => appendToOutput m
  | .perRequest, m => do
    call (.appendArea .wsnGeneralPanelOutput m)
    throwExn .nullPointer

/-- `JTextField.setText` of a column, which may be null. -/
def setTextOrNull (f : TextField) (s : Option String) : Panel Unit := setText f (s.getD "")

/-! ## JDBC -/

/-- Load the driver, connect, and create a statement. `problem` is said when there is no
statement; the connection is not closed then. -/
def openStatement (problem : Message) : Panel (Option Connection) := do
  if !(← call .forName) then
    appendToOutput .driverProblem
    return none
  appendToOutput .driverLoaded
  let some connect ← call .getConnection | do
    appendToOutput .connectProblem
    return none
  appendToOutput .connected
  if !(← call (.createStatement connect)) then
    appendToOutput problem
    return none
  return some connect

/-- Run a query, saying `problem` when it throws. -/
def executeQuery (connect : Connection) (q : Query) (problem : Message) :
    Panel (Option (List q.Row)) := do
  let some rows ← call (.executeQuery connect q) | do
    appendToOutput problem
    return none
  return some rows

/-- Run an update, saying `problem` when it throws. -/
def executeUpdate (connect : Connection) (u : Update) (problem : Message) : Panel Bool := do
  if !(← call (.executeUpdate connect u)) then
    appendToOutput problem
    return false
  return true

/-- `while (rs.next()) ..`: fold the rows, one `fetch` for each and one for the end. -/
def whileNext {ρ β : Type} (connect : Connection) (body : β → ρ → Panel β) :
    List ρ → β → Panel (Option β)
  | [], acc => do
    if !(← call (.fetch connect)) then return none
    return some acc
  | row :: rows, acc => do
    if !(← call (.fetch connect)) then return none
    let acc ← body acc row
    whileNext connect body rows acc

/-- Read one column of every row. -/
def readRows {ρ β : Type} (connect : Connection) (column : ρ → β) (rows : List ρ) :
    Panel (Option (List β)) := do
  let some values ← whileNext connect (fun acc row => pure (acc ++ [column row])) rows [] | do
    appendToOutput .resultsProblem
    return none
  return some values

/-- `rs.next()` and the getters of the first row: they throw when there is none. -/
def firstRow {ρ : Type} (connect : Connection) (rows : List ρ) : Panel (Option ρ) := do
  if !(← call (.fetch connect)) then return none
  return rows.head?

/-- Close a connection, in a method running on `this`. -/
def closeConnection (this : Instance) (connect : Connection) : Panel Unit := do
  if !(← call (.close connect)) then
    appendToOutputOf this .closeProblem

/-! ## Item events -/

/-- Fire item events: run the listener `n` times. -/
def fire (listener : Panel Unit) : Nat → Panel Unit
  | 0 => pure ()
  | n + 1 => do
    listener
    fire listener n

/-- `removeAllItems`, with the item event of the selection it takes away. -/
def removeAllItems (listener : Panel Unit) (b : ComboBox) : Panel Unit := do
  let n ← call (.removeAllItems b)
  fire listener n

/-- `addItem` for each string in turn, with the item event of the first. -/
def addItems (listener : Panel Unit) (b : ComboBox) : List String → Panel Unit
  | [] => pure ()
  | s :: ss => do
    let n ← call (.addItem b s)
    fire listener n
    addItems listener b ss

/-- The branch of `itemStateChanged` for `wsnGeneralNodeComboBox`. -/
def wsnGeneralNodeChanged : Panel Unit := do
  let id ← getSelectedItem .wsnGeneralNodeComboBox
  let some connect ← openStatement .createStatementProblem | return
  let some rows ← executeQuery connect (.node (spell id)) .executeProblem | return
  let some row ← firstRow connect rows | appendToOutput .resultsProblem
  setTextOrNull .wsnGeneralNodeAddressField row.address
  closeConnection .cp connect

/-- The text of a column of integers. -/
def intText (v : Option Int32) : Option String := v.map fun n => toString n.toInt

/-- Show the bounds the query found, or blank fields when the result has no row. -/
def showBoundsRow (connect : Connection) (rows : List Bounds) : Panel Bool := do
  let some row ← firstRow connect rows | do
    appendToOutput .boundsResultsProblem
    setText .wsnSensorsCalibrationMaxField ""
    setText .wsnSensorsCalibrationMinField ""
    return false
  setTextOrNull .wsnSensorsCalibrationMaxField (intText row.max)
  setTextOrNull .wsnSensorsCalibrationMinField (intText row.min)
  return true

/-- The branch of `itemStateChanged` for `wsnSensorsSensorsComboBox`. -/
def wsnSensorsSensorsChanged : Panel Unit := do
  let id ← getSelectedItem .wsnSensorsNodeComboBox
  let some connect ← openStatement .createStatementProblem | return
  let type ← getSelectedItem .wsnSensorsSensorsComboBox
  let some rows ← executeQuery connect (.bounds (spell id) (spell type)) .executeProblem | return
  if !(← showBoundsRow connect rows) then return
  closeConnection .cp connect

/-- `updateSensorsSelect`, which is only called on `wsnSensorsSensorsComboBox`. -/
def updateSensorsSelect (id : Option String) : Panel Unit := do
  appendToOutput .updatingSensorsList
  removeAllItems wsnSensorsSensorsChanged .wsnSensorsSensorsComboBox
  let some connect ← openStatement .createStatementProblem | return
  let some rows ← executeQuery connect (.sensors (spell id)) .executeProblem | return
  let some types ← readRows connect SensorRow.type rows | return
  closeConnection .cp connect
  addItems wsnSensorsSensorsChanged .wsnSensorsSensorsComboBox types
  appendToOutput .typesListUpdated

/-- The branch of `itemStateChanged` for `wsnSensorsNodeComboBox`. It returns early, without
touching the sensors, when no row is found for the selected node. -/
def wsnSensorsNodeChanged : Panel Unit := do
  let id ← getSelectedItem .wsnSensorsNodeComboBox
  let some connect ← openStatement .createStatementProblem | return
  let some rows ← executeQuery connect (.node (spell id)) .fooExecuteProblem | return
  let some row ← firstRow connect rows | appendToOutput .resultsProblem
  setTextOrNull .wsnSensorsNodeAddressField row.address
  closeConnection .cp connect
  updateSensorsSelect id
  let some connect2 ← openStatement .createStatementProblem | return
  let type ← getSelectedItem .wsnSensorsSensorsComboBox
  let some rows2 ← executeQuery connect2 (.bounds (spell id) (spell type)) .executeProblem | return
  if !(← showBoundsRow connect2 rows2) then return
  -- The source closes the first connection a second time, not this one.
  closeConnection .cp connect

/-- The branch of `itemStateChanged` for `actuatorActuatorComboBox`. -/
def actuatorActuatorChanged : Panel Unit := do
  let id ← getSelectedItem .actuatorActuatorComboBox
  let some connect ← openStatement .createStatementProblem | return
  let some rows ← executeQuery connect (.actuator (spell id)) .executeProblem | return
  let some row ← firstRow connect rows | appendToOutput .addressResultsProblem
  setTextOrNull .actuatorAddressField row.address
  closeConnection .cp connect

/-- `itemStateChanged`, by the combo box the event comes from. The two removal boxes have no
branch. -/
def itemStateChanged : ComboBox → Panel Unit
  | .wsnGeneralNodeComboBox => wsnGeneralNodeChanged
  | .wsnSensorsNodeComboBox => wsnSensorsNodeChanged
  | .wsnSensorsSensorsComboBox => wsnSensorsSensorsChanged
  | .actuatorActuatorComboBox => actuatorActuatorChanged
  | .wsnGeneralRemoveNodeComboBox => pure ()
  | .actuatorRemoveActuatorComboBox => pure ()

/-! ## Refills -/

/-- Blank the address field that goes with a combo box, if there is one. -/
def clearAddress : ComboBox → Panel Unit
  | .wsnGeneralNodeComboBox => setText .wsnGeneralNodeAddressField ""
  | .wsnSensorsNodeComboBox => setText .wsnSensorsNodeAddressField ""
  | .actuatorActuatorComboBox => setText .actuatorAddressField ""
  | _ => pure ()

/-- Refill a combo box with a column of a query's result. -/
def updateSelect (list : ComboBox) (q : Query) (column : q.Row → String)
    (updating updated : Message) : Panel Unit := do
  appendToOutput updating
  removeAllItems (itemStateChanged list) list
  clearAddress list
  let some connect ← openStatement .createStatementProblem | return
  let some rows ← executeQuery connect q .executeProblem | return
  let some ids ← readRows connect column rows | return
  closeConnection .cp connect
  addItems (itemStateChanged list) list ids
  appendToOutput updated

def updateNodeSelect (list : ComboBox) : Panel Unit :=
  updateSelect list .nodes NodeRow.id .updatingNodeList .nodeListUpdated

def updateActuatorsSelect (list : ComboBox) : Panel Unit :=
  updateSelect list .actuators ActuatorRow.id .updatingActuatorsList .actuatorListUpdated

/-- The three node combo boxes, refilled as after every change of the `nodes` table. -/
def updateNodeSelects : Panel Unit := do
  updateNodeSelect .wsnGeneralNodeComboBox
  updateNodeSelect .wsnGeneralRemoveNodeComboBox
  updateNodeSelect .wsnSensorsNodeComboBox

/-- The two actuator combo boxes. -/
def updateActuatorsSelects : Panel Unit := do
  updateActuatorsSelect .actuatorActuatorComboBox
  updateActuatorsSelect .actuatorRemoveActuatorComboBox

end CrossingReality
