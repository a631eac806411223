import CrossingReality.Database
import CrossingReality.Effects.Machine
import CrossingReality.Messages

/-!
# The world the Control Panel acts on

What outlives a method call of the program: the databases it can reach, its static fields, the
details file, the widgets of its window, the two ignore lists, the terminal, and what it has sent
to the virtual world and to the actuators. The methods touch it through the calls listed here, one
at a time; a SQL statement is one call.

Whether a call fails, and what a remote procedure call answers, is the call's fate.
-/

namespace CrossingReality

open Effects

/-! ## Widgets -/

/-- The check boxes. -/
inductive CheckBox where
  | wsnGeneralAutoAddCheck
  | wsnGeneralRemoveNodeIgnoreCheck
  | wsnGeneralPauseWsnToVwCheck
  | wsnSensorsAutoAddCheck
  | wsnSensorsRemoveSensorIgnoreCheck
  | wsnSensorsCalibrateCheck
  | actuatorPauseVwToActuatorCheck
deriving DecidableEq, Repr

/-- The text fields the program reads or writes. -/
inductive TextField where
  | wsnGeneralMysqlAddressField
  | wsnGeneralMysqlUserField
  | wsnGeneralMysqlPassField
  | wsnGeneralNodeAddressField
  | wsnGeneralManualNodeAddId
  | wsnGeneralManualNodeAddAddress
  | wsnSensorsNodeAddressField
  | wsnSensorsManualSensorAddType
  | wsnSensorsCalibrationMinField
  | wsnSensorsCalibrationMaxField
  | actuatorAddressField
  | actuatorManualActuatorAddId
  | actuatorManualActuatorAddAddress
deriving DecidableEq, Repr

/-- The fields set up with `setEditable(false)`, which the operator cannot type into. -/
def TextField.readOnly : TextField → Bool
  | .wsnSensorsNodeAddressField => true
  | .wsnSensorsCalibrationMinField => true
  | .wsnSensorsCalibrationMaxField => true
  | _ => false

/-- The combo boxes. -/
inductive ComboBox where
  | wsnGeneralNodeComboBox
  | wsnGeneralRemoveNodeComboBox
  | wsnSensorsNodeComboBox
  | wsnSensorsSensorsComboBox
  | actuatorActuatorComboBox
  | actuatorRemoveActuatorComboBox
deriving DecidableEq, Repr

/-- The contents of a combo box. -/
structure Combo where
  items : List String
  selected : Option String
deriving DecidableEq

namespace Combo

/-- A combo box as it is built. -/
def empty : Combo := ⟨[], none⟩

/-- `addItem`: the first item put into an empty box is selected. -/
def addItem (b : Combo) (s : String) : Combo :=
  if b.items = [] ∧ b.selected = none then ⟨[s], some s⟩ else ⟨b.items ++ [s], b.selected⟩

/-- The operator picks an item of the list. -/
def setSelectedItem (b : Combo) (s : String) : Combo :=
  if s ∈ b.items then ⟨b.items, some s⟩ else b

/-- The item events a change of selection fires: one for the item that is no longer selected and
one for the item that now is. -/
def itemEvents (old new : Option String) : Nat :=
  if old = new then 0 else old.toList.length + new.toList.length

end Combo

/-! ## The terminals -/

/-- The text areas at the bottom of the three tabs, in the order in which a line is put on them. -/
inductive TextArea where
  | wsnGeneralPanelOutput
  | wsnSensorsPanelOutput
  | actuatorPanelOutput
deriving DecidableEq, Repr

/-! ## The ignore lists -/

/-- `SensorIgnoreIdTypeObject`. Its strings come from combo boxes, so they can be null. -/
structure SensorIgnoreIdTypeObject where
  id : Option String
  type : Option String
deriving DecidableEq

/-! ## The outside -/

/-- The form data of one POST to the virtual world. -/
structure Payload where
  id : String
  type : String
  value : JDouble
deriving DecidableEq

/-- The POST body. -/
def Payload.body [Jdk] (p : Payload) : String :=
  urlEncode "id" ++ "=" ++ urlEncode p.id ++ "&" ++
    urlEncode "type" ++ "=" ++ urlEncode p.type ++ "&" ++
    urlEncode "value" ++ "=" ++ urlEncode (Jdk.doubleToString p.value)

/-- A reading on its way to the virtual world. -/
structure Post where
  address : String
  payload : Payload
deriving DecidableEq

/-- The calls `HTTPPOSTForward` makes on its connection, in turn. -/
inductive HttpCall where
  | openConnection
  | getOutputStream
  | write
  | flush
  | getInputStream
  | readLine
  | close
deriving DecidableEq

/-- What `XmlRpcClient.execute` can come back with. -/
inductive XmlRpcReply where
  /-- The `Boolean` the remote method returned. -/
  | result (b : Bool)
  /-- A null result. -/
  | null
  /-- A result that is not a `Boolean`. -/
  | object
  /-- An `XmlRpcException`. -/
  | fault
deriving DecidableEq

/-- An actuator command that was sent, and what came back. -/
structure Command where
  address : String
  id : String
  action : String
  reply : XmlRpcReply
deriving DecidableEq

/-- An HTTP response. -/
structure Response where
  status : Nat
  contentType : String
  body : String
deriving DecidableEq

/-! ## The world -/

/-- The static fields that say which database to connect to. -/
inductive Detail where
  | mysqlAddress
  | mysqlUser
  | mysqlPass
deriving DecidableEq

/-- An open JDBC connection. -/
structure Connection where
  handle : Nat
  url : String
deriving DecidableEq

/-- Everything that outlives a method call. -/
structure World where
  /-- The databases, by JDBC address. -/
  servers : String → Database
  /-- The handles of the connections that are open. -/
  openHandles : List Nat
  /-- The next handle. -/
  nextHandle : Nat
  /-- The static fields. -/
  mysql : Detail → Option String
  /-- `mysqldetails.txt`, if it exists. -/
  mysqldetails : Option String
  text : TextField → String
  checked : CheckBox → Bool
  combo : ComboBox → Combo
  ignoreNodeList : Option (List (Option String))
  ignoreSensorList : Option (List SensorIgnoreIdTypeObject)
  /-- The lines of the text areas, oldest first. -/
  output : TextArea → List Message
  /-- The POSTs to the virtual world, oldest first. -/
  posts : List Post
  /-- Those of them whose response was read to its end, oldest first. -/
  delivered : List Post
  /-- The commands sent to actuators, oldest first. -/
  commands : List Command
  /-- The responses sent to the virtual world, oldest first. -/
  responses : List Response

namespace World

/-- The database currently configured; empty while there is none. -/
def database (w : World) : Database :=
  match w.mysql .mysqlAddress with
  | none => Database.empty
  | some url => w.servers url

/-- Run a statement on the database behind a connection. -/
def update (w : World) (col : Collation) (url : String) (u : Update) : World :=
  { w with servers := Function.update w.servers url ((w.servers url).apply col u) }

def setText (w : World) (f : TextField) (s : String) : World :=
  { w with text := Function.update w.text f s }

def setSelected (w : World) (b : CheckBox) (v : Bool) : World :=
  { w with checked := Function.update w.checked b v }

def setCombo (w : World) (b : ComboBox) (v : Combo) : World :=
  { w with combo := Function.update w.combo b v }

def setMysql (w : World) (d : Detail) (s : String) : World :=
  { w with mysql := Function.update w.mysql d (some s) }

/-- A line on one of the areas. -/
def sayOn (w : World) (a : TextArea) (m : Message) : World :=
  { w with output := Function.update w.output a (w.output a ++ [m]) }

/-- A line on all of them. -/
def say (w : World) (m : Message) : World := { w with output := fun a => w.output a ++ [m] }

end World

/-! ## Calls -/

/-- The object a method runs on. The window belongs to one `ControlPanel`, the static `cp`; the
XML-RPC server makes a new one for each request, whose widgets are all null. -/
inductive Instance where
  | cp
  | perRequest
deriving DecidableEq

/-- What reading the first line of `mysqldetails.txt` can come to. -/
inductive FileRead where
  /-- `FileNotFoundException`. -/
  | notFound
  /-- `IOException`. -/
  | failed
  /-- The line, null at the end of the file. -/
  | line (s : Option String)
deriving DecidableEq

/-- The calls the program makes. -/
inductive Call where
  -- JDBC
  | forName
  | getConnection
  | createStatement (c : Connection)
  | executeQuery (c : Connection) (q : Query)
  /-- `rs.next()` and the getters of the row it moves to. -/
  | fetch (c : Connection)
  | executeUpdate (c : Connection) (u : Update)
  | close (c : Connection)
  -- the window
  /-- `cp.appendToOutput` as it is meant to go: the line on all three areas. Its statements, which
  are the next two calls on each area in turn, are in `appendLine`. -/
  | append (m : Message)
  /-- `append` of one area. -/
  | appendArea (a : TextArea) (m : Message)
  /-- `setCaretPosition` of one area, to the length of the general one. -/
  | setCaretPosition (a : TextArea)
  | getText (f : TextField)
  | setText (f : TextField) (s : String)
  | isSelected (b : CheckBox)
  | setSelected (b : CheckBox) (v : Bool)
  | getSelectedItem (b : ComboBox)
  /-- The three calls that can change a selection give back the number of item events. -/
  | removeAllItems (b : ComboBox)
  | addItem (b : ComboBox) (s : String)
  | setSelectedItem (b : ComboBox) (s : String)
  -- the ignore lists, `none` for a list that does not exist
  | getIgnoreNodeList
  | setIgnoreNodeList (l : List (Option String))
  | addIgnoreNode (id : Option String)
  | removeIgnoreNode (id : String)
  | getIgnoreSensorList
  | setIgnoreSensorList (l : List SensorIgnoreIdTypeObject)
  | addIgnoreSensor (o : SensorIgnoreIdTypeObject)
  -- the MySQL details
  | getMysql (d : Detail)
  | setMysql (d : Detail) (s : String)
  | readMysqldetails
  | writeMysqldetails (s : String)
  -- the network
  | http (c : HttpCall) (post : Post)
  | execute (address id action : String)
  | respond (r : Response)

/-- What each call gives back: a `Bool` says that it did not throw, an `Option` is empty when it
did. -/
abbrev Call.Ret : Call → Type
  | .forName => Bool
  | .getConnection => Option Connection
  | .createStatement _ => Bool
  | .executeQuery _ q => Option (List q.Row)
  | .fetch _ => Bool
  | .executeUpdate _ _ => Bool
  | .close _ => Bool
  | .append _ => Unit
  | .appendArea _ _ => Unit
  | .setCaretPosition _ => Bool
  | .getText _ => String
  | .setText _ _ => Unit
  | .isSelected _ => Bool
  | .setSelected _ _ => Unit
  | .getSelectedItem _ => Option String
  | .removeAllItems _ => Nat
  | .addItem _ _ => Nat
  | .setSelectedItem _ _ => Nat
  | .getIgnoreNodeList => Option (List (Option String))
  | .setIgnoreNodeList _ => Unit
  | .addIgnoreNode _ => Bool
  | .removeIgnoreNode _ => Unit
  | .getIgnoreSensorList => Option (List SensorIgnoreIdTypeObject)
  | .setIgnoreSensorList _ => Unit
  | .addIgnoreSensor _ => Bool
  | .getMysql _ => Option String
  | .setMysql _ _ => Unit
  | .readMysqldetails => FileRead
  | .writeMysqldetails _ => Bool
  | .http _ _ => Bool
  | .execute _ _ _ => XmlRpcReply
  | .respond _ => Unit

/-- The interface between the program and its world. -/
abbrev calls : Signature := ⟨Call, Call.Ret⟩

/-- The unchecked exceptions the program can run into. -/
inductive Exn where
  | nullPointer
  | indexOutOfBounds
  | classCast
  | illegalArgument
deriving DecidableEq

/-- A method of the program. -/
abbrev Panel := Program calls Exn

/-- What the environment decides about one call. -/
structure Fate where
  /-- The call throws, if it is one that can. -/
  fails : Bool
  /-- The answer to a remote procedure call. -/
  reply : XmlRpcReply
deriving DecidableEq

/-- The fate of a call that goes well. -/
def Fate.fine : Fate := ⟨false, .result true⟩

/-- What a call gives back and leaves behind. -/
def step (col : Collation) : (c : Call) → Fate → World → c.Ret × World
  | .forName, f, w => (!f.fails, w)
  | .getConnection, f, w =>
    match w.mysql .mysqlAddress with
    | none => (none, w)
    | some url =>
      if f.fails then (none, w)
      else (some ⟨w.nextHandle, url⟩,
        { w with nextHandle := w.nextHandle + 1, openHandles := w.nextHandle :: w.openHandles })
  | .createStatement _, f, w => (!f.fails, w)
  | .executeQuery c q, f, w =>
    if f.fails then (none, w) else (some (q.run col (w.servers c.url)), w)
  | .fetch _, f, w => (!f.fails, w)
  | .executeUpdate c u, f, w => if f.fails then (false, w) else (true, w.update col c.url u)
  -- The connection is closed even when `close` throws.
  | .close c, f, w => (!f.fails, { w with openHandles := w.openHandles.erase c.handle })
  | .append m, _, w => ((), w.say m)
  | .appendArea a m, _, w => ((), w.sayOn a m)
  -- A caret cannot stand past the end of its area. The areas differ by lines that not all of them
  -- got, so the one with fewer lines is the shorter one.
  | .setCaretPosition a, _, w =>
    (decide ((w.output .wsnGeneralPanelOutput).length ≤ (w.output a).length), w)
  | .getText t, _, w => (w.text t, w)
  | .setText t s, _, w => ((), w.setText t s)
  | .isSelected b, _, w => (w.checked b, w)
  | .setSelected b v, _, w => ((), w.setSelected b v)
  | .getSelectedItem b, _, w => ((w.combo b).selected, w)
  | .removeAllItems b, _, w =>
    (Combo.itemEvents (w.combo b).selected none, w.setCombo b Combo.empty)
  | .addItem b s, _, w =>
    (Combo.itemEvents (w.combo b).selected ((w.combo b).addItem s).selected,
      w.setCombo b ((w.combo b).addItem s))
  | .setSelectedItem b s, _, w =>
    (Combo.itemEvents (w.combo b).selected ((w.combo b).setSelectedItem s).selected,
      w.setCombo b ((w.combo b).setSelectedItem s))
  | .getIgnoreNodeList, _, w => (w.ignoreNodeList, w)
  | .setIgnoreNodeList l, _, w => ((), { w with ignoreNodeList := some l })
  | .addIgnoreNode id, _, w =>
    (w.ignoreNodeList.isSome, { w with ignoreNodeList := w.ignoreNodeList.map (· ++ [id]) })
  | .removeIgnoreNode id, _, w =>
    ((), { w with ignoreNodeList := w.ignoreNodeList.map (·.erase (some id)) })
  | .getIgnoreSensorList, _, w => (w.ignoreSensorList, w)
  | .setIgnoreSensorList l, _, w => ((), { w with ignoreSensorList := some l })
  | .addIgnoreSensor o, _, w =>
    (w.ignoreSensorList.isSome, { w with ignoreSensorList := w.ignoreSensorList.map (· ++ [o]) })
  | .getMysql d, _, w => (w.mysql d, w)
  | .setMysql d s, _, w => ((), w.setMysql d s)
  | .readMysqldetails, f, w =>
    (match w.mysqldetails with
      | none => .notFound
      | some s => if f.fails then .failed else .line (firstLine s), w)
  | .writeMysqldetails s, f, w =>
    if f.fails then (false, w) else (true, { w with mysqldetails := some s })
  -- A POST is on its way once its connection is asked for.
  | .http .openConnection p, f, w => (!f.fails, { w with posts := w.posts ++ [p] })
  -- It is done with once its streams are closed.
  | .http .close p, f, w =>
    (!f.fails, if f.fails then w else { w with delivered := w.delivered ++ [p] })
  | .http _ _, f, w => (!f.fails, w)
  | .execute address id action, f, w =>
    (f.reply, { w with commands := w.commands ++ [⟨address, id, action, f.reply⟩] })
  | .respond r, _, w => ((), { w with responses := w.responses ++ [r] })

/-- The machine that runs the calls against databases comparing strings by `col`. -/
def machine (col : Collation) : Machine calls Fate World := ⟨step col⟩

end CrossingReality
