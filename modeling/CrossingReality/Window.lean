import Mathlib.Logic.Function.Iterate
import CrossingReality.Methods

/-!
# The window as a function of the tables

When no database call fails, refilling a combo box and listening to its item events do one thing:
what the window holds afterwards is a function of the tables and of what it held before. The
functions of `Screen` are those of the program, with the tables in the place of the calls.

`Draws` says that a method of the program does to the window what a function does, and nothing else.
-/

namespace CrossingReality

open Effects

/-! ## Screens -/

/-- What the window holds: the texts of its fields and the contents of its combo boxes. -/
structure Screen where
  text : TextField → String
  combo : ComboBox → Combo

namespace Screen

def setText (s : Screen) (f : TextField) (v : String) : Screen :=
  { s with text := Function.update s.text f v }

def setCombo (s : Screen) (b : ComboBox) (v : Combo) : Screen :=
  { s with combo := Function.update s.combo b v }

def selected (s : Screen) (b : ComboBox) : Option String := (s.combo b).selected

section Fields

variable (s : Screen) (f g : TextField) (v v' : String) (b b' : ComboBox) (c c' : Combo)

@[simp] theorem setText_combo : (s.setText f v).combo = s.combo := rfl
@[simp] theorem setCombo_text : (s.setCombo b c).text = s.text := rfl
@[simp] theorem setText_selected : (s.setText f v).selected b = s.selected b := rfl
@[simp] theorem setText_setCombo :
    (s.setText f v).setCombo b c = (s.setCombo b c).setText f v := rfl

@[simp] theorem setText_text_self : (s.setText f v).text f = v := Function.update_self ..
@[simp] theorem setCombo_combo_self : (s.setCombo b c).combo b = c := Function.update_self ..
@[simp] theorem setCombo_selected_self : (s.setCombo b c).selected b = c.selected := by
  simp [selected]

variable {f g b b'}

theorem setText_text_of_ne (h : g ≠ f) : (s.setText f v).text g = s.text g :=
  Function.update_of_ne h _ _

theorem setCombo_combo_of_ne (h : b' ≠ b) : (s.setCombo b c).combo b' = s.combo b' :=
  Function.update_of_ne h _ _

theorem setCombo_selected_of_ne (h : b' ≠ b) :
    (s.setCombo b c).selected b' = s.selected b' := by
  rw [selected, setCombo_combo_of_ne _ _ h, selected]

@[simp] theorem setCombo_setCombo : (s.setCombo b c).setCombo b c' = s.setCombo b c' := by
  simp [setCombo]

end Fields

end Screen

/-- The window. -/
def World.screen (w : World) : Screen := ⟨w.text, w.combo⟩

/-- The same world with another window and other traffic. -/
def World.drawn (w : World) (s : Screen) (q : Traffic) : World := w.redrawn s.text s.combo q

/-! ## What the tables say -/

namespace Database

variable (col : Collation) (d : Database)

/-- The address column of the first row of a node, if it has a row. -/
def nodeAddress (id : String) : Option (Option String) :=
  ((Query.node id).run col d).head?.map NodeRow.address

/-- The address column of the first row of an actuator, if it has a row. -/
def actuatorAddress (id : String) : Option (Option String) :=
  ((Query.actuator id).run col d).head?.map ActuatorRow.address

/-- The types registered for a node. -/
def typesOf (id : String) : List String := ((Query.sensors id).run col d).map SensorRow.type

/-- The text of one of the bounds of a sensor: blank when it is null or there is no row. -/
def boundText (id type : String) (column : Bounds → Option Int32) : String :=
  ((((Query.bounds id type).run col d).head?.bind column).map fun n => toString n.toInt).getD ""

/-- The ids of the `actuators` table. -/
def actuatorIds : List String := d.actuators.map ActuatorRow.id

end Database

/-! ## The program without its calls -/

namespace Screen

variable (col : Collation) (d : Database)

/-- Show an address column, if there was a row. -/
def showAddress (f : TextField) (address : Option (Option String)) (s : Screen) : Screen :=
  match address with
  | none => s
  | some a => s.setText f (a.getD "")

/-- Show the bounds of a sensor. -/
def showBounds (id type : String) (s : Screen) : Screen :=
  (s.setText .wsnSensorsCalibrationMaxField (d.boundText col id type Bounds.max)).setText
    .wsnSensorsCalibrationMinField (d.boundText col id type Bounds.min)

def wsnGeneralNodeChanged (s : Screen) : Screen :=
  s.showAddress .wsnGeneralNodeAddressField
    (d.nodeAddress col (spell (s.selected .wsnGeneralNodeComboBox)))

def wsnSensorsSensorsChanged (s : Screen) : Screen :=
  s.showBounds col d (spell (s.selected .wsnSensorsNodeComboBox))
    (spell (s.selected .wsnSensorsSensorsComboBox))

def actuatorActuatorChanged (s : Screen) : Screen :=
  s.showAddress .actuatorAddressField
    (d.actuatorAddress col (spell (s.selected .actuatorActuatorComboBox)))

/-- Put something else into a box, and run the listener for each item event. -/
def changeCombo (listener : Screen → Screen) (b : ComboBox) (c : Combo) (s : Screen) : Screen :=
  listener^[Combo.itemEvents (s.selected b) c.selected] (s.setCombo b c)

def removeAllItems (listener : Screen → Screen) (b : ComboBox) (s : Screen) : Screen :=
  s.changeCombo listener b .empty

def addItems (listener : Screen → Screen) (b : ComboBox) (items : List String) (s : Screen) :
    Screen :=
  items.foldl (fun s item => s.changeCombo listener b ((s.combo b).addItem item)) s

def updateSensorsSelect (id : Option String) (s : Screen) : Screen :=
  addItems (wsnSensorsSensorsChanged col d) .wsnSensorsSensorsComboBox (d.typesOf col (spell id))
    (removeAllItems (wsnSensorsSensorsChanged col d) .wsnSensorsSensorsComboBox s)

def wsnSensorsNodeChanged (s : Screen) : Screen :=
  match d.nodeAddress col (spell (s.selected .wsnSensorsNodeComboBox)) with
  | none => s
  | some a =>
    let id := s.selected .wsnSensorsNodeComboBox
    let s := updateSensorsSelect col d id (s.setText .wsnSensorsNodeAddressField (a.getD ""))
    s.showBounds col d (spell id) (spell (s.selected .wsnSensorsSensorsComboBox))

def itemStateChanged : ComboBox → Screen → Screen
  | .wsnGeneralNodeComboBox => wsnGeneralNodeChanged col d
  | .wsnSensorsNodeComboBox => wsnSensorsNodeChanged col d
  | .wsnSensorsSensorsComboBox => wsnSensorsSensorsChanged col d
  | .actuatorActuatorComboBox => actuatorActuatorChanged col d
  | .wsnGeneralRemoveNodeComboBox | .actuatorRemoveActuatorComboBox => id

def clearAddress : ComboBox → Screen → Screen
  | .wsnGeneralNodeComboBox, s => s.setText .wsnGeneralNodeAddressField ""
  | .wsnSensorsNodeComboBox, s => s.setText .wsnSensorsNodeAddressField ""
  | .actuatorActuatorComboBox, s => s.setText .actuatorAddressField ""
  | _, s => s

def updateSelect (b : ComboBox) (ids : List String) (s : Screen) : Screen :=
  addItems (itemStateChanged col d b) b ids
    (clearAddress b (removeAllItems (itemStateChanged col d b) b s))

def updateNodeSelect (b : ComboBox) (s : Screen) : Screen := updateSelect col d b d.nodeIds s

def updateActuatorsSelect (b : ComboBox) (s : Screen) : Screen :=
  updateSelect col d b d.actuatorIds s

def updateNodeSelects (s : Screen) : Screen :=
  updateNodeSelect col d .wsnSensorsNodeComboBox
    (updateNodeSelect col d .wsnGeneralRemoveNodeComboBox
      (updateNodeSelect col d .wsnGeneralNodeComboBox s))

def updateActuatorsSelects (s : Screen) : Screen :=
  updateActuatorsSelect col d .actuatorRemoveActuatorComboBox
    (updateActuatorsSelect col d .actuatorActuatorComboBox s)

end Screen

/-! ## The program does what the function does -/

section Drawing

variable {col : Collation} {may : Call → Prop}

/-- Where no database call can fail, the program does to the window what `f` does to it for the
tables as they are. It changes nothing else but the terminal and the connections. -/
def Draws (col : Collation) (may : Call → Prop) (p : Panel Unit)
    (f : Database → Screen → Screen) : Prop :=
  ∀ (w : World) (Q : Unit → World → Prop) (E : Exn → World → Prop), ¬ Trouble may w →
    (∀ q, Q () (w.drawn (f w.database w.screen) q)) → wp (under col may) p Q E w

theorem Draws.bind {p p' : Panel Unit} {f g : Database → Screen → Screen}
    (hp : Draws col may p f) (hp' : Draws col may p' g) :
    Draws col may (do p; p') fun d s => g d (f d s) := by
  intro w Q E ht h
  rw [wp_bind]
  exact hp w _ E ht fun q => hp' _ Q E (by exact ht) h

theorem draws_pure : Draws col may (pure ()) fun _ s => s := fun w _ _ _ h => h w.traffic

theorem draws_setText (f : TextField) (v : String) :
    Draws col may (setText f v) fun _ s => s.setText f v := by
  intro w Q E ht h
  rw [wp_setText]
  exact h _

theorem draws_fire {listener : Panel Unit} {f : Database → Screen → Screen}
    (hl : Draws col may listener f) (n : Nat) :
    Draws col may (fire listener n) fun d => (f d)^[n] := by
  induction n with
  | zero => exact draws_pure
  | succ n ih => exact hl.bind ih

theorem draws_removeAllItems {listener : Panel Unit} {f : Database → Screen → Screen}
    (hl : Draws col may listener f) (b : ComboBox) :
    Draws col may (removeAllItems listener b) fun d => Screen.removeAllItems (f d) b := by
  intro w Q E ht h
  rw [removeAllItems, wp_bind, wp_call_steady (fun _ => rfl)]
  exact draws_fire hl _ _ Q E (by exact ht) h

theorem draws_addItems {listener : Panel Unit} {f : Database → Screen → Screen}
    (hl : Draws col may listener f) (b : ComboBox) (items : List String) :
    Draws col may (addItems listener b items) fun d => Screen.addItems (f d) b items := by
  induction items with
  | nil => exact draws_pure
  | cons item items ih =>
    intro w Q E ht h
    rw [addItems, wp_bind, wp_call_steady (fun _ => rfl), wp_bind]
    exact draws_fire hl _ _ _ E (by exact ht) fun q => ih _ Q E (by exact ht) h

/-- A query on a connection to the database in force. -/
theorem wp_executeQuery_inForce {w : World} {E : Exn → World → Prop} {c : Connection} {q : Query}
    {m : Message} {Q : Option (List q.Row) → World → Prop} (ht : ¬ Trouble may w)
    (hurl : w.mysql .mysqlAddress = some c.url) (h : Q (some (q.run col w.database)) w) :
    wp (under col may) (executeQuery c q m) Q E w := by
  rw [World.database_of_url hurl] at h
  exact wp_executeQuery h fun h => absurd h ht

/-- Show an address column of the first row and close the connection, or say that there is no
row. -/
theorem wp_showFirst {w : World} {Q : Unit → World → Prop} {E : Exn → World → Prop} {ρ : Type}
    {c : Connection} {rows : List ρ} {f : TextField} {m : Message} {q : Traffic}
    {rest : Option ρ → Panel Unit} (column : ρ → Option String) (ht : ¬ Trouble may w)
    (hnone : rest none = appendToOutput m)
    (hsome : ∀ row, rest (some row) = do
      setTextOrNull f (column row)
      closeConnection .cp c)
    (h : ∀ q, Q () (w.drawn (w.screen.showAddress f (rows.head?.map column)) q)) :
    wp (under col may) (firstRow c rows >>= rest) Q E (w.quietly q) := by
  rw [wp_bind]
  refine wp_firstRow ?_ fun h => absurd h ht
  cases hrow : rows.head? with
  | none =>
    rw [hrow] at h
    rw [hnone, wp_appendToOutput]
    exact h _
  | some row =>
    rw [hrow] at h
    rw [hsome, wp_bind, setTextOrNull, wp_setText]
    exact wp_closeConnection fun q => h q

theorem draws_wsnGeneralNodeChanged :
    Draws col may wsnGeneralNodeChanged (Screen.wsnGeneralNodeChanged col) := by
  intro w Q E ht h
  rw [wsnGeneralNodeChanged, wp_bind, wp_getSelectedItem, wp_bind]
  refine wp_openStatement (fun c q₁ hurl => ?_) fun h => absurd h ht
  dsimp only
  rw [wp_bind]
  refine wp_executeQuery_inForce (by exact ht) (by exact hurl) ?_
  exact wp_showFirst NodeRow.address ht rfl (fun _ => rfl) h

theorem draws_actuatorActuatorChanged :
    Draws col may actuatorActuatorChanged (Screen.actuatorActuatorChanged col) := by
  intro w Q E ht h
  rw [actuatorActuatorChanged, wp_bind, wp_getSelectedItem, wp_bind]
  refine wp_openStatement (fun c q₁ hurl => ?_) fun h => absurd h ht
  dsimp only
  rw [wp_bind]
  refine wp_executeQuery_inForce (by exact ht) (by exact hurl) ?_
  exact wp_showFirst ActuatorRow.address ht rfl (fun _ => rfl) h

/-- The bounds are shown whether there is a row or not. -/
theorem wp_showBoundsRow {w : World} {Q : Bool → World → Prop} {E : Exn → World → Prop}
    {c : Connection} {id type : String} {d : Database} (ht : ¬ Trouble may w)
    (h : ∀ shown q, Q shown (w.drawn (w.screen.showBounds col d id type) q)) :
    wp (under col may) (showBoundsRow c ((Query.bounds id type).run col d)) Q E w := by
  rw [showBoundsRow, wp_bind]
  refine wp_firstRow ?_ fun h => absurd h ht
  have hshow : ∀ b : Option Bounds, ((Query.bounds id type).run col d).head? = b →
      w.screen.showBounds col d id type = (w.screen.setText .wsnSensorsCalibrationMaxField
        (((b.bind Bounds.max).map fun n => toString n.toInt).getD "")).setText
          .wsnSensorsCalibrationMinField
            (((b.bind Bounds.min).map fun n => toString n.toInt).getD "") := by
    rintro b rfl
    rfl
  cases hrow : ((Query.bounds id type).run col d).head? with
  | none =>
    rw [hshow none hrow] at h
    simp only [wp_bind, wp_appendToOutput, wp_setText, wp_pure]
    exact h false _
  | some b =>
    rw [hshow b hrow] at h
    simp only [wp_bind, setTextOrNull, wp_setText, wp_pure]
    exact h true _

theorem draws_wsnSensorsSensorsChanged :
    Draws col may wsnSensorsSensorsChanged (Screen.wsnSensorsSensorsChanged col) := by
  intro w Q E ht h
  rw [wsnSensorsSensorsChanged, wp_bind, wp_getSelectedItem, wp_bind]
  refine wp_openStatement (fun c q₁ hurl => ?_) fun h => absurd h ht
  dsimp only
  rw [wp_bind, wp_getSelectedItem, wp_bind]
  refine wp_executeQuery_inForce (by exact ht) (by exact hurl) ?_
  dsimp only
  rw [wp_bind]
  refine wp_showBoundsRow (by exact ht) fun shown q₂ => ?_
  cases shown with
  | false => exact h _
  | true => exact wp_closeConnection fun q₃ => h _

theorem draws_updateSensorsSelect (id : Option String) :
    Draws col may (updateSensorsSelect id) fun d => Screen.updateSensorsSelect col d id := by
  intro w Q E ht h
  rw [updateSensorsSelect, wp_bind, wp_appendToOutput, wp_bind]
  refine draws_removeAllItems draws_wsnSensorsSensorsChanged _ _ _ E (by exact ht) fun q₁ => ?_
  rw [wp_bind]
  refine wp_openStatement (fun c q₂ hurl => ?_) fun h => absurd h ht
  dsimp only
  rw [wp_bind]
  refine wp_executeQuery_inForce (by exact ht) (by exact hurl) ?_
  dsimp only
  rw [wp_bind]
  refine wp_readRows (fun q₃ => ?_) fun h => absurd h ht
  dsimp only
  rw [wp_bind]
  refine wp_closeConnection fun q₄ => ?_
  rw [wp_bind]
  refine draws_addItems draws_wsnSensorsSensorsChanged _ _ _ _ E (by exact ht) fun q₅ => ?_
  rw [wp_appendToOutput]
  exact h _

theorem draws_wsnSensorsNodeChanged :
    Draws col may wsnSensorsNodeChanged (Screen.wsnSensorsNodeChanged col) := by
  intro w Q E ht h
  rw [wsnSensorsNodeChanged, wp_bind, wp_getSelectedItem, wp_bind]
  refine wp_openStatement (fun c q₁ hurl => ?_) fun h => absurd h ht
  dsimp only
  rw [wp_bind]
  refine wp_executeQuery_inForce (by exact ht) (by exact hurl) ?_
  dsimp only
  rw [wp_bind]
  refine wp_firstRow ?_ fun h => absurd h ht
  have hfound : ∀ a, w.database.nodeAddress col
      (spell (w.screen.selected .wsnSensorsNodeComboBox)) = a → ∀ q, Q () (w.drawn (match a with
        | none => w.screen
        | some a =>
          let id := w.screen.selected .wsnSensorsNodeComboBox
          let s := Screen.updateSensorsSelect col w.database id
            (w.screen.setText .wsnSensorsNodeAddressField (a.getD ""))
          s.showBounds col w.database (spell id) (spell (s.selected .wsnSensorsSensorsComboBox))) q)
      := by
    rintro a rfl q
    exact h q
  rw [World.quietly_database]
  cases hrow : ((Query.node (spell (w.combo .wsnSensorsNodeComboBox).selected)).run col
      w.database).head? with
  | none =>
    have hnone := hfound none (congrArg (Option.map NodeRow.address) hrow)
    dsimp only
    rw [wp_appendToOutput]
    exact hnone _
  | some row =>
    have hsome := hfound (some row.address) (congrArg (Option.map NodeRow.address) hrow)
    dsimp only
    rw [wp_bind, setTextOrNull, wp_setText, wp_bind]
    refine wp_closeConnection fun q₂ => ?_
    rw [wp_bind]
    refine draws_updateSensorsSelect _ _ _ E (by exact ht) fun q₃ => ?_
    rw [wp_bind]
    refine wp_openStatement (fun c₂ q₄ hurl₂ => ?_) fun h => absurd h ht
    dsimp only
    rw [wp_bind, wp_getSelectedItem, wp_bind]
    refine wp_executeQuery_inForce (by exact ht) (by exact hurl₂) ?_
    dsimp only
    rw [wp_bind]
    refine wp_showBoundsRow (by exact ht) fun shown q₅ => ?_
    cases shown with
    | false => exact hsome _
    | true => exact wp_closeConnection fun q₆ => hsome _

theorem draws_itemStateChanged (b : ComboBox) :
    Draws col may (itemStateChanged b) fun d => Screen.itemStateChanged col d b := by
  cases b with
  | wsnGeneralNodeComboBox => exact draws_wsnGeneralNodeChanged
  | wsnSensorsNodeComboBox => exact draws_wsnSensorsNodeChanged
  | wsnSensorsSensorsComboBox => exact draws_wsnSensorsSensorsChanged
  | actuatorActuatorComboBox => exact draws_actuatorActuatorChanged
  | wsnGeneralRemoveNodeComboBox | actuatorRemoveActuatorComboBox => exact draws_pure

theorem draws_clearAddress (b : ComboBox) :
    Draws col may (clearAddress b) fun _ => Screen.clearAddress b := by
  cases b with
  | wsnGeneralNodeComboBox | wsnSensorsNodeComboBox | actuatorActuatorComboBox =>
    exact draws_setText _ _
  | _ => exact draws_pure

theorem draws_updateSelect (b : ComboBox) (q : Query) (column : q.Row → String) (m m' : Message) :
    Draws col may (updateSelect b q column m m') fun d =>
      Screen.updateSelect col d b ((q.run col d).map column) := by
  intro w Q E ht h
  rw [updateSelect, wp_bind, wp_appendToOutput, wp_bind]
  refine draws_removeAllItems (draws_itemStateChanged b) _ _ _ E (by exact ht) fun q₁ => ?_
  rw [wp_bind]
  refine draws_clearAddress _ _ _ E (by exact ht) fun q₂ => ?_
  rw [wp_bind]
  refine wp_openStatement (fun c q₃ hurl => ?_) fun h => absurd h ht
  dsimp only
  rw [wp_bind]
  refine wp_executeQuery_inForce (by exact ht) (by exact hurl) ?_
  dsimp only
  rw [wp_bind]
  refine wp_readRows (fun q₄ => ?_) fun h => absurd h ht
  dsimp only
  rw [wp_bind]
  refine wp_closeConnection fun q₅ => ?_
  rw [wp_bind]
  refine draws_addItems (draws_itemStateChanged b) _ _ _ _ E (by exact ht) fun q₆ => ?_
  rw [wp_appendToOutput]
  exact h _

theorem draws_updateNodeSelect (b : ComboBox) :
    Draws col may (updateNodeSelect b) fun d => Screen.updateNodeSelect col d b :=
  draws_updateSelect b .nodes NodeRow.id _ _

theorem draws_updateActuatorsSelect (b : ComboBox) :
    Draws col may (updateActuatorsSelect b) fun d => Screen.updateActuatorsSelect col d b :=
  draws_updateSelect b .actuators ActuatorRow.id _ _

/-- **The node boxes.** What the three refills make of the window is what the function makes of
it. -/
theorem draws_updateNodeSelects :
    Draws col may updateNodeSelects (Screen.updateNodeSelects col) :=
  (draws_updateNodeSelect _).bind ((draws_updateNodeSelect _).bind (draws_updateNodeSelect _))

/-- **The actuator boxes.** -/
theorem draws_updateActuatorsSelects :
    Draws col may updateActuatorsSelects (Screen.updateActuatorsSelects col) :=
  (draws_updateActuatorsSelect _).bind (draws_updateActuatorsSelect _)

end Drawing

end CrossingReality
