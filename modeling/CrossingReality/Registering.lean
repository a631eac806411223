import CrossingReality.Methods
import CrossingReality.Recognition

/-!
# What a turn does to the registry

Readings and operator actions where no database call fails. Each turn leads to one deed on the
tables of nodes and sensors (`Deed`), and leaves the node box of the sensors tab as it was, with
another of its items selected, or filled with the nodes there are.

* `turns_action` — every turn is one of these.
-/

namespace CrossingReality

open Effects

/-! ## Deeds -/

/-- What a turn can do to the tables of nodes and sensors. -/
inductive Deed where
  | nothing
  | addNode (id : String) (address : Option String)
  | addSensor (id type : String)
  | learn (id type : String) (value : Int32)
  | removeNode (id : String)
  | removeSensor (id type : String)
  | reset (id type : String)
deriving DecidableEq

/-- The database after a deed. -/
def Deed.apply (col : Collation) (d : Database) : Deed → Database
  | .nothing => d
  | .addNode id address => d.apply col (.insertNode id address)
  | .addSensor id type => d.apply col (.insertSensor id type)
  | .learn id type value => d.learn col id type value
  | .removeNode id => (d.apply col (.deleteNode id)).apply col (.deleteSensors id)
  | .removeSensor id type => d.apply col (.deleteSensor id type)
  | .reset id type => d.apply col (.resetBounds id type)

/-- The deeds an action can lead to, from a given world. -/
inductive Leads (col : Collation) (w : World) : Action → Deed → Prop
  /-- A reading that is not calibrated with, or an action that is not a reset. -/
  | skipped {a : Action} (hreading : ∀ id type value, a = .reading id type value →
        ¬ (w.database.hasNode col id ∧ w.database.hasSensor col id type ∧
          w.checked .wsnSensorsCalibrateCheck = true))
      (hreset : a ≠ .press .wsnSensorsCalibrateResetButton) : Leads col w a .nothing
  | nodeRead {id type : String} {value : Int32} (h : ¬ w.database.hasNode col id) :
      Leads col w (.reading id type value) (.addNode id none)
  | sensorRead {id type : String} {value : Int32} (hnode : w.database.hasNode col id)
      (hsensor : ¬ w.database.hasSensor col id type) :
      Leads col w (.reading id type value) (.addSensor id type)
  | learnt {id type : String} {value : Int32} (hnode : w.database.hasNode col id)
      (hsensor : w.database.hasSensor col id type)
      (hon : w.checked .wsnSensorsCalibrateCheck = true) :
      Leads col w (.reading id type value) (.learn id type value)
  | nodeTyped {id : String} (address : String) (h : ¬ w.database.hasNode col id) :
      Leads col w (.press .wsnGeneralManualNodeAddButton) (.addNode id (some address))
  | sensorTyped (htype : (w.text .wsnSensorsManualSensorAddType).isEmpty = false)
      (h : (Query.sensor (spell (w.combo .wsnSensorsNodeComboBox).selected)
        (w.text .wsnSensorsManualSensorAddType)).run col w.database = []) :
      Leads col w (.press .wsnSensorsManualAddSensorButton)
        (.addSensor (spell (w.combo .wsnSensorsNodeComboBox).selected)
          (w.text .wsnSensorsManualSensorAddType))
  | nodeRemoved (id : String) :
      Leads col w (.press .wsnGeneralRemoveNodeButton) (.removeNode id)
  | sensorRemoved (id type : String) :
      Leads col w (.press .wsnSensorsRemoveSensorButton) (.removeSensor id type)
  | reset : Leads col w (.press .wsnSensorsCalibrateResetButton)
      (.reset (spell (w.combo .wsnSensorsNodeComboBox).selected)
        (spell (w.combo .wsnSensorsSensorsComboBox).selected))

/-- The node box of the sensors tab after a deed. -/
inductive Boxed (w : World) (deed : Deed) (w' : World) : Prop
  | refilled (h : w'.combo .wsnSensorsNodeComboBox = .filled w'.database.nodeIds)
  | kept (hdeed : ∀ id, deed ≠ .removeNode id)
      (h : w'.combo .wsnSensorsNodeComboBox = w.combo .wsnSensorsNodeComboBox)
  | picked (hdeed : ∀ id, deed ≠ .removeNode id) (s : String)
      (h : w'.combo .wsnSensorsNodeComboBox =
        (w.combo .wsnSensorsNodeComboBox).setSelectedItem s)

/-- A turn from `w` to `w'` was a deed of `a`. -/
structure Turned (col : Collation) (w : World) (a : Action) (deed : Deed) (w' : World) :
    Prop where
  leads : Leads col w a deed
  nodeIds : w'.database.nodeIds = (deed.apply col w.database).nodeIds
  sensors : w'.database.sensors = (deed.apply col w.database).sensors
  boxed : Boxed w deed w'

variable {col : Collation} {may : Call → Prop} {w w' : World} {url : String}

/-- A turn that neither reads nor resets, and leaves the tables and the node box alone. -/
theorem Turned.idle {a : Action} (hreading : ∀ id type value, a ≠ .reading id type value)
    (hreset : a ≠ .press .wsnSensorsCalibrateResetButton)
    (hnodes : w'.database.nodeIds = w.database.nodeIds)
    (hsensors : w'.database.sensors = w.database.sensors)
    (hbox : w'.combo .wsnSensorsNodeComboBox = w.combo .wsnSensorsNodeComboBox) :
    Turned col w a .nothing w' :=
  ⟨.skipped (fun id type value h => absurd h (hreading id type value)) hreset, hnodes, hsensors,
    .kept nofun hbox⟩

/-- The turn did a deed of `a`, unless it changed the address of the database. -/
def Turns (col : Collation) (url : String) (w : World) (a : Action) (w' : World) : Prop :=
  w'.mysql .mysqlAddress = some url → ∃ deed, Turned col w a deed w'

/-! ## Removing -/

section Methods

variable {E : Exn → World → Prop}

theorem turns_removeNode (id : Option String) (ht : ¬ Trouble may w)
    (hw : w.mysql .mysqlAddress = some url) :
    wp (under col may) (removeNode id)
      (fun _ => Turns col url w (.press .wsnGeneralRemoveNodeButton))
      (fun _ => Turns col url w (.press .wsnGeneralRemoveNodeButton)) w := by
  refine wp_removeNode ht hw (fun _ _ _ => ⟨_, .idle nofun nofun rfl rfl rfl⟩) fun q _ => ?_
  refine wp_updateNodeSelects ht fun t b q₂ hf hg hr hs _ => ⟨.removeNode (spell id), ?_⟩
  have hdb : ((w.update col url (.deleteNode (spell id))).update col url
      (.deleteSensors (spell id))).database =
        (Deed.removeNode (spell id)).apply col w.database := by
    rw [World.update_database (by exact hw) col, World.update_database hw col, Deed.apply]
  refine ⟨.nodeRemoved _, ?_, ?_, .refilled ?_⟩
  · exact congrArg Database.nodeIds hdb
  · exact congrArg Database.sensors hdb
  · exact hs

theorem turns_removeSensor (id type : Option String) (ht : ¬ Trouble may w)
    (hw : w.mysql .mysqlAddress = some url) :
    wp (under col may) (removeSensor id type)
      (fun _ => Turns col url w (.press .wsnSensorsRemoveSensorButton))
      (fun _ => Turns col url w (.press .wsnSensorsRemoveSensorButton)) w := by
  refine wp_removeSensor ht hw (fun _ _ _ => ⟨_, .idle nofun nofun rfl rfl rfl⟩) fun q _ => ?_
  refine wp_redraws (redraws_updateSensorsSelect (S := (· = .wsnSensorsSensorsComboBox)) rfl id)
    fun _ t b q₂ hf _ => ⟨.removeSensor (spell id) (spell type), ?_⟩
  have hdb := World.update_database hw col (.deleteSensor (spell id) (spell type))
  refine ⟨.sensorRemoved _ _, ?_, ?_, .kept nofun ?_⟩
  · exact congrArg Database.nodeIds hdb
  · exact congrArg Database.sensors hdb
  · exact hf.combo _ nofun

/-- A part that only redraws other boxes than the node box of the sensors tab. -/
theorem turns_redraws {S : ComboBox → Prop} {a : Action} {p : Panel Unit} {w' : World}
    (hp : Redraws S p) (hS : ¬ S .wsnSensorsNodeComboBox)
    (hreading : ∀ id type value, a ≠ .reading id type value)
    (hreset : a ≠ .press .wsnSensorsCalibrateResetButton)
    (hnodes : w'.database.nodeIds = w.database.nodeIds)
    (hsensors : w'.database.sensors = w.database.sensors) (hcombo : w'.combo = w.combo) :
    wp (under col may) p (fun _ => Turns col url w a) E w' :=
  wp_redraws hp fun _ t b q hf _ => ⟨.nothing, .idle hreading hreset hnodes hsensors
    ((hf.combo _ hS).trans (by rw [hcombo]))⟩

theorem turns_removeActuator (id : Option String) (ht : ¬ Trouble may w)
    (hw : w.mysql .mysqlAddress = some url) :
    wp (under col may) (removeActuator id)
      (fun _ => Turns col url w (.press .actuatorRemoveActuatorButton)) E w := by
  refine wp_removeActuator ht hw fun q => ?_
  have hdb := World.update_database hw col (.deleteActuator (spell id))
  refine turns_redraws redraws_updateActuatorsSelects not_false nofun nofun ?_ ?_ rfl
  · exact (congrArg Database.nodeIds hdb :)
  · exact (congrArg Database.sensors hdb :)

/-! ## Adding -/

variable [Jdk]

theorem turns_manualNodeAdd (ht : ¬ Trouble may w) (hw : w.mysql .mysqlAddress = some url) :
    wp (under col may) manualNodeAdd
      (fun _ => Turns col url w (.press .wsnGeneralManualNodeAddButton))
      (fun _ => Turns col url w (.press .wsnGeneralManualNodeAddButton)) w := by
  have hidle : ∀ q, Turns col url w (.press .wsnGeneralManualNodeAddButton) (w.quietly q) :=
    fun q _ => ⟨.nothing, .idle nofun nofun rfl rfl rfl⟩
  refine wp_manualNodeAdd ht hw (fun q _ => hidle q) (fun q _ _ _ _ => hidle q)
    fun l q _ _ hnot _ => ?_
  refine wp_updateNodeSelects ht fun t b q₅ hf hg hr hs => ?_
  have hdb := World.update_database hw col (.insertNode
    (w.text .wsnGeneralManualNodeAddId) (some (w.text .wsnGeneralManualNodeAddAddress)))
  refine fun _ => ⟨.addNode _ _, .nodeTyped (w.text .wsnGeneralManualNodeAddAddress) hnot, ?_, ?_,
    .refilled ?_⟩
  · exact congrArg Database.nodeIds hdb
  · exact congrArg Database.sensors hdb
  · exact hs

theorem turns_manualSensorAdd (ht : ¬ Trouble may w) (hw : w.mysql .mysqlAddress = some url) :
    wp (under col may) manualSensorAdd
      (fun _ => Turns col url w (.press .wsnSensorsManualAddSensorButton))
      (fun _ => Turns col url w (.press .wsnSensorsManualAddSensorButton)) w := by
  have hidle : ∀ q, Turns col url w (.press .wsnSensorsManualAddSensorButton) (w.quietly q) :=
    fun q _ => ⟨.nothing, .idle nofun nofun rfl rfl rfl⟩
  refine wp_manualSensorAdd ht hw (fun q _ => hidle q) (fun q _ => hidle q)
    fun htype hnone hlist q => ?_
  obtain ⟨l, hl⟩ := Option.ne_none_iff_exists'.mp hlist
  have hleads : Leads col w (.press .wsnSensorsManualAddSensorButton)
      (.addSensor (spell (w.combo .wsnSensorsNodeComboBox).selected)
        (w.text .wsnSensorsManualSensorAddType)) := .sensorTyped htype hnone
  have hdb := World.update_database hw col (.insertSensor
    (spell (w.combo .wsnSensorsNodeComboBox).selected) (w.text .wsnSensorsManualSensorAddType))
  have hturned : ∀ w' : World, w'.database = (w.update col url (.insertSensor
      (spell (w.combo .wsnSensorsNodeComboBox).selected)
      (w.text .wsnSensorsManualSensorAddType))).database →
      w'.combo .wsnSensorsNodeComboBox = w.combo .wsnSensorsNodeComboBox →
      Turns col url w (.press .wsnSensorsManualAddSensorButton) w' := fun w' hw' hbox _ =>
    ⟨_, hleads, congrArg Database.nodeIds (hw'.trans hdb),
      congrArg Database.sensors (hw'.trans hdb), .kept nofun hbox⟩
  refine wp_unignoreSensor hl (fun e _ => ?_) (fun _ t b q₆ hf => ?_)
    fun rest q₅ _ _ t b q₆ hf => ?_
  · exact hturned _ rfl rfl
  · exact hturned _ rfl (hf.combo _ nofun)
  · exact hturned _ rfl (hf.combo _ nofun)

theorem turns_manualActuatorAdd (ht : ¬ Trouble may w)
    (hw : w.mysql .mysqlAddress = some url) :
    wp (under col may) manualActuatorAdd
      (fun _ => Turns col url w (.press .actuatorManualActuatorAddButton)) E w := by
  have hidle : ∀ q, Turns col url w (.press .actuatorManualActuatorAddButton) (w.quietly q) :=
    fun q _ => ⟨.nothing, .idle nofun nofun rfl rfl rfl⟩
  refine wp_manualActuatorAdd ht hw (fun q _ => hidle q) fun q _ _ _ _ => ?_
  have hdb := World.update_database hw col (.insertActuator
    (w.text .actuatorManualActuatorAddId) (w.text .actuatorManualActuatorAddAddress))
  refine turns_redraws redraws_updateActuatorsSelects not_false nofun nofun ?_ ?_ rfl
  · exact (congrArg Database.nodeIds hdb :)
  · exact (congrArg Database.sensors hdb :)

/-! ## The other buttons -/

omit [Jdk] in
theorem turns_calibrateReset (ht : ¬ Trouble may w) (hw : w.mysql .mysqlAddress = some url) :
    wp (under col may) calibrateReset
      (fun _ => Turns col url w (.press .wsnSensorsCalibrateResetButton)) E w := by
  refine wp_calibrateReset ht hw fun q => ?_
  have hdb := World.update_database hw col (.resetBounds
    (spell (w.combo .wsnSensorsNodeComboBox).selected)
    (spell (w.combo .wsnSensorsSensorsComboBox).selected))
  refine fun _ => ⟨_, .reset, ?_, ?_, .kept nofun rfl⟩
  · exact (congrArg Database.nodeIds hdb :)
  · exact (congrArg Database.sensors hdb :)

omit [Jdk] in
theorem nodeIds_setNodeAddress (d : Database) (address id : String) :
    (d.apply col (.setNodeAddress address id)).nodeIds = d.nodeIds := by
  simp only [Database.nodeIds, Database.apply, List.map_map]
  refine List.map_congr_left fun r _ => ?_
  simp only [Function.comp]
  split <;> rfl

theorem turns_updateNodeAddress (ht : ¬ Trouble may w) (hw : w.mysql .mysqlAddress = some url) :
    wp (under col may) updateNodeAddress
      (fun _ => Turns col url w (.press .wsnGeneralUpdateNodeAddressButton)) E w := by
  refine wp_updateNodeAddress ht hw (fun _ _ _ => ⟨.nothing, .idle nofun nofun rfl rfl rfl⟩)
    fun q _ => ?_
  have hdb := World.update_database hw col (.setNodeAddress
    (w.text .wsnGeneralNodeAddressField)
    (spell (w.combo .wsnGeneralNodeComboBox).selected))
  refine fun _ => ⟨.nothing, .idle nofun nofun ?_ ?_ rfl⟩
  · exact ((congrArg Database.nodeIds hdb).trans (nodeIds_setNodeAddress _ _ _) :)
  · exact (congrArg Database.sensors hdb :)

theorem turns_updateActuatorAddress (ht : ¬ Trouble may w)
    (hw : w.mysql .mysqlAddress = some url) :
    wp (under col may) updateActuatorAddress
      (fun _ => Turns col url w (.press .actuatorUpdateActuatorAddressButton)) E w := by
  refine wp_updateActuatorAddress ht hw (fun _ _ _ => ⟨.nothing, .idle nofun nofun rfl rfl rfl⟩)
    fun q _ => ?_
  have hdb := World.update_database hw col (.setActuatorAddress
    (w.text .actuatorAddressField) (spell (w.combo .actuatorActuatorComboBox).selected))
  refine fun _ => ⟨.nothing, .idle nofun nofun ?_ ?_ rfl⟩
  · exact (congrArg Database.nodeIds hdb :)
  · exact (congrArg Database.sensors hdb :)

omit [Jdk] in
theorem database_of_servers (hw : w.mysql .mysqlAddress = some url)
    (hw' : w'.mysql .mysqlAddress = some url) (h : w'.servers = w.servers) :
    w'.database = w.database := by
  rw [World.database_of_url hw, World.database_of_url hw', h]

/-- Pressing *Update* against the database that was configured already refills the boxes. -/
theorem turns_updateMysql (ht : ∀ c, may c → ¬ c.isJdbc) (hw : w.mysql .mysqlAddress = some url) :
    wp (under col may) (actionPerformed .wsnGeneralUpdateMysqlAddressButton)
      (fun _ => Turns col url w (.press .wsnGeneralUpdateMysqlAddressButton)) E w := by
  simp only [actionPerformed, wp_bind]
  refine wp_takeMysqlFields fun m hm => ?_
  refine wp_updateNodeSelects ?_ fun t b q hf hg hr hs hurl => ?_
  · rintro (h | ⟨c, hc, hjdbc⟩)
    · exact hm h
    · exact ht c hc hjdbc
  have hdb : ({ w with mysql := m } : World).database = w.database :=
    database_of_servers hw hurl rfl
  refine ⟨.nothing, .skipped (by simp) (by simp), ?_, ?_, .refilled hs⟩
  · exact (congrArg Database.nodeIds hdb :)
  · exact (congrArg Database.sensors hdb :)

theorem turns_saveMysql (hw : w.mysql .mysqlAddress = some url) :
    wp (under col may) (actionPerformed .wsnGeneralSaveMysqlDetailsButton)
      (fun _ => Turns col url w (.press .wsnGeneralSaveMysqlDetailsButton)) E w := by
  refine wp_saveMysql fun m s q _ hurl => ?_
  have hdb : ((({ w with mysql := m } : World).withDetailsFile s).quietly q).database =
      w.database := database_of_servers hw hurl rfl
  exact ⟨.nothing, .idle nofun nofun (by rw [hdb]) (by rw [hdb]) rfl⟩

/-! ## Readings -/

theorem Reaction.turns {id type : String} {value : Int32} {r : Except Exn Bool}
    (hw : w.mysql .mysqlAddress = some url) (h : Reaction col url w id type value r w') :
    Turns col url w (.reading id type value) w' := by
  have hskip : ∀ w' : World, w'.database = w.database → w'.combo = w.combo →
      ¬ (w.database.hasNode col id ∧ w.database.hasSensor col id type ∧
        w.checked .wsnSensorsCalibrateCheck = true) →
      Turns col url w (.reading id type value) w' := by
    intro w' hdb hcombo hnot _
    refine ⟨.nothing, .skipped ?_ (by simp), by rw [hdb]; rfl, by rw [hdb]; rfl,
      .kept (by simp) (by rw [hcombo])⟩
    rintro _ _ _ ⟨⟩
    exact hnot
  -- Calibrating is a deed if the box is ticked, and nothing if it is not.
  have hlearnt : ∀ w' : World, w'.database = w.learnt col id type value → w'.combo = w.combo →
      w.database.hasNode col id → w.database.hasSensor col id type →
      Turns col url w (.reading id type value) w' := by
    intro w' hdb hcombo hnode hsensor
    by_cases hon : w.checked .wsnSensorsCalibrateCheck = true
    · rw [World.learnt, if_pos hon] at hdb
      exact fun _ => ⟨.learn id type value, .learnt hnode hsensor hon, by rw [hdb]; rfl,
        by rw [hdb]; rfl, .kept (by simp) (by rw [hcombo])⟩
    · rw [World.learnt, if_neg hon] at hdb
      exact hskip w' hdb hcombo fun h => hon h.2.2
  cases h with
  | nodeSkipped q hnode => exact hskip _ rfl rfl fun h => hnode h.1
  | nodeCrashed q hnode => exact hskip _ rfl rfl fun h => hnode h.1
  | nodeAdded l t b q hnode hauto hl hid hf hb =>
    have hdb := World.withDatabase_database (w := w)
      (d := w.database.apply col (.insertNode id none)) hw
    refine fun _ => ⟨.addNode id none, .nodeRead hnode, ?_, ?_, .refilled ?_⟩
    · exact (congrArg Database.nodeIds hdb :)
    · exact (congrArg Database.sensors hdb :)
    · exact hb.trans (congrArg (fun d => Combo.filled d.nodeIds) hdb.symm)
  | sensorSkipped q hnode hsensor => exact hskip _ rfl rfl fun h => hsensor h.2.1
  | sensorCrashed e q hnode hsensor => exact hskip _ rfl rfl fun h => hsensor h.2.1
  | sensorAdded l t b q hnode hsensor hauto hl hpair hf =>
    have hdb := World.withDatabase_database (w := w)
      (d := w.database.apply col (.insertSensor id type)) hw
    refine fun _ => ⟨.addSensor id type, .sensorRead hnode hsensor, ?_, ?_,
      .kept (by simp) (hf.combo _ (by simp))⟩
    · exact (congrArg Database.nodeIds hdb :)
    · exact (congrArg Database.sensors hdb :)
  | stopped t q hnode hsensor hf =>
    exact hlearnt _ (World.withDatabase_database hw) rfl hnode hsensor
  | forwarded address x ok t q hnode hsensor hf =>
    exact hlearnt _ (World.withDatabase_database hw) rfl hnode hsensor

/-! ## All actions -/

/-- **Turns.** Where no database call fails, every action does one of its deeds. -/
theorem turns_action (a : Action) (ht : ∀ c, may c → ¬ c.isJdbc)
    (hw : w.mysql .mysqlAddress = some url) (hcol : ∀ s, col.same s s = true) :
    wp (under col may) a.program (fun _ => Turns col url w a) (fun _ => Turns col url w a) w := by
  have ht' : ¬ Trouble may w := by
    rintro (h | ⟨c, hc, hjdbc⟩)
    · simp [hw] at h
    · exact ht c hc hjdbc
  cases a with
  | reading id type value =>
    simp only [Action.program, wp_bind]
    exact (wp_sensed ht' hw (hcol type)).mono (fun b w' h => h.turns hw) fun e w' h => h.turns hw
  | press b =>
    cases b with
    | wsnGeneralUpdateNodeAddressButton => exact turns_updateNodeAddress ht' hw
    | wsnGeneralUpdateMysqlAddressButton => exact turns_updateMysql ht hw
    | wsnGeneralSaveMysqlDetailsButton => exact turns_saveMysql hw
    | wsnGeneralManualNodeAddButton => exact turns_manualNodeAdd ht' hw
    | wsnGeneralRemoveNodeButton =>
      simp only [Action.program, actionPerformed, wp_bind, wp_getSelectedItem]
      exact turns_removeNode _ ht' hw
    | wsnSensorsManualAddSensorButton => exact turns_manualSensorAdd ht' hw
    | wsnSensorsRemoveSensorButton =>
      simp only [Action.program, actionPerformed, wp_bind, wp_getSelectedItem]
      exact turns_removeSensor _ _ ht' hw
    | wsnSensorsCalibrateResetButton => exact turns_calibrateReset ht' hw
    | wsnGeneralRefreshNodeAddressButton =>
      exact turns_redraws (S := fun _ => False) redraws_refreshNodeAddress not_false (by simp)
        (by simp) rfl rfl rfl
    | actuatorManualActuatorAddButton => exact turns_manualActuatorAdd ht' hw
    | actuatorUpdateActuatorAddressButton => exact turns_updateActuatorAddress ht' hw
    | actuatorRefreshActuatorAddressButton =>
      exact turns_redraws (S := fun _ => False) redraws_refreshActuatorAddress not_false (by simp)
        (by simp) rfl rfl rfl
    | actuatorRemoveActuatorButton =>
      simp only [Action.program, actionPerformed, wp_bind, wp_getSelectedItem]
      exact turns_removeActuator _ ht' hw
  | tick b v =>
    simp only [Action.program, wp_setSelected]
    exact fun _ => ⟨.nothing, .idle (by simp) (by simp) rfl rfl rfl⟩
  | typeText f s =>
    simp only [Action.program, typeInto]
    rw [wp_ite]
    simp only [wp_pure, wp_setText]
    exact ⟨fun _ _ => ⟨.nothing, .idle (by simp) (by simp) rfl rfl rfl⟩,
      fun _ _ => ⟨.nothing, .idle (by simp) (by simp) rfl rfl rfl⟩⟩
  | select b s =>
    simp only [Action.program, selectItem, wp_bind]
    rw [wp_call_steady (fun _ => rfl)]
    refine wp_fire _ fun t c q hf _ => ⟨.nothing, .skipped (by simp) (by simp), rfl, rfl, ?_⟩
    have hbox : c .wsnSensorsNodeComboBox =
        (w.setCombo b ((w.combo b).setSelectedItem s)).combo .wsnSensorsNodeComboBox :=
      hf.combo _ (by rintro ⟨-, h⟩; cases h)
    by_cases hb : b = .wsnSensorsNodeComboBox
    · subst hb
      exact .picked (by simp) s (hbox.trans (by simp [World.setCombo]))
    · exact .kept (by simp) (hbox.trans (Function.update_of_ne (Ne.symm hb) _ _))

end Methods

end CrossingReality
