import CrossingReality.Mirroring

/-!
# Which actions restore the boxes

While the boxes list what they should, an action leaves them so if and only if it refills every box
whose contents it changes. The desk before the action says when it does.

* `Restores` — what has to hold of that desk.
* `session_mirrors_iff` — sessions from a start-up that went well.
-/

namespace CrossingReality

open Effects

variable {col : Collation} {s : Desk}

/-- Every box lists what it should. -/
def Lists (col : Collation) (s : Desk) : Prop :=
  ∀ b, (s.screen.combo b).items = s.screen.contents col s.database b

theorem mirrors_iff {w : World} (hdesk : w.desk = some s) : Mirrors col w ↔ Lists col s := by
  obtain ⟨url, hurl, rfl⟩ := of_desk hdesk
  simp only [Mirrors, Lists, deskAt_database hurl]
  rfl

theorem Mirrored.lists (h : Mirrored col (fun _ => True) s) : Lists col s := fun b =>
  (h b trivial).items

/-- The action refills every box whose contents it changes. -/
def Restores [Jdk] (col : Collation) (a : Action) (s : Desk) : Prop :=
  match a with
  -- Only the boxes of the nodes are refilled, and with no node there is nothing to refill the box
  -- of the sensors.
  | .press .wsnGeneralUpdateMysqlAddressButton =>
    s.takeMysqlFields.database.actuatorIds = s.database.actuatorIds ∧
      (s.takeMysqlFields.database.nodes = [] →
        (s.screen.combo .wsnSensorsSensorsComboBox).items = [])
  -- No box is refilled.
  | .press .wsnGeneralSaveMysqlDetailsButton =>
    s.takeMysqlFields.database.nodeIds = s.database.nodeIds ∧
      s.takeMysqlFields.database.actuatorIds = s.database.actuatorIds ∧
        ∀ id ∈ s.screen.selected .wsnSensorsNodeComboBox,
          s.takeMysqlFields.database.typesOf col id = s.database.typesOf col id
  -- Nothing refills the box of the sensors when the last node goes.
  | .press .wsnGeneralRemoveNodeButton =>
    ¬ (s.checked .wsnGeneralRemoveNodeIgnoreCheck ∧ s.ignoreNodeList = none) →
      (∀ r ∈ s.database.nodes,
        col.same r.id (spell (s.screen.selected .wsnGeneralRemoveNodeComboBox)) = true) →
        (s.screen.combo .wsnSensorsSensorsComboBox).items = []
  -- With no node selected the refill takes the sensors of the node `null`. An entry of the ignore
  -- list without a string stops the method before the refill.
  | .press .wsnSensorsManualAddSensorButton => s.newSensor col → ∀ l ∈ s.ignoreSensorList,
    (s.screen.selected .wsnSensorsNodeComboBox ≠ none ↔ (removeEntry s.typedSensor l).isOk = true)
  | .press .wsnSensorsRemoveSensorButton =>
    ¬ (s.checked .wsnSensorsRemoveSensorIgnoreCheck ∧ s.ignoreSensorList = none) →
      s.screen.selected .wsnSensorsNodeComboBox = none →
        (s.database.apply col (.deleteSensor "null"
          (spell (s.screen.selected .wsnSensorsSensorsComboBox)))).typesOf col "null" = []
  | _ => True

instance [Jdk] (col : Collation) (a : Action) (s : Desk) : Decidable (Restores col a s) :=
  match a with
  | .press .wsnGeneralUpdateMysqlAddressButton =>
    inferInstanceAs (Decidable (_ = _ ∧ (_ = _ → _ = _)))
  | .press .wsnGeneralSaveMysqlDetailsButton =>
    inferInstanceAs (Decidable (_ = _ ∧ _ = _ ∧ ∀ id ∈ _, _))
  | .press .wsnGeneralRemoveNodeButton =>
    inferInstanceAs (Decidable (¬ (_ ∧ _) → (∀ r ∈ _, _ = _) → _ = _))
  | .press .wsnSensorsManualAddSensorButton =>
    inferInstanceAs (Decidable (_ → ∀ l ∈ _, (_ ≠ _ ↔ _)))
  | .press .wsnSensorsRemoveSensorButton =>
    inferInstanceAs (Decidable (¬ (_ ∧ _) → _ = _ → _ = _))
  | .press .wsnGeneralUpdateNodeAddressButton | .press .wsnGeneralManualNodeAddButton
  | .press .wsnSensorsCalibrateResetButton | .press .wsnGeneralRefreshNodeAddressButton
  | .press .actuatorManualActuatorAddButton | .press .actuatorUpdateActuatorAddressButton
  | .press .actuatorRefreshActuatorAddressButton
  | .press .actuatorRemoveActuatorButton => .isTrue trivial
  | .reading .. | .tick .. | .typeText .. | .select .. => .isTrue trivial

/-! ## Actions that restore the boxes -/

section Restoring

variable [Jdk]

theorem Mirrored.manualSensorAdd_of_restores (h : Mirrored col (fun _ => True) s)
    (hr : Restores col (.press .wsnSensorsManualAddSensorButton) s) :
    Mirrored col (fun _ => True) (s.manualSensorAdd col).2 := by
  by_cases hselected : s.screen.selected .wsnSensorsNodeComboBox = none
  · unfold Desk.manualSensorAdd
    split
    · rename_i hnew
      split
      · exact h
      · rename_i l hl
        split
        · -- The box was not refilled, and should not list the row: it is no selected node's.
          intro b _
          have hcontents : s.screen.contents col (s.database.apply col (.insertSensor
              (spell (s.screen.selected .wsnSensorsNodeComboBox))
                (s.screen.text .wsnSensorsManualSensorAddType))) b =
              s.screen.contents col s.database b := by
            by_cases hb : b = .wsnSensorsSensorsComboBox
            · subst hb
              rw [Screen.contents_sensors_none hselected, Screen.contents_sensors_none hselected]
            · exact contents_eq (by rfl) (fun _ => by rfl) (fun h => absurd h hb) _
          rw [Desk.throws, Screen.Shows, Desk.update_database, Desk.update_screen, hcontents]
          exact h b trivial
        · rename_i rest hrest
          exact absurd hselected ((hr hnew l hl).mpr (by rw [hrest]; rfl))
    · exact h
  · exact h.manualSensorAdd fun _ hnew l hl => ⟨hselected, (hr hnew l hl).mp hselected⟩

/-- **Step.** -/
theorem Mirrored.act_of_restores (hcol : ∀ s, col.same s s = true)
    (h : Mirrored col (fun _ => True) s) {a : Action} (hr : Restores col a s) :
    Mirrored col (fun _ => True) (s.act col a).2 := by
  cases a with
  | press b =>
    cases b with
    | wsnGeneralUpdateMysqlAddressButton => exact h.updateMysql hcol hr.1 fun _ => hr.2
    | wsnGeneralSaveMysqlDetailsButton => exact h.saveMysql ⟨hr.1, hr.2.1⟩ fun _ => hr.2.2
    | wsnGeneralRemoveNodeButton =>
      by_cases hthrows : s.checked .wsnGeneralRemoveNodeIgnoreCheck ∧ s.ignoreNodeList = none
      · show Mirrored col _ (s.removeNode col _).2
        rw [Desk.removeNode, if_pos hthrows]
        exact h
      · exact h.removeNode hcol fun _ => hr hthrows
    | wsnSensorsManualAddSensorButton => exact h.manualSensorAdd_of_restores hr
    | wsnSensorsRemoveSensorButton =>
      by_cases hthrows : s.checked .wsnSensorsRemoveSensorIgnoreCheck ∧ s.ignoreSensorList = none
      · show Mirrored col _ (s.removeSensor col _ _).2
        rw [Desk.removeSensor, if_pos hthrows]
        exact h
      · exact h.removeSensor fun _ => hr hthrows
    | _ => exact h.act hcol (fun _ _ => trivial) _ trivial fun _ => trivial
  | _ => exact h.act hcol (fun _ _ => trivial) _ trivial fun _ => trivial

end Restoring

/-! ## Only they do -/

/-- The refill of the node boxes, with no node to put in. -/
theorem items_nil_of_lists (hcol : ∀ s, col.same s s = true)
    (hl : Lists col (s.draw (Screen.updateNodeSelects col))) (hnil : s.database.nodes = []) :
    (s.screen.combo .wsnSensorsSensorsComboBox).items = [] := by
  have hshown := Screen.updateNodeSelects_shows (d := s.database) hcol s.screen
  have hids : s.database.nodeIds = [] := List.map_eq_nil_iff.mpr hnil
  have hselected : (s.screen.updateNodeSelects col s.database).selected .wsnSensorsNodeComboBox =
      none := by
    rw [Screen.selected, hshown.sensorsNode, hids]
    rfl
  have hitems := hl .wsnSensorsSensorsComboBox
  rw [Desk.draw_screen, Desk.draw_database, Screen.contents_sensors_none hselected,
    (hshown.none hids).1] at hitems
  exact hitems

/-- The refill of the sensors, with no node selected. -/
theorem typesOf_nil_of_lists {id : Option String}
    (hl : Lists col (s.draw fun d => Screen.updateSensorsSelect col d id))
    (hselected : s.screen.selected .wsnSensorsNodeComboBox = none) :
    s.database.typesOf col (spell id) = [] := by
  have hwithin : Screen.Within _ _ s.screen (s.screen.updateSensorsSelect col s.database id) :=
    Screen.within_updateSensorsSelect id s.screen
  have hafter : (s.screen.updateSensorsSelect col s.database id).selected
      .wsnSensorsNodeComboBox = none := by
    rw [Screen.selected, hwithin.combo _ (by simp), ← Screen.selected, hselected]
  have hitems := hl .wsnSensorsSensorsComboBox
  rw [Desk.draw_screen, Desk.draw_database, Screen.contents_sensors_none hafter,
    Screen.updateSensorsSelect_combo] at hitems
  exact hitems

theorem typesOf_insertSensor (hcol : ∀ s, col.same s s = true) (d : Database) (id type : String) :
    (d.apply col (.insertSensor id type)).typesOf col id = d.typesOf col id ++ [type] := by
  rw [typesOf_eq, typesOf_eq]
  simp [Database.sensorKeys, Database.apply, hcol]

section OnlyIf

variable [Jdk]

theorem restores_updateMysql (hcol : ∀ s, col.same s s = true)
    (h : Mirrored col (fun _ => True) s)
    (hl : Lists col (s.takeMysqlFields.draw (Screen.updateNodeSelects col))) :
    Restores col (.press .wsnGeneralUpdateMysqlAddressButton) s := by
  refine ⟨?_, items_nil_of_lists (s := s.takeMysqlFields) hcol hl⟩
  have hshown := Screen.updateNodeSelects_shows (d := s.takeMysqlFields.database) hcol s.screen
  have hitems : _ = s.takeMysqlFields.database.actuatorIds := hl .actuatorActuatorComboBox
  rw [← hitems, Desk.draw_screen]
  refine (congrArg Combo.items (hshown.within.combo _ (by exact id))).trans ?_
  exact (h .actuatorActuatorComboBox trivial).items

theorem restores_saveMysql (h : Mirrored col (fun _ => True) s)
    (hl : Lists col s.takeMysqlFields) :
    Restores col (.press .wsnGeneralSaveMysqlDetailsButton) s := by
  have hsame : ∀ b, s.screen.contents col s.takeMysqlFields.database b =
      s.screen.contents col s.database b := fun b => (hl b).symm.trans (h b trivial).items
  refine ⟨hsame .wsnGeneralNodeComboBox, hsame .actuatorActuatorComboBox, fun id hid => ?_⟩
  have htypes := hsame .wsnSensorsSensorsComboBox
  rwa [Screen.contents_sensors_some hid, Screen.contents_sensors_some hid] at htypes

theorem restores_removeNode (hcol : ∀ s, col.same s s = true)
    (hl : Lists col (s.removeNode col (s.screen.selected .wsnGeneralRemoveNodeComboBox)).2) :
    Restores col (.press .wsnGeneralRemoveNodeButton) s := by
  intro hgoes hall
  rw [Desk.removeNode, if_neg hgoes] at hl
  dsimp only [Desk.done] at hl
  have hitems := items_nil_of_lists hcol hl
  refine hitems ?_
  rw [Desk.setSelected_database, Desk.update_database, Desk.update_database]
  exact List.filter_eq_nil_iff.mpr fun r hr => by simp [hall r hr]

theorem restores_manualSensorAdd (hcol : ∀ s, col.same s s = true)
    (h : Mirrored col (fun _ => True) s) (hl : Lists col (s.manualSensorAdd col).2) :
    Restores col (.press .wsnSensorsManualAddSensorButton) s := by
  intro hnew l hlist
  have hinserted : ∀ node type, (s.database.apply col (.insertSensor node type)).typesOf col node =
      s.database.typesOf col node ++ [type] := typesOf_insertSensor hcol s.database
  cases hremoved : removeEntry s.typedSensor l with
  | error e =>
    rw [Desk.manualSensorAdd_throws hnew hlist hremoved] at hl
    refine iff_of_false ?_ (by simp [Except.isOk, Except.toBool])
    rw [not_not]
    by_contra hsome
    -- The row is in the table, and is not in the box.
    obtain ⟨node, hnode⟩ := Option.ne_none_iff_exists'.mp hsome
    have hbefore := (h .wsnSensorsSensorsComboBox trivial).items
    have hafter := hl .wsnSensorsSensorsComboBox
    rw [Screen.contents_sensors_some hnode] at hbefore
    rw [Desk.throws, Desk.update_database, Desk.update_screen, Screen.contents_sensors_some hnode,
      hbefore, hnode, spell_some, hinserted] at hafter
    simp at hafter
  | ok rest =>
    rw [Desk.manualSensorAdd_added hnew hlist hremoved] at hl
    refine iff_of_true ?_ (by rfl)
    intro hnone
    -- The box lists the row, and should be empty.
    have htypes := typesOf_nil_of_lists (s := ({ s with ignoreSensorList := some rest } :
      Desk).update col (.insertSensor (spell (s.screen.selected .wsnSensorsNodeComboBox))
        (s.screen.text .wsnSensorsManualSensorAddType))) hl hnone
    rw [Desk.update_database] at htypes
    have := (hinserted _ _).symm.trans htypes
    simp at this

theorem restores_removeSensor
    (hl : Lists col (s.removeSensor col (s.screen.selected .wsnSensorsNodeComboBox)
      (s.screen.selected .wsnSensorsSensorsComboBox)).2) :
    Restores col (.press .wsnSensorsRemoveSensorButton) s := by
  intro hgoes hnone
  rw [Desk.removeSensor, if_neg hgoes] at hl
  dsimp only [Desk.done] at hl
  have htypes := typesOf_nil_of_lists hl hnone
  rw [Desk.setSelected_database, Desk.update_database, hnone] at htypes
  exact htypes

/-- **Step**, the other way. -/
theorem Mirrored.restores_of_lists (hcol : ∀ s, col.same s s = true)
    (h : Mirrored col (fun _ => True) s) {a : Action} (hl : Lists col (s.act col a).2) :
    Restores col a s := by
  cases a with
  | press b =>
    cases b with
    | wsnGeneralUpdateMysqlAddressButton => exact restores_updateMysql hcol h hl
    | wsnGeneralSaveMysqlDetailsButton => exact restores_saveMysql h hl
    | wsnGeneralRemoveNodeButton => exact restores_removeNode hcol hl
    | wsnSensorsManualAddSensorButton => exact restores_manualSensorAdd hcol h hl
    | wsnSensorsRemoveSensorButton => exact restores_removeSensor hl
    | _ => trivial
  | _ => trivial

end OnlyIf

/-! ## Sessions -/

section Sessions

variable [Jdk]

/-- The action of the turn restores the boxes. -/
def RestoresAll (col : Collation) (t : PanelTurn) : Prop :=
  ∀ s ∈ t.before.desk, Restores col t.action s

instance (t : PanelTurn) : Decidable (RestoresAll col t) :=
  inferInstanceAs (Decidable (∀ s ∈ t.before.desk, _))

/-- Some desk lies before the operator, and its boxes list what they should. -/
def InOrder (col : Collation) (w : World) : Prop :=
  ∃ s, w.desk = some s ∧ Mirrored col (fun _ => True) s

/-- **Step** of a session. -/
theorem InOrder.turn {t : PanelTurn} (hcol : ∀ s, col.same s s = true)
    (h : InOrder col t.before)
    (hrun : Runs (under col httpFault) t.action.program t.before t.trace t.outcome t.after) :
    (Mirrors col t.after ↔ RestoresAll col t) ∧ (RestoresAll col t → InOrder col t.after) := by
  obtain ⟨s, hs, hmirrored⟩ := h
  have hdesk := (left_of_runs hcol hs hrun).2
  have hafter : RestoresAll col t → Mirrored col (fun _ => True) (s.act col t.action).2 :=
    fun hr => hmirrored.act_of_restores hcol (hr s hs)
  refine ⟨?_, fun hr => ⟨_, hdesk, hafter hr⟩⟩
  rw [mirrors_iff hdesk]
  constructor
  · intro hl s' hs'
    obtain rfl := Option.some_inj.mp (hs.symm.trans hs')
    exact hmirrored.restores_of_lists hcol hl
  · exact fun hr => (hafter hr).lists

theorem inOrder_startUp {servers : String → Database} {details : Option String} {w : World}
    {l : List (Event calls World)} (hcol : ∀ s, col.same s s = true)
    (hstart : Runs (under col httpFault) startUp (.launched servers details) l (.ok ()) w)
    (haddress : w.mysql .mysqlAddress ≠ none) : InOrder col w := by
  obtain ⟨s, hs⟩ := desk_ne_none haddress
  exact ⟨s, hs, (hstart.outcome_of_wp wp_startUp_desk s hs).mirrored hcol⟩

/-- **The selection lists.** Take a start-up that found an address, and a session after it in which
no database call fails. Every box lists what it should after every turn, if and only if every turn
refills the boxes whose contents it changes. -/
theorem session_mirrors_iff {servers : String → Database} {details : Option String} {w₀ w : World}
    {l : List (Event calls World)} {ts : List PanelTurn} (hcol : ∀ s, col.same s s = true)
    (hstart : Runs (under col httpFault) startUp (.launched servers details) l (.ok ()) w₀)
    (haddress : w₀.mysql .mysqlAddress ≠ none)
    (h : Session (under col httpFault) Action.program w₀ ts w) :
    (∀ t ∈ ts, Mirrors col t.after) ↔ ∀ t ∈ ts, RestoresAll col t := by
  have hstarted := inOrder_startUp hcol hstart haddress
  constructor
  · intro hmirrors
    refine (h.invariant (I := fun ts w => InOrder col w ∧ ∀ t ∈ ts, RestoresAll col t)
      (C := fun t => Mirrors col t.after) hmirrors ⟨hstarted, by simp⟩ ?_).2
    intro ts t hw hmirrored hrun
    obtain ⟨hiff, hafter⟩ := hw.1.turn hcol hrun
    refine ⟨hafter (hiff.mp hmirrored), ?_⟩
    simpa [or_imp, forall_and] using ⟨hw.2, hiff.mp hmirrored⟩
  · intro hrestores
    refine (h.invariant (I := fun ts w => InOrder col w ∧ ∀ t ∈ ts, Mirrors col t.after)
      (C := RestoresAll col) hrestores ⟨hstarted, by simp⟩ ?_).2
    intro ts t hw hr hrun
    obtain ⟨hiff, hafter⟩ := hw.1.turn hcol hrun
    refine ⟨hafter hr, ?_⟩
    simpa [or_imp, forall_and] using ⟨hw.2, hiff.mpr hr⟩

end Sessions

/-! ## The last node goes -/

/-- Add a node with a sensor, and remove the node. -/
def removeLastNode : List Action := addSensorOfNode ++ [.press .wsnGeneralRemoveNodeButton]

/-- No node is selected any more, and the box still lists the sensor. -/
theorem not_always_mirrors : ¬ ∀ (jdk : Jdk) (col : Collation) (servers : String → Database)
    (details : Option String) (w₀ w : World) (l : List (Event calls World)) (ts : List PanelTurn),
    (∀ s, col.same s s = true) →
    Runs (under col httpFault) startUp (.launched servers details) l (.ok ()) w₀ →
    w₀.mysql .mysqlAddress ≠ none →
    Session (under col httpFault) (@Action.program jdk) w₀ ts w →
    ∀ t ∈ ts, Mirrors col t.after := by
  intro h
  have hmirrors := h plainJdk .exact _ _ _ _ _ _ (by simp) runs_emptyStart (by decide +kernel)
    (session_windowTurns removeLastNode)
  have hsensors : ∀ t ∈ windowTurns removeLastNode,
      (t.after.combo .wsnSensorsSensorsComboBox).items =
        t.after.screen.contents .exact t.after.database .wsnSensorsSensorsComboBox :=
    fun t ht => hmirrors t ht _
  revert hsensors
  decide +kernel

/-- Readings add a node and two sensors, the details are saved as they are, and node and sensors
are removed, the sensors first. -/
def comeAndGo : List Action :=
  [.tick .wsnGeneralAutoAddCheck true, .tick .wsnSensorsAutoAddCheck true,
    .reading "1" "light" 5, .reading "1" "light" 6, .reading "1" "temp" 7,
    .typeText .wsnGeneralMysqlAddressField "db", .press .wsnGeneralSaveMysqlDetailsButton,
    .press .wsnSensorsRemoveSensorButton, .press .wsnSensorsRemoveSensorButton,
    .press .wsnGeneralRemoveNodeButton]

/-- Every one of these turns restores the boxes. -/
theorem comeAndGo_mirrors : (∀ t ∈ windowTurns comeAndGo, Mirrors .exact t.after) ∧
    (windowTurns comeAndGo).length = comeAndGo.length :=
  ⟨(@session_mirrors_iff .exact plainJdk _ _ _ _ _ _ (by simp) runs_emptyStart
    (by decide +kernel) (session_windowTurns comeAndGo)).mpr (by decide +kernel),
    by decide +kernel⟩

end CrossingReality
