import CrossingReality.Abstraction
import CrossingReality.Repainting

/-!
# The boxes mirror the tables

What the six combo boxes should list is a function of the tables and of the node selected on the
sensors tab. Over a session in which no database call fails, the boxes list just that, as long as
each turn keeps off the few paths that forget one of them (`KeepsTables`, `KeepsSensors`).

* `Mirrored` — the invariant, for the boxes one asks about.
* `session_mirrored` — sessions from a start-up that went well.
-/

namespace CrossingReality

open Effects

variable {col : Collation} {d d' : Database} {s s' : Desk} {B : ComboBox → Prop}

/-! ## What the boxes should list -/

/-- The box lists `l`; something is selected if it can be, and only from the list. -/
structure Combo.Holds (c : Combo) (l : List String) : Prop where
  items : c.items = l
  selected : l ≠ [] → c.selected ≠ none
  mem : ∀ i, c.selected = some i → i ∈ l

theorem Combo.holds_filled (l : List String) : (filled l).Holds l := by
  refine ⟨rfl, fun hl => ?_, fun i hi => List.mem_of_mem_head? hi⟩
  cases l with
  | nil => exact absurd rfl hl
  | cons i l => exact Option.some_ne_none i

theorem Combo.Holds.setSelectedItem {c : Combo} {l : List String} (h : c.Holds l) (i : String) :
    (c.setSelectedItem i).Holds l := by
  unfold Combo.setSelectedItem
  split
  · refine ⟨h.items, fun _ => Option.some_ne_none i, fun j hj => ?_⟩
    obtain rfl := Option.some_inj.mp hj
    exact h.items ▸ ‹_›
  · exact h

theorem Combo.Holds.of_items {c : Combo} {l : List String} (h : c.Holds l) (hc : c.items = []) :
    c.Holds [] := by
  obtain rfl : l = [] := h.items.symm.trans hc
  exact h

namespace Screen

/-- What a box should list. -/
def contents (col : Collation) (d : Database) (s : Screen) : ComboBox → List String
  | .wsnGeneralNodeComboBox | .wsnGeneralRemoveNodeComboBox | .wsnSensorsNodeComboBox => d.nodeIds
  | .wsnSensorsSensorsComboBox =>
    match s.selected .wsnSensorsNodeComboBox with
    | none => []
    | some id => d.typesOf col id
  | .actuatorActuatorComboBox | .actuatorRemoveActuatorComboBox => d.actuatorIds

/-- The box lists what it should. -/
def Shows (col : Collation) (d : Database) (s : Screen) (b : ComboBox) : Prop :=
  (s.combo b).Holds (s.contents col d b)

theorem contents_sensors_none {s : Screen} (h : s.selected .wsnSensorsNodeComboBox = none) :
    s.contents col d .wsnSensorsSensorsComboBox = [] := by
  rw [contents, h]

theorem contents_sensors_some {s : Screen} {id : String}
    (h : s.selected .wsnSensorsNodeComboBox = some id) :
    s.contents col d .wsnSensorsSensorsComboBox = d.typesOf col id := by
  rw [contents, h]

end Screen

/-- The boxes in `B` list what they should. -/
def Mirrored (col : Collation) (B : ComboBox → Prop) (s : Desk) : Prop :=
  ∀ b, B b → s.screen.Shows col s.database b

/-- The two databases fill every box alike. -/
structure SameLists (col : Collation) (d d' : Database) : Prop where
  nodeIds : d'.nodeIds = d.nodeIds
  actuatorIds : d'.actuatorIds = d.actuatorIds
  typesOf : ∀ id, d'.typesOf col id = d.typesOf col id

/-- What a box should list depends on one column of the tables. -/
theorem contents_eq {b : ComboBox} (hn : d'.nodeIds = d.nodeIds)
    (ha : b.showsActuators → d'.actuatorIds = d.actuatorIds)
    (ht : b = .wsnSensorsSensorsComboBox → ∀ id, d'.typesOf col id = d.typesOf col id)
    (w : Screen) : w.contents col d' b = w.contents col d b := by
  cases b with
  | wsnSensorsSensorsComboBox =>
    cases hselected : w.selected .wsnSensorsNodeComboBox with
    | none => rw [Screen.contents_sensors_none hselected, Screen.contents_sensors_none hselected]
    | some id =>
      rw [Screen.contents_sensors_some hselected, Screen.contents_sensors_some hselected, ht rfl]
  | actuatorActuatorComboBox | actuatorRemoveActuatorComboBox => exact ha trivial
  | _ => exact hn

/-- Only the node on the sensors tab decides what the boxes should list. -/
theorem contents_congr {w w' : Screen}
    (h : w'.selected .wsnSensorsNodeComboBox = w.selected .wsnSensorsNodeComboBox) (b : ComboBox) :
    w'.contents col d b = w.contents col d b := by
  cases b with
  | wsnSensorsSensorsComboBox => rw [Screen.contents, h, Screen.contents]
  | _ => rfl

theorem contents_of_ne {b : ComboBox} (hb : b ≠ .wsnSensorsSensorsComboBox) (w w' : Screen) :
    w'.contents col d b = w.contents col d b := by
  cases b with
  | wsnSensorsSensorsComboBox => exact absurd rfl hb
  | _ => rfl

theorem Mirrored.actuators {b : ComboBox} (h : Mirrored col B s) (hb : b.showsActuators)
    (hB : B b) : (s.screen.combo b).Holds s.database.actuatorIds := by
  cases b with
  | actuatorActuatorComboBox | actuatorRemoveActuatorComboBox => exact h _ hB
  | _ => exact hb.elim

theorem Mirrored.setText (h : Mirrored col B s) (f : TextField) (v : String) :
    Mirrored col B (s.setText f v) := h

/-- A turn that changes neither the lists nor the boxes. -/
theorem Mirrored.congr (h : Mirrored col B s) (hd : SameLists col s.database s'.database)
    (hc : s'.screen.combo = s.screen.combo) : Mirrored col B s' := by
  intro b hb
  have hselected : s'.screen.selected .wsnSensorsNodeComboBox =
      s.screen.selected .wsnSensorsNodeComboBox := by
    rw [Screen.selected, hc, Screen.selected]
  rw [Screen.Shows, hc, contents_congr hselected,
    contents_eq hd.nodeIds (fun _ => hd.actuatorIds) fun _ => hd.typesOf]
  exact h b hb

theorem sameLists_setNodeAddress (address id : String) :
    SameLists col d (d.apply col (.setNodeAddress address id)) :=
  ⟨nodeIds_setNodeAddress d address id, rfl, fun _ => rfl⟩

theorem sameLists_setActuatorAddress (address id : String) :
    SameLists col d (d.apply col (.setActuatorAddress address id)) := by
  refine ⟨rfl, ?_, fun _ => rfl⟩
  simp only [Database.actuatorIds, Database.apply, List.map_map]
  refine List.map_congr_left fun r _ => ?_
  simp only [Function.comp]
  split <;> rfl

/-- The types registered for a node, by the keys of the table. -/
theorem typesOf_eq (id : String) : d.typesOf col id =
    (d.sensorKeys.filter fun k => col.same k.1 id).map Prod.snd := by
  rw [Database.typesOf, Query.run, Database.sensorKeys, List.filter_map, List.map_map]
  rfl

theorem sameLists_mapBounds (id type : String) (f : Bounds → Bounds) :
    SameLists col d (d.mapBounds col id type f) := by
  refine ⟨rfl, rfl, fun _ => ?_⟩
  rw [typesOf_eq, typesOf_eq, Database.mapBounds_sensorKeys]

/-! ## Refills -/

theorem mirrored_updateNodeSelects (hcol : ∀ s, col.same s s = true)
    (hactuators : ∀ b, b.showsActuators → B b → (s.screen.combo b).Holds s.database.actuatorIds)
    (hsensors : B .wsnSensorsSensorsComboBox → s.database.nodeIds = [] →
      (s.screen.combo .wsnSensorsSensorsComboBox).Holds []) :
    Mirrored col B (s.draw (Screen.updateNodeSelects col)) := by
  have hshown := Screen.updateNodeSelects_shows (d := s.database) hcol s.screen
  have hselected : (s.screen.updateNodeSelects col s.database).selected .wsnSensorsNodeComboBox =
      s.database.nodeIds.head? := by
    rw [Screen.selected, hshown.sensorsNode]
    rfl
  intro b hb
  rw [Screen.Shows, Desk.draw_screen, Desk.draw_database]
  cases b with
  | wsnGeneralNodeComboBox =>
    rw [hshown.general]
    exact Combo.holds_filled _
  | wsnGeneralRemoveNodeComboBox =>
    rw [hshown.remove]
    exact Combo.holds_filled _
  | wsnSensorsNodeComboBox =>
    rw [hshown.sensorsNode]
    exact Combo.holds_filled _
  | wsnSensorsSensorsComboBox =>
    cases hhead : s.database.nodeIds.head? with
    | none =>
      have hnil := List.head?_eq_none_iff.mp hhead
      rw [(hshown.none hnil).1, Screen.contents_sensors_none (hselected.trans hhead)]
      exact hsensors hb hnil
    | some i =>
      rw [(hshown.first i hhead).1, Screen.contents_sensors_some (hselected.trans hhead)]
      exact Combo.holds_filled _
  | actuatorActuatorComboBox | actuatorRemoveActuatorComboBox =>
    rw [hshown.within.combo _ (by exact id)]
    exact hactuators _ trivial hb

theorem mirrored_updateActuatorsSelects
    (h : ∀ b, ¬ b.showsActuators → B b → s.screen.Shows col s.database b) :
    Mirrored col B (s.draw (Screen.updateActuatorsSelects col)) := by
  have hshown : Screen.ActuatorsShown col s.database s.screen _ :=
    Screen.updateActuatorsSelects_shows s.screen
  have hkept : ∀ b, ¬ b.showsActuators → B b →
      (s.screen.updateActuatorsSelects col s.database).Shows col s.database b := by
    intro b hb hB
    have hselected : (s.screen.updateActuatorsSelects col s.database).selected
        .wsnSensorsNodeComboBox = s.screen.selected .wsnSensorsNodeComboBox := by
      rw [Screen.selected, hshown.within.combo _ (by exact id), Screen.selected]
    rw [Screen.Shows, hshown.within.combo b hb, contents_congr hselected]
    exact h b hb hB
  intro b hb
  cases b with
  | actuatorActuatorComboBox =>
    rw [Screen.Shows, Desk.draw_screen, hshown.actuator]
    exact Combo.holds_filled _
  | actuatorRemoveActuatorComboBox =>
    rw [Screen.Shows, Desk.draw_screen, hshown.remove]
    exact Combo.holds_filled _
  | _ => exact hkept _ id hb

theorem mirrored_updateSensorsSelect (id : Option String)
    (h : ∀ b, b ≠ .wsnSensorsSensorsComboBox → B b → s.screen.Shows col s.database b)
    (hid : B .wsnSensorsSensorsComboBox → s.database.typesOf col (spell id) =
      s.screen.contents col s.database .wsnSensorsSensorsComboBox) :
    Mirrored col B (s.draw fun d => Screen.updateSensorsSelect col d id) := by
  have hwithin : Screen.Within _ _ s.screen (s.screen.updateSensorsSelect col s.database id) :=
    Screen.within_updateSensorsSelect id s.screen
  have hselected : (s.screen.updateSensorsSelect col s.database id).selected
      .wsnSensorsNodeComboBox = s.screen.selected .wsnSensorsNodeComboBox := by
    rw [Screen.selected, hwithin.combo _ (by simp), Screen.selected]
  intro b hb
  rw [Screen.Shows, Desk.draw_screen, Desk.draw_database, contents_congr hselected]
  by_cases hbox : b = .wsnSensorsSensorsComboBox
  · subst hbox
    rw [Screen.updateSensorsSelect_combo, ← hid hb]
    exact Combo.holds_filled _
  · rw [hwithin.combo b hbox]
    exact h b hbox hb

/-! ## Selections -/

theorem Combo.itemEvents_eq_zero {o o' : Option String} : Combo.itemEvents o o' = 0 ↔ o = o' := by
  unfold itemEvents
  split
  · exact iff_of_true rfl ‹_›
  · refine iff_of_false ?_ ‹_›
    cases o <;> cases o' <;> simp_all

/-- Picking another item runs the listener of the box at least once. -/
theorem selectItem_listens (col : Collation) (d : Database) {w : Screen} {b : ComboBox} {i : String}
    (hi : i ∈ (w.combo b).items) (hne : w.selected b ≠ some i) :
    ∃ e, Screen.Within (Screen.writtenBy b) (listens b)
        (w.setCombo b ((w.combo b).setSelectedItem i)) e ∧ e.selected b = some i ∧
      w.selectItem col d b i = e.itemStateChanged col d b := by
  have hpicked : ((w.combo b).setSelectedItem i).selected = some i := by
    rw [Combo.setSelectedItem, if_pos hi]
  obtain ⟨n, hn⟩ : ∃ n, Combo.itemEvents (w.selected b)
      ((w.combo b).setSelectedItem i).selected = n + 1 := by
    refine Nat.exists_eq_succ_of_ne_zero fun h => hne ?_
    rw [Combo.itemEvents_eq_zero.mp h, hpicked]
  have hlistened : Screen.Within (Screen.writtenBy b) (listens b)
      (w.setCombo b ((w.combo b).setSelectedItem i))
      ((Screen.itemStateChanged col d b)^[n] (w.setCombo b ((w.combo b).setSelectedItem i))) :=
    Screen.Within.iterate (Screen.within_itemStateChanged b) n _
  refine ⟨_, hlistened, ?_, ?_⟩
  · rw [Screen.selected, hlistened.combo _ (not_listens_self b), Screen.setCombo_combo_self,
      hpicked]
  · rw [Screen.selectItem, Screen.changeCombo, hn, Function.iterate_succ_apply']

theorem selectItem_sensorsNode {w : Screen} {i : String} {a : Option String}
    (hi : i ∈ (w.combo .wsnSensorsNodeComboBox).items)
    (hne : w.selected .wsnSensorsNodeComboBox ≠ some i) (ha : d.nodeAddress col i = some a) :
    ∃ e : Screen, w.selectItem col d .wsnSensorsNodeComboBox i =
      ((e.setText .wsnSensorsNodeAddressField (a.getD "")).showBounds col d i
        (spell (d.typesOf col i).head?)).setCombo .wsnSensorsSensorsComboBox
          (.filled (d.typesOf col i)) := by
  obtain ⟨e, -, hselected, heq⟩ := selectItem_listens col d hi hne
  exact ⟨e, heq.trans (Screen.wsnSensorsNodeChanged_eq hselected ha)⟩

/-- Picking an item that is not there, or that is picked already, changes nothing. -/
theorem selectItem_same {w : Screen} {b : ComboBox} {i : String}
    (h : i ∈ (w.combo b).items → w.selected b = some i) : w.selectItem col d b i = w := by
  have hkept : (w.combo b).setSelectedItem i = w.combo b := by
    unfold Combo.setSelectedItem
    split
    · rw [← h ‹_›]
      rfl
    · rfl
  rw [Screen.selectItem, Screen.changeCombo, hkept, Screen.selected, Screen.itemEvents_self,
    Screen.setCombo_self]
  rfl

/-- Picking an item changes its box, and what the listener of the box writes. -/
theorem within_selectItem (b : ComboBox) (i : String) (w : Screen) :
    Screen.Within (Screen.writtenBy b) (listens b)
      (w.setCombo b ((w.combo b).setSelectedItem i)) (w.selectItem col d b i) :=
  Screen.Within.iterate (Screen.within_itemStateChanged b) _ _

theorem mirrored_selectItem (hcol : ∀ s, col.same s s = true) (b : ComboBox) (i : String)
    (h : Mirrored col B s) (hB : ∀ b, b ≠ .wsnSensorsSensorsComboBox → B b) :
    Mirrored col B (s.draw fun d => Screen.selectItem col d b i) := by
  by_cases hsame : i ∈ (s.screen.combo b).items → s.screen.selected b = some i
  · have hdraw : (s.draw fun d => Screen.selectItem col d b i) = s := by
      rw [Desk.draw, selectItem_same hsame]
    rw [hdraw]
    exact h
  obtain ⟨hi, hne⟩ := Classical.not_imp.mp hsame
  have hwithin : Screen.Within _ _ _ (s.screen.selectItem col s.database b i) :=
    within_selectItem b i s.screen
  -- The box itself keeps its list.
  have hself : ((s.screen.selectItem col s.database b i).combo b) =
      (s.screen.combo b).setSelectedItem i := by
    rw [hwithin.combo b (not_listens_self b), Screen.setCombo_combo_self]
  have hother : ∀ b', b' ≠ b → ¬ listens b b' →
      (s.screen.selectItem col s.database b i).combo b' = s.screen.combo b' := by
    intro b' hb' hl
    rw [hwithin.combo b' hl, Screen.setCombo_combo_of_ne _ _ hb']
  have hkept : ∀ b', B b' → ¬ listens b b' →
      ((s.screen.selectItem col s.database b i).combo b').Holds
        (s.screen.contents col s.database b') := by
    intro b' hb' hl
    by_cases hbb : b' = b
    · subst hbb
      rw [hself]
      exact (h b' hb').setSelectedItem i
    · rw [hother b' hbb hl]
      exact h b' hb'
  intro b' hb'
  rw [Screen.Shows, Desk.draw_screen, Desk.draw_database]
  by_cases hnode : b = .wsnSensorsNodeComboBox
  · subst hnode
    by_cases hsensors : b' = .wsnSensorsSensorsComboBox
    · subst hsensors
      have hlisted := (h .wsnSensorsNodeComboBox (hB _ (by simp))).items
      have hmem : i ∈ s.database.nodeIds := by rwa [hlisted] at hi
      obtain ⟨a, ha⟩ := Database.nodeAddress_of_mem hcol hmem
      obtain ⟨e, heq⟩ := selectItem_sensorsNode hi hne ha
      have hselected : (s.screen.selectItem col s.database .wsnSensorsNodeComboBox i).selected
          .wsnSensorsNodeComboBox = some i := by
        rw [Screen.selected, hself, Combo.setSelectedItem, if_pos hi]
      rw [Screen.contents_sensors_some hselected, heq, Screen.setCombo_combo_self]
      exact Combo.holds_filled _
    · rw [contents_of_ne hsensors s.screen]
      exact hkept b' hb' fun hl => hsensors hl.2
  · have hselected : (s.screen.selectItem col s.database b i).selected .wsnSensorsNodeComboBox =
        s.screen.selected .wsnSensorsNodeComboBox := by
      rw [Screen.selected, hother _ (Ne.symm hnode) fun hl => hnode hl.1, Screen.selected]
    rw [contents_congr hselected]
    exact hkept b' hb' fun hl => hnode hl.1

/-! ## Methods -/

namespace Mirrored

theorem addNode (hcol : ∀ s, col.same s s = true) (h : Mirrored col B s) (id : String)
    (address : Option String) : Mirrored col B (s.addNode col id address) := by
  refine mirrored_updateNodeSelects hcol (fun b hb hBb => ?_) fun _ hnil => ?_
  · rw [Desk.update_database]
    exact h.actuators hb hBb
  · have hnodes : (s.update col (.insertNode id address)).database.nodeIds =
        s.database.nodeIds ++ [id] := by
      rw [Desk.update_database]
      exact List.map_append
    rw [hnodes] at hnil
    simp at hnil

/-- The row may belong to any node, as long as one is selected. -/
theorem addSensor (h : Mirrored col B s) (id type : String)
    (hselected : B .wsnSensorsSensorsComboBox →
      s.screen.selected .wsnSensorsNodeComboBox ≠ none) :
    Mirrored col B (s.addSensor col id type) := by
  refine mirrored_updateSensorsSelect (s := s.update col (.insertSensor id type)) _
    (fun b hb hBb => ?_) fun hBb => ?_
  · have hcontents : s.screen.contents col (s.database.apply col (.insertSensor id type)) b =
        s.screen.contents col s.database b :=
      contents_eq (by rfl) (fun _ => by rfl) (fun h => absurd h hb) _
    rw [Screen.Shows, Desk.update_database, Desk.update_screen, hcontents]
    exact h b hBb
  · obtain ⟨n, hn⟩ := Option.ne_none_iff_exists'.mp (hselected hBb)
    rw [Desk.update_screen, hn, Screen.contents_sensors_some hn]
    rfl

/-- If there is a node, one is selected on the sensors tab. -/
theorem selected_of_hasNode {id : String} (h : Mirrored col B s)
    (hB : ∀ b, b ≠ .wsnSensorsSensorsComboBox → B b) (hnode : s.database.hasNode col id) :
    s.screen.selected .wsnSensorsNodeComboBox ≠ none := by
  refine (h .wsnSensorsNodeComboBox (hB _ (by simp))).selected fun hnil => ?_
  obtain ⟨r, hr, -⟩ := hnode
  have hmem : r.id ∈ s.database.nodeIds := List.mem_map_of_mem hr
  rw [show s.database.nodeIds = [] from hnil] at hmem
  cases hmem

section Readings

variable [Jdk] {id type : String} {value : Int32}

theorem showBound_combo (fields : List TextField) (w : Screen) :
    (w.showBound id type value fields).combo = w.combo := by
  have hfields : (fields.foldl (fun s f => s.setText f (toString value.toInt)) w).combo =
      w.combo := by
    induction fields generalizing w with
    | nil => rfl
    | cons f fields ih => exact ih _
  unfold Screen.showBound
  split
  · exact hfields
  · rfl

theorem calibrateIfTicked_combo :
    (s.calibrateIfTicked col id type value).screen.combo = s.screen.combo := by
  have hfold : ∀ us : List Update,
      (us.foldl (Desk.writeShown col id type value) s).screen.combo = s.screen.combo := by
    intro us
    induction us generalizing s with
    | nil => rfl
    | cons u us ih => exact ih.trans (showBound_combo _ _)
  unfold Desk.calibrateIfTicked
  split
  · split
    · rfl
    · exact hfold _
  · rfl

theorem sensed (hcol : ∀ s, col.same s s = true) (h : Mirrored col B s)
    (hB : ∀ b, b ≠ .wsnSensorsSensorsComboBox → B b) :
    Mirrored col B (s.sensed col id type value).2 := by
  unfold Desk.sensed
  split
  · split
    · obtain ⟨f, hf⟩ := Desk.calibrateIfTicked_database col id type value s
      have hlists : SameLists col s.database (s.calibrateIfTicked col id type value).database :=
        hf ▸ sameLists_mapBounds id type f
      exact h.congr hlists calibrateIfTicked_combo
    · unfold Desk.unrecognisedSensor
      split
      · split
        · exact h
        · split
          · exact h
          · exact h
          · exact h.addSensor id type fun _ => h.selected_of_hasNode hB ‹_›
      · exact h
  · unfold Desk.unrecognisedNode
    split
    · split
      · exact h
      · split
        · exact h
        · exact h.addNode hcol id none
    · exact h

end Readings

/-! ## Turns that forget a box -/

end Mirrored

/-- Only the two buttons for the MySQL details can leave the boxes of the nodes and the actuators
behind: *Update* refills those of the nodes alone, and *Save* refills none. -/
def KeepsTables (a : Action) (s : Desk) : Prop :=
  match a with
  | .press .wsnGeneralUpdateMysqlAddressButton =>
    s.takeMysqlFields.database.actuatorIds = s.database.actuatorIds
  | .press .wsnGeneralSaveMysqlDetailsButton =>
    s.takeMysqlFields.database.nodeIds = s.database.nodeIds ∧
      s.takeMysqlFields.database.actuatorIds = s.database.actuatorIds
  | _ => True

/-- The turn does not leave the box of the sensors behind. -/
def KeepsSensors [Jdk] (col : Collation) (a : Action) (s : Desk) : Prop :=
  match a with
  | .press .wsnGeneralUpdateMysqlAddressButton => s.takeMysqlFields.database.nodes = [] →
    (s.screen.combo .wsnSensorsSensorsComboBox).items = []
  | .press .wsnGeneralSaveMysqlDetailsButton =>
    ∀ id ∈ s.screen.selected .wsnSensorsNodeComboBox,
      s.takeMysqlFields.database.typesOf col id = s.database.typesOf col id
  -- Nothing refills the box when the last node goes.
  | .press .wsnGeneralRemoveNodeButton =>
    (∀ r ∈ s.database.nodes,
      col.same r.id (spell (s.screen.selected .wsnGeneralRemoveNodeComboBox)) = true) →
    (s.screen.combo .wsnSensorsSensorsComboBox).items = []
  -- With no node selected the box lists the types of the node `null`, and an entry of the ignore
  -- list without a string stops the method before the refill.
  | .press .wsnSensorsManualAddSensorButton => s.newSensor col → ∀ l ∈ s.ignoreSensorList,
    s.screen.selected .wsnSensorsNodeComboBox ≠ none ∧ (removeEntry s.typedSensor l).isOk = true
  | .press .wsnSensorsRemoveSensorButton => s.screen.selected .wsnSensorsNodeComboBox = none →
    (s.database.apply col (.deleteSensor "null"
      (spell (s.screen.selected .wsnSensorsSensorsComboBox)))).typesOf col "null" = []
  | _ => True

instance (a : Action) (s : Desk) : Decidable (KeepsTables a s) :=
  match a with
  | .press .wsnGeneralUpdateMysqlAddressButton => inferInstanceAs (Decidable (_ = _))
  | .press .wsnGeneralSaveMysqlDetailsButton => inferInstanceAs (Decidable (_ ∧ _))
  | .press .wsnGeneralUpdateNodeAddressButton | .press .wsnGeneralManualNodeAddButton
  | .press .wsnGeneralRemoveNodeButton | .press .wsnSensorsManualAddSensorButton
  | .press .wsnSensorsRemoveSensorButton | .press .wsnSensorsCalibrateResetButton
  | .press .wsnGeneralRefreshNodeAddressButton | .press .actuatorManualActuatorAddButton
  | .press .actuatorUpdateActuatorAddressButton | .press .actuatorRefreshActuatorAddressButton
  | .press .actuatorRemoveActuatorButton => .isTrue trivial
  | .reading .. | .tick .. | .typeText .. | .select .. => .isTrue trivial

instance [Jdk] (col : Collation) (a : Action) (s : Desk) : Decidable (KeepsSensors col a s) :=
  match a with
  | .press .wsnGeneralUpdateMysqlAddressButton => inferInstanceAs (Decidable (_ = _ → _ = _))
  | .press .wsnGeneralSaveMysqlDetailsButton => inferInstanceAs (Decidable (∀ id ∈ _, _))
  | .press .wsnGeneralRemoveNodeButton => inferInstanceAs (Decidable ((∀ r ∈ _, _ = _) → _ = _))
  | .press .wsnSensorsManualAddSensorButton => inferInstanceAs (Decidable (_ → ∀ l ∈ _, _ ≠ _ ∧ _))
  | .press .wsnSensorsRemoveSensorButton => inferInstanceAs (Decidable (_ = _ → _ = _))
  | .press .wsnGeneralUpdateNodeAddressButton | .press .wsnGeneralManualNodeAddButton
  | .press .wsnSensorsCalibrateResetButton | .press .wsnGeneralRefreshNodeAddressButton
  | .press .actuatorManualActuatorAddButton | .press .actuatorUpdateActuatorAddressButton
  | .press .actuatorRefreshActuatorAddressButton
  | .press .actuatorRemoveActuatorButton => .isTrue trivial
  | .reading .. | .tick .. | .typeText .. | .select .. => .isTrue trivial

namespace Mirrored

section Buttons

variable [Jdk]

theorem manualNodeAdd (hcol : ∀ s, col.same s s = true) (h : Mirrored col B s) :
    Mirrored col B (s.manualNodeAdd col).2 := by
  unfold Desk.manualNodeAdd
  split
  · split
    · exact h
    · exact ((Mirrored.addNode hcol h _ _).setText _ _).setText _ _
  · exact h

theorem manualSensorAdd (h : Mirrored col B s)
    (hkeeps : B .wsnSensorsSensorsComboBox →
      KeepsSensors col (.press .wsnSensorsManualAddSensorButton) s) :
    Mirrored col B (s.manualSensorAdd col).2 := by
  unfold Desk.manualSensorAdd
  split
  · rename_i hnew
    split
    · exact h
    · rename_i l hl
      split
      · rename_i e he
        -- The row is in the table, but the box was not refilled.
        intro b hb
        have hne : b ≠ .wsnSensorsSensorsComboBox := by
          rintro rfl
          have hok := (hkeeps hb hnew l hl).2
          rw [he] at hok
          cases hok
        have hcontents : s.screen.contents col (s.database.apply col (.insertSensor
            (spell (s.screen.selected .wsnSensorsNodeComboBox))
              (s.screen.text .wsnSensorsManualSensorAddType))) b =
            s.screen.contents col s.database b :=
          contents_eq (by rfl) (fun _ => by rfl) (fun h => absurd h hne) _
        rw [Desk.throws, Screen.Shows, Desk.update_database, Desk.update_screen, hcontents]
        exact h b hb
      · rename_i rest hrest
        refine Mirrored.setText (Mirrored.addSensor ?_ _ _ fun hb => ?_) _ _
        · exact h
        · exact (hkeeps hb hnew l hl).1
  · exact h

theorem manualActuatorAdd (h : Mirrored col B s) : Mirrored col B (s.manualActuatorAdd col).2 := by
  unfold Desk.manualActuatorAdd
  split
  · refine mirrored_updateActuatorsSelects fun b hb hBb => ?_
    have hcontents : s.screen.contents col (s.database.apply col (.insertActuator
        (s.screen.text .actuatorManualActuatorAddId)
          (s.screen.text .actuatorManualActuatorAddAddress))) b =
        s.screen.contents col s.database b :=
      contents_eq (by rfl) (fun h => absurd h hb) (fun _ _ => by rfl) _
    rw [Screen.Shows, Desk.setText_database, Desk.setText_database, Desk.update_database]
    exact hcontents ▸ h b hBb
  · exact h

omit [Jdk] in
theorem removeActuator (h : Mirrored col B s) (id : Option String) :
    Mirrored col B (s.removeActuator col id).2 := by
  refine mirrored_updateActuatorsSelects fun b hb hBb => ?_
  have hcontents : s.screen.contents col (s.database.apply col (.deleteActuator (spell id))) b =
      s.screen.contents col s.database b :=
    contents_eq (by rfl) (fun h => absurd h hb) (fun _ _ => by rfl) _
  rw [Screen.Shows, Desk.update_database, Desk.update_screen, hcontents]
  exact h b hBb

theorem removeNode (hcol : ∀ s, col.same s s = true) (h : Mirrored col B s)
    (hkeeps : B .wsnSensorsSensorsComboBox →
      KeepsSensors col (.press .wsnGeneralRemoveNodeButton) s) :
    Mirrored col B
      (s.removeNode col (s.screen.selected .wsnGeneralRemoveNodeComboBox)).2 := by
  unfold Desk.removeNode
  split
  · exact h
  · refine mirrored_updateNodeSelects hcol (fun b hb hBb => ?_) fun hBb hnil => ?_
    · rw [Desk.setSelected_database, Desk.update_database, Desk.update_database]
      exact h.actuators hb hBb
    · refine (h _ hBb).of_items (hkeeps hBb fun r hr => ?_)
      rw [Desk.setSelected_database, Desk.update_database, Desk.update_database] at hnil
      by_contra hne
      have hnone : (s.database.nodes.filter fun r =>
          !col.same r.id (spell (s.screen.selected .wsnGeneralRemoveNodeComboBox))) = [] :=
        List.map_eq_nil_iff.mp hnil
      exact hne (by simpa using List.filter_eq_nil_iff.mp hnone r hr)

theorem removeSensor (h : Mirrored col B s) (hkeeps : B .wsnSensorsSensorsComboBox →
      KeepsSensors col (.press .wsnSensorsRemoveSensorButton) s) :
    Mirrored col B (s.removeSensor col (s.screen.selected .wsnSensorsNodeComboBox)
      (s.screen.selected .wsnSensorsSensorsComboBox)).2 := by
  unfold Desk.removeSensor
  split
  · exact h
  · refine mirrored_updateSensorsSelect _ (fun b hb hBb => ?_) fun hBb => ?_
    · have hcontents : s.screen.contents col (s.database.apply col (.deleteSensor
          (spell (s.screen.selected .wsnSensorsNodeComboBox))
            (spell (s.screen.selected .wsnSensorsSensorsComboBox)))) b =
          s.screen.contents col s.database b :=
        contents_eq (by rfl) (fun _ => by rfl) (fun h => absurd h hb) _
      rw [Screen.Shows, Desk.setSelected_database, Desk.update_database, Desk.setSelected_screen]
      exact hcontents ▸ h b hBb
    · rw [Desk.setSelected_database, Desk.update_database, Desk.setSelected_screen,
        Desk.update_screen]
      cases hselected : s.screen.selected .wsnSensorsNodeComboBox with
      | none =>
        rw [Screen.contents_sensors_none hselected]
        exact hkeeps hBb hselected
      | some id =>
        rw [Screen.contents_sensors_some hselected]
        rfl

theorem updateNodeAddress (h : Mirrored col B s) :
    Mirrored col B (s.updateNodeAddress col).2 := by
  unfold Desk.updateNodeAddress
  dsimp only
  split
  · refine h.congr ?_ rfl
    rw [Desk.done, Desk.setText_database, Desk.update_database]
    exact sameLists_setNodeAddress _ _
  · exact h

theorem updateActuatorAddress (h : Mirrored col B s) :
    Mirrored col B (s.updateActuatorAddress col).2 := by
  unfold Desk.updateActuatorAddress
  dsimp only
  split
  · refine h.congr ?_ rfl
    rw [Desk.done, Desk.setText_database, Desk.update_database]
    exact sameLists_setActuatorAddress _ _
  · exact h

omit [Jdk] in
theorem calibrateReset (h : Mirrored col B s) : Mirrored col B (s.calibrateReset col).2 := by
  refine h.congr ?_ rfl
  rw [Desk.calibrateReset, Desk.done, Desk.setText_database, Desk.setText_database,
    Desk.update_database, Database.apply_resetBounds]
  exact sameLists_mapBounds _ _ _

theorem updateMysql (hcol : ∀ s, col.same s s = true) (h : Mirrored col B s)
    (htables : KeepsTables (.press .wsnGeneralUpdateMysqlAddressButton) s)
    (hsensors : B .wsnSensorsSensorsComboBox →
      KeepsSensors col (.press .wsnGeneralUpdateMysqlAddressButton) s) :
    Mirrored col B (s.takeMysqlFields.draw (Screen.updateNodeSelects col)) := by
  refine mirrored_updateNodeSelects hcol (fun b hb hBb => ?_) fun hBb hnil => ?_
  · rw [htables]
    exact h.actuators hb hBb
  · exact (h _ hBb).of_items (hsensors hBb (List.map_eq_nil_iff.mp hnil))

theorem saveMysql (h : Mirrored col B s)
    (htables : KeepsTables (.press .wsnGeneralSaveMysqlDetailsButton) s)
    (hsensors : B .wsnSensorsSensorsComboBox →
      KeepsSensors col (.press .wsnGeneralSaveMysqlDetailsButton) s) :
    Mirrored col B s.takeMysqlFields := by
  intro b hb
  have hcontents : s.screen.contents col s.takeMysqlFields.database b =
      s.screen.contents col s.database b := by
    by_cases hbox : b = .wsnSensorsSensorsComboBox
    · subst hbox
      cases hselected : s.screen.selected .wsnSensorsNodeComboBox with
      | none => rw [Screen.contents_sensors_none hselected, Screen.contents_sensors_none hselected]
      | some id =>
        rw [Screen.contents_sensors_some hselected, Screen.contents_sensors_some hselected]
        exact hsensors hb id hselected
    · exact contents_eq htables.1 (fun _ => htables.2) (fun h => absurd h hbox) _
  change (s.screen.combo b).Holds _
  exact hcontents ▸ h b hb

/-- **Step.** An action that forgets no box leaves the boxes as they should be. -/
theorem act (hcol : ∀ s, col.same s s = true) (hB : ∀ b, b ≠ .wsnSensorsSensorsComboBox → B b)
    (a : Action) (h : Mirrored col B s) (htables : KeepsTables a s)
    (hsensors : B .wsnSensorsSensorsComboBox → KeepsSensors col a s) :
    Mirrored col B (s.act col a).2 := by
  cases a with
  | reading id type value => exact h.sensed hcol hB
  | tick b v => exact h
  | typeText f v =>
    refine h.congr ⟨rfl, rfl, fun _ => rfl⟩ ?_
    rw [Desk.act, Desk.done, Desk.draw_screen, Screen.typeInto]
    split <;> rfl
  | select b i => exact mirrored_selectItem hcol b i h hB
  | press b =>
    cases b with
    | wsnGeneralUpdateNodeAddressButton => exact h.updateNodeAddress
    | wsnGeneralUpdateMysqlAddressButton => exact h.updateMysql hcol htables hsensors
    | wsnGeneralSaveMysqlDetailsButton => exact h.saveMysql htables hsensors
    | wsnGeneralManualNodeAddButton => exact h.manualNodeAdd hcol
    | wsnGeneralRemoveNodeButton => exact h.removeNode hcol hsensors
    | wsnSensorsManualAddSensorButton => exact h.manualSensorAdd hsensors
    | wsnSensorsRemoveSensorButton => exact h.removeSensor hsensors
    | wsnSensorsCalibrateResetButton => exact h.calibrateReset
    | wsnGeneralRefreshNodeAddressButton =>
      exact h.congr ⟨rfl, rfl, fun _ => rfl⟩
        ((Screen.showAddress_combo _ _ _).trans (Screen.showAddress_combo _ _ _))
    | actuatorManualActuatorAddButton => exact h.manualActuatorAdd
    | actuatorUpdateActuatorAddressButton => exact h.updateActuatorAddress
    | actuatorRefreshActuatorAddressButton =>
      exact h.congr ⟨rfl, rfl, fun _ => rfl⟩ (Screen.showAddress_combo _ _ _)
    | actuatorRemoveActuatorButton => exact h.removeActuator _

end Buttons

end Mirrored

/-! ## Sessions -/

/-- After start-up every box lists what it should. -/
theorem Started.mirrored {servers : String → Database} (hcol : ∀ s, col.same s s = true)
    (h : Started col servers s) : Mirrored col B s := by
  obtain ⟨blank, hcombo, -, hscreen⟩ := h.screen
  -- All the boxes hold what they should, and so do those in `B`.
  have hall : Mirrored col (fun _ => True) (({ s with screen := blank } : Desk).draw
      (Screen.updateNodeSelects col) |>.draw (Screen.updateActuatorsSelects col)) := by
    refine mirrored_updateActuatorsSelects fun b hb _ => ?_
    refine mirrored_updateNodeSelects (B := fun b => ¬ b.showsActuators) hcol
      (fun b hb hB => absurd hb hB) (fun _ _ => ?_) b hb
    rw [show blank.combo .wsnSensorsSensorsComboBox = .filled [] from hcombo _]
    exact Combo.holds_filled []
  intro b _
  have := hall b trivial
  rw [Screen.Shows] at this ⊢
  rw [hscreen]
  exact this

section Sessions

variable [Jdk]

/-- Every box lists what it should for the tables in force. -/
def Mirrors (col : Collation) (w : World) : Prop :=
  ∀ b, (w.combo b).items = w.screen.contents col w.database b

omit [Jdk] in
theorem Mirrored.mirrors {w : World} (hdesk : w.desk = some s)
    (h : Mirrored col (fun _ => True) s) : Mirrors col w := by
  obtain ⟨url, hurl, rfl⟩ := of_desk hdesk
  intro b
  rw [← deskAt_database hurl]
  exact (h b trivial).items

/-- A turn that forgets no box. -/
def ForgetsNone (col : Collation) (t : PanelTurn) : Prop :=
  ∀ s ∈ t.before.desk, KeepsTables t.action s ∧ KeepsSensors col t.action s

instance (t : PanelTurn) : Decidable (ForgetsNone col t) :=
  inferInstanceAs (Decidable (∀ s ∈ t.before.desk, _))

/-- **Mirroring.** Take a start-up that found an address, and a session after it in which no
database call fails. If no turn forgets a box, every box lists what it should after every turn. -/
theorem session_mirrored {servers : String → Database} {details : Option String} {w₀ w : World}
    {l : List (Event calls World)} {ts : List PanelTurn} (hcol : ∀ s, col.same s s = true)
    (hstart : Runs (under col httpFault) startUp (.launched servers details) l (.ok ()) w₀)
    (haddress : w₀.mysql .mysqlAddress ≠ none)
    (h : Session (under col httpFault) Action.program w₀ ts w)
    (hkeeps : ∀ t ∈ ts, ForgetsNone col t) :
    Mirrors col w₀ ∧ ∀ t ∈ ts, Mirrors col t.after := by
  obtain ⟨s₀, hs₀⟩ := desk_ne_none haddress
  have hmirrored : Mirrored col (fun _ => True) s₀ :=
    (hstart.outcome_of_wp wp_startUp_desk s₀ hs₀).mirrored hcol
  refine ⟨hmirrored.mirrors hs₀, ?_⟩
  have hI : (∃ s, w.desk = some s ∧ Mirrored col (fun _ => True) s) ∧
      ∀ t ∈ ts, Mirrors col t.after := by
    refine h.invariant (I := fun ts w => (∃ s, w.desk = some s ∧ Mirrored col (fun _ => True) s) ∧
      ∀ t ∈ ts, Mirrors col t.after) (C := ForgetsNone col) hkeeps
        ⟨⟨s₀, hs₀, hmirrored⟩, by simp⟩ ?_
    rintro ts t ⟨⟨s, hs, hmirrored⟩, hts⟩ hforgets hrun
    obtain ⟨htables, hsensors⟩ := hforgets s hs
    have hafter : Mirrored col (fun _ => True) (s.act col t.action).2 :=
      hmirrored.act hcol (fun _ _ => trivial) t.action htables fun _ => hsensors
    have hdesk := (left_of_runs hcol hs hrun).2
    refine ⟨⟨_, hdesk, hafter⟩, fun u hu => ?_⟩
    rcases List.mem_append.mp hu with hu | hu
    · exact hts u hu
    · obtain rfl := List.mem_singleton.mp hu
      exact hafter.mirrors hdesk
  exact hI.2

end Sessions

/-! ## A node that comes and goes -/

/-- Start-up over empty tables. -/
def emptyStart : List (Event calls World) × Except Exn Unit × World :=
  (machine .exact).play .fine startUp []
    (.launched (fun _ => .empty) (some "jdbc:mysql://db,user,pass"))

/-- The window after it. -/
def emptyWindow : World := emptyStart.2.2

theorem runs_emptyStart : Runs (under .exact httpFault) startUp
    (.launched (fun _ => .empty) (some "jdbc:mysql://db,user,pass")) emptyStart.1 (.ok ())
      emptyWindow := by
  have hruns : Runs (under .exact httpFault) startUp
      (.launched (fun _ => .empty) (some "jdbc:mysql://db,user,pass")) emptyStart.1 emptyStart.2.1
        emptyWindow := runs_play_under startUp [] _ (by simp) _
  have hok : emptyStart.2.1 = .ok () := by decide +kernel
  rwa [hok] at hruns

/-- The turns of some actions on that window, nothing failing. -/
def windowTurns (as : List Action) : List PanelTurn :=
  (machine .exact).turns .fine (@Action.program plainJdk) (as.map fun a => (a, [])) emptyWindow

theorem session_windowTurns (as : List Action) :
    Session (under .exact httpFault) (@Action.program plainJdk) emptyWindow (windowTurns as)
      ((machine .exact).endOf .fine (@Action.program plainJdk) (as.map fun a => (a, []))
        emptyWindow) :=
  Machine.session_turns (fun _ _ h => by cases h) (by simp) .nil

/-- Add a node and a sensor of it, and remove them in the other order. -/
def addAndRemove : List Action :=
  addSensorOfNode ++ [.press .wsnSensorsRemoveSensorButton, .press .wsnGeneralRemoveNodeButton]

/-- Every box lists what it should on the way. -/
theorem addAndRemove_mirrored : Mirrors .exact emptyWindow ∧
    ∀ t ∈ windowTurns addAndRemove, Mirrors .exact t.after :=
  @session_mirrored .exact plainJdk _ _ _ _ _ _ (by simp) runs_emptyStart (by decide +kernel)
    (session_windowTurns addAndRemove) (by decide +kernel)

end CrossingReality
