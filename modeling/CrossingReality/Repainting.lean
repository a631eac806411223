import CrossingReality.Window

/-!
# What a refilled window holds

Every item event runs a listener, and a listener can run another refill. In the end only the last
event of each box counts: its listener overwrites all that the ones before it wrote.

* `updateNodeSelects_shows` — the window after the node boxes have been refilled.
* `updateActuatorsSelects_shows` — the window after the actuator boxes have been refilled.
-/

namespace CrossingReality

namespace Screen

variable {col : Collation} {d : Database} {s s' s'' : Screen} {b : ComboBox}
variable {T T' : TextField → Prop} {B B' : ComboBox → Prop}

/-! ## What can change -/

/-- `s'` is `s` but for the fields in `T` and the boxes in `B`. -/
structure Within (T : TextField → Prop) (B : ComboBox → Prop) (s s' : Screen) : Prop where
  text : ∀ f, ¬ T f → s'.text f = s.text f
  combo : ∀ b, ¬ B b → s'.combo b = s.combo b

namespace Within

theorem refl (s : Screen) : Within T B s s := ⟨fun _ _ => rfl, fun _ _ => rfl⟩

theorem trans (h : Within T B s s') (h' : Within T B s' s'') : Within T B s s'' :=
  ⟨fun f hf => (h'.text f hf).trans (h.text f hf),
    fun b hb => (h'.combo b hb).trans (h.combo b hb)⟩

theorem mono (h : Within T B s s') (hT : ∀ f, T f → T' f) (hB : ∀ b, B b → B' b) :
    Within T' B' s s' :=
  ⟨fun f hf => h.text f (mt (hT f) hf), fun b hb => h.combo b (mt (hB b) hb)⟩

theorem setText (s : Screen) {f : TextField} (hf : T f) (v : String) :
    Within T B s (s.setText f v) := by
  refine ⟨fun g hg => setText_text_of_ne _ _ ?_, fun _ _ => rfl⟩
  rintro rfl
  exact hg hf

theorem setCombo (s : Screen) (hb : B b) (c : Combo) : Within T B s (s.setCombo b c) := by
  refine ⟨fun _ _ => rfl, fun b' hb' => setCombo_combo_of_ne _ _ ?_⟩
  rintro rfl
  exact hb' hb

theorem showAddress (s : Screen) {f : TextField} (hf : T f) (a : Option (Option String)) :
    Within T B s (s.showAddress f a) := by
  cases a with
  | none => exact refl s
  | some a => exact setText s hf _

/-- Running a listener any number of times. -/
theorem iterate {listener : Screen → Screen} (hl : ∀ s, Within T B s (listener s)) (n : Nat)
    (s : Screen) : Within T B s (listener^[n] s) := by
  induction n generalizing s with
  | zero => exact refl s
  | succ n ih => exact (hl s).trans (ih (listener s))

theorem changeCombo {listener : Screen → Screen} (hl : ∀ s, Within T B s (listener s)) (hb : B b)
    (c : Combo) (s : Screen) : Within T B s (s.changeCombo listener b c) :=
  (setCombo s hb c).trans (iterate hl _ _)

theorem addItems {listener : Screen → Screen} (hl : ∀ s, Within T B s (listener s)) (hb : B b)
    (items : List String) (s : Screen) : Within T B s (Screen.addItems listener b items s) := by
  induction items generalizing s with
  | nil => exact refl s
  | cons item items ih => exact (changeCombo hl hb _ s).trans (ih _)

end Within

theorem showAddress_combo (s : Screen) (f : TextField) (a : Option (Option String)) :
    (s.showAddress f a).combo = s.combo := by
  cases a <;> rfl

/-- The fields that show bounds. -/
def bound (f : TextField) : Prop :=
  f = .wsnSensorsCalibrationMinField ∨ f = .wsnSensorsCalibrationMaxField

/-- The fields that the listener of a box writes. -/
def writtenBy : ComboBox → TextField → Prop
  | .wsnGeneralNodeComboBox, f => f = .wsnGeneralNodeAddressField
  | .wsnSensorsNodeComboBox, f => f = .wsnSensorsNodeAddressField ∨ bound f
  | .wsnSensorsSensorsComboBox, f => bound f
  | .actuatorActuatorComboBox, f => f = .actuatorAddressField
  | _, _ => False

theorem within_showBounds (s : Screen) (id type : String) :
    Within bound B s (s.showBounds col d id type) :=
  (Within.setText s (.inr rfl) _).trans (Within.setText _ (.inl rfl) _)

theorem within_wsnSensorsSensorsChanged (s : Screen) :
    Within bound B s (s.wsnSensorsSensorsChanged col d) := within_showBounds s _ _

theorem within_updateSensorsSelect (id : Option String) (s : Screen) :
    Within bound (· = .wsnSensorsSensorsComboBox) s (s.updateSensorsSelect col d id) :=
  (Within.changeCombo within_wsnSensorsSensorsChanged (by rfl) _ s).trans
    (Within.addItems within_wsnSensorsSensorsChanged (by rfl) _ _)

theorem wsnSensorsNodeChanged_missing
    (h : d.nodeAddress col (spell (s.selected .wsnSensorsNodeComboBox)) = none) :
    s.wsnSensorsNodeChanged col d = s := by
  rw [wsnSensorsNodeChanged, h]

theorem wsnSensorsNodeChanged_found {a : Option String}
    (h : d.nodeAddress col (spell (s.selected .wsnSensorsNodeComboBox)) = some a) :
    s.wsnSensorsNodeChanged col d =
      let s' := (s.setText .wsnSensorsNodeAddressField (a.getD "")).updateSensorsSelect col d
        (s.selected .wsnSensorsNodeComboBox)
      s'.showBounds col d (spell (s.selected .wsnSensorsNodeComboBox))
        (spell (s'.selected .wsnSensorsSensorsComboBox)) := by
  rw [wsnSensorsNodeChanged, h]

theorem within_itemStateChanged (b : ComboBox) (s : Screen) :
    Within (writtenBy b) (listens b) s (s.itemStateChanged col d b) := by
  cases b with
  | wsnGeneralNodeComboBox | actuatorActuatorComboBox => exact .showAddress s (by rfl) _
  | wsnSensorsSensorsComboBox => exact within_wsnSensorsSensorsChanged s
  | wsnGeneralRemoveNodeComboBox | actuatorRemoveActuatorComboBox => exact .refl s
  | wsnSensorsNodeComboBox =>
    rw [itemStateChanged]
    cases ha : d.nodeAddress col (spell (s.selected .wsnSensorsNodeComboBox)) with
    | none =>
      rw [wsnSensorsNodeChanged_missing ha]
      exact .refl s
    | some a =>
      rw [wsnSensorsNodeChanged_found ha]
      have haddress : Within (writtenBy .wsnSensorsNodeComboBox) (listens .wsnSensorsNodeComboBox) s
          (s.setText .wsnSensorsNodeAddressField (a.getD "")) := .setText s (.inl rfl) _
      exact haddress.trans (((within_updateSensorsSelect _ _).mono (fun _ => .inr)
        fun _ hb => ⟨rfl, hb⟩).trans
          ((within_showBounds _ _ _).mono (fun _ => .inr) fun _ hb => hb))

/-! ## Filling a box -/

theorem setCombo_self (s : Screen) (b : ComboBox) : s.setCombo b (s.combo b) = s := by
  simp [setCombo]

@[simp] theorem itemEvents_self (o : Option String) : Combo.itemEvents o o = 0 := if_pos rfl

@[simp] theorem itemEvents_none_some (i : String) : Combo.itemEvents none (some i) = 1 := rfl

section Filling

variable {listener : Screen → Screen}

/-- Adding to a box that has something selected runs no listener. -/
theorem addItems_filled {l : List String} (hs : s.combo b = .filled l) (hl : l ≠ [])
    (items : List String) :
    addItems listener b items s = s.setCombo b (.filled (l ++ items)) := by
  induction items generalizing l s with
  | nil => rw [List.append_nil, ← hs, setCombo_self, addItems, List.foldl_nil]
  | cons item items ih =>
    have hselected : (Combo.filled (l ++ [item])).selected = s.selected b := by
      rw [selected, hs]
      cases l with
      | nil => exact absurd rfl hl
      | cons i l => rfl
    have hstep : s.changeCombo listener b ((s.combo b).addItem item) =
        s.setCombo b (.filled (l ++ [item])) := by
      rw [changeCombo, hs, Combo.addItem_filled, hselected, itemEvents_self]
      rfl
    rw [addItems, List.foldl_cons, hstep, ← addItems, ih (setCombo_combo_self _ _ _) (by simp),
      setCombo_setCombo, List.append_assoc, List.singleton_append]

/-- Filling an empty box runs its listener once, with the first item in the box. -/
theorem addItems_cons (hl : ∀ s, (listener s).combo b = s.combo b) (hs : s.combo b = .filled [])
    (i : String) (items : List String) : addItems listener b (i :: items) s =
      (listener (s.setCombo b (.filled [i]))).setCombo b (.filled (i :: items)) := by
  have hstep : s.changeCombo listener b ((s.combo b).addItem i) =
      listener (s.setCombo b (.filled [i])) := by
    rw [changeCombo, hs, Combo.addItem_filled, selected, hs]
    rfl
  rw [addItems, List.foldl_cons, hstep, ← addItems,
    addItems_filled ((hl _).trans (setCombo_combo_self _ _ _)) (by simp), List.singleton_append]

end Filling

/-! ## The sensors of a node -/

/-- The column that a field of the bounds shows. -/
def columnOf : TextField → Bounds → Option Int32
  | .wsnSensorsCalibrationMinField => Bounds.min
  | _ => Bounds.max

theorem showBounds_text {f : TextField} (hf : bound f) (id type : String) :
    (s.showBounds col d id type).text f = d.boundText col id type (columnOf f) := by
  rcases hf with rfl | rfl
  · exact setText_text_self _ _ _
  · rw [showBounds, setText_text_of_ne _ _ (by decide), setText_text_self]
    rfl

/-- Bounds that are shown hide those that were shown before. -/
theorem showBounds_hides {id type : String} (h : Within bound (fun _ => False) s s') :
    s'.showBounds col d id type = s.showBounds col d id type := by
  have hcombo : s'.combo = s.combo := funext fun b => h.combo b not_false
  have htext : (s'.showBounds col d id type).text = (s.showBounds col d id type).text := by
    funext f
    by_cases hf : bound f
    · rw [showBounds_text hf, showBounds_text hf]
    · rw [(within_showBounds (B := fun _ => False) s' _ _).text f hf, h.text f hf,
        (within_showBounds (B := fun _ => False) s _ _).text f hf]
  cases s
  cases s'
  obtain rfl := hcombo
  exact congrArg (Screen.mk · _) htext

theorem showBounds_setCombo (id type : String) (b : ComboBox) (c : Combo) :
    (s.setCombo b c).showBounds col d id type = (s.showBounds col d id type).setCombo b c := rfl

/-- Emptying the box of the sensors. -/
theorem within_removeSensors (s : Screen) :
    Within bound (fun _ => False) (s.setCombo .wsnSensorsSensorsComboBox (.filled []))
      (removeAllItems (wsnSensorsSensorsChanged col d) .wsnSensorsSensorsComboBox s) :=
  Within.iterate within_wsnSensorsSensorsChanged _ _

/-- A node with sensors: the first is selected, and its bounds are shown. -/
theorem updateSensorsSelect_cons {id : Option String} {type : String} {types : List String}
    (h : d.typesOf col (spell id) = type :: types) :
    s.updateSensorsSelect col d id =
      (s.showBounds col d (spell (s.selected .wsnSensorsNodeComboBox)) type).setCombo
        .wsnSensorsSensorsComboBox (.filled (type :: types)) := by
  have hempty : Within bound (fun _ => False) (s.setCombo .wsnSensorsSensorsComboBox (.filled []))
      (removeAllItems (wsnSensorsSensorsChanged col d) .wsnSensorsSensorsComboBox s) :=
    within_removeSensors s
  have hbox : (removeAllItems (wsnSensorsSensorsChanged col d) .wsnSensorsSensorsComboBox
      s).combo .wsnSensorsSensorsComboBox = .filled [] :=
    (hempty.combo _ not_false).trans (setCombo_combo_self _ _ _)
  have hnode : (removeAllItems (wsnSensorsSensorsChanged col d) .wsnSensorsSensorsComboBox
      s).selected .wsnSensorsNodeComboBox = s.selected .wsnSensorsNodeComboBox := by
    rw [selected, hempty.combo _ not_false, ← selected, setCombo_selected_of_ne _ _ (by decide)]
  have hkept : ∀ s : Screen, (s.wsnSensorsSensorsChanged col d).combo .wsnSensorsSensorsComboBox =
      s.combo .wsnSensorsSensorsComboBox := fun _ => rfl
  rw [updateSensorsSelect, h, addItems_cons hkept hbox, wsnSensorsSensorsChanged,
    setCombo_selected_of_ne _ _ (by decide), hnode, setCombo_selected_self, showBounds_setCombo,
    setCombo_setCombo, showBounds_hides hempty, showBounds_setCombo, setCombo_setCombo]
  rfl

/-- A node without sensors: what was selected is no longer. -/
theorem updateSensorsSelect_nil {id : Option String} (h : d.typesOf col (spell id) = []) :
    s.updateSensorsSelect col d id =
      if s.selected .wsnSensorsSensorsComboBox = none then
        s.setCombo .wsnSensorsSensorsComboBox (.filled [])
      else (s.showBounds col d (spell (s.selected .wsnSensorsNodeComboBox)) "null").setCombo
        .wsnSensorsSensorsComboBox (.filled []) := by
  rw [updateSensorsSelect, h, addItems, List.foldl_nil, removeAllItems, changeCombo]
  cases hselected : s.selected .wsnSensorsSensorsComboBox with
  | none => rfl
  | some type =>
    rw [if_neg (by simp)]
    change wsnSensorsSensorsChanged col d (s.setCombo .wsnSensorsSensorsComboBox .empty) = _
    rw [wsnSensorsSensorsChanged, setCombo_selected_of_ne _ _ (by decide), setCombo_selected_self,
      showBounds_setCombo]
    rfl

theorem updateSensorsSelect_combo (id : Option String) : (s.updateSensorsSelect col d id).combo
    .wsnSensorsSensorsComboBox = .filled (d.typesOf col (spell id)) := by
  cases htypes : d.typesOf col (spell id) with
  | nil =>
    rw [updateSensorsSelect_nil htypes]
    split <;> exact setCombo_combo_self _ _ _
  | cons type types => rw [updateSensorsSelect_cons htypes, setCombo_combo_self]

/-- The listener of the node on the sensors tab fills the box of the sensors, whatever it held. -/
theorem wsnSensorsNodeChanged_eq {id : String} {a : Option String}
    (hid : s.selected .wsnSensorsNodeComboBox = some id)
    (ha : d.nodeAddress col id = some a) :
    s.wsnSensorsNodeChanged col d =
      ((s.setText .wsnSensorsNodeAddressField (a.getD "")).showBounds col d id
        (spell (d.typesOf col id).head?)).setCombo .wsnSensorsSensorsComboBox
          (.filled (d.typesOf col id)) := by
  have hfound : d.nodeAddress col (spell (s.selected .wsnSensorsNodeComboBox)) = some a := by
    rw [hid]
    exact ha
  rw [wsnSensorsNodeChanged_found hfound, hid]
  dsimp only
  cases htypes : d.typesOf col id with
  | cons type types =>
    have hrefill : (s.setText .wsnSensorsNodeAddressField (a.getD "")).updateSensorsSelect col d
        (some id) = _ := updateSensorsSelect_cons htypes
    rw [setText_selected, hid] at hrefill
    rw [hrefill, setCombo_selected_self, showBounds_setCombo,
      showBounds_hides (within_showBounds _ _ _)]
    rfl
  | nil =>
    have hrefill : (s.setText .wsnSensorsNodeAddressField (a.getD "")).updateSensorsSelect col d
        (some id) = _ := updateSensorsSelect_nil htypes
    rw [setText_selected, setText_selected, hid] at hrefill
    rw [hrefill]
    split
    · rw [setCombo_selected_self, showBounds_setCombo]
      rfl
    · rw [setCombo_selected_self, showBounds_setCombo, showBounds_hides (within_showBounds _ _ _)]
      rfl

/-! ## Refills -/

theorem within_clearAddress (b : ComboBox) (s : Screen) :
    Within (writtenBy b) B s (s.clearAddress b) := by
  cases b with
  | wsnGeneralNodeComboBox | actuatorActuatorComboBox => exact .setText s (by rfl) _
  | wsnSensorsNodeComboBox => exact .setText s (by exact .inl rfl) _
  | _ => exact .refl s

/-- An emptied box whose address field has been blanked. -/
def emptied (col : Collation) (d : Database) (b : ComboBox) (s : Screen) : Screen :=
  clearAddress b (removeAllItems (itemStateChanged col d b) b s)

theorem emptied_combo (b : ComboBox) (s : Screen) : (s.emptied col d b).combo b = .filled [] := by
  have hlistener : ∀ s, Within (writtenBy b) (listens b) s (s.itemStateChanged col d b) :=
    within_itemStateChanged b
  have hcleared := (within_clearAddress (B := fun _ => False) b
    (removeAllItems (itemStateChanged col d b) b s)).combo b not_false
  have hlistened := (Within.iterate hlistener (Combo.itemEvents (s.selected b) none)
    (s.setCombo b .empty)).combo b (not_listens_self b)
  exact hcleared.trans (hlistened.trans (setCombo_combo_self _ _ _))

theorem within_emptied (b : ComboBox) (s : Screen) :
    Within (writtenBy b) (refills b) s (s.emptied col d b) := by
  refine .trans ?_ (within_clearAddress b _)
  exact .changeCombo (fun s => (within_itemStateChanged b s).mono (fun _ h => h)
    fun _ => refills_of_listens) (.inl rfl) _ s

theorem updateSelect_nil : s.updateSelect col d b [] = s.emptied col d b := rfl

theorem updateSelect_cons (i : String) (ids : List String) :
    s.updateSelect col d b (i :: ids) =
      (((s.emptied col d b).setCombo b (.filled [i])).itemStateChanged col d b).setCombo b
        (.filled (i :: ids)) :=
  addItems_cons (fun s => (within_itemStateChanged b s).combo b (not_listens_self b))
    (emptied_combo b s) i ids

theorem updateSelect_combo (ids : List String) :
    (s.updateSelect col d b ids).combo b = .filled ids := by
  cases ids with
  | nil => exact emptied_combo b s
  | cons i ids => rw [updateSelect_cons, setCombo_combo_self]

theorem within_updateSelect (ids : List String) :
    Within (writtenBy b) (refills b) s (s.updateSelect col d b ids) := by
  cases ids with
  | nil => exact within_emptied b s
  | cons i ids =>
    rw [updateSelect_cons]
    have hlistener : ∀ s, Within (writtenBy b) (refills b) s (s.itemStateChanged col d b) :=
      fun s => (within_itemStateChanged b s).mono (fun _ h => h) fun _ => refills_of_listens
    exact (within_emptied b s).trans ((Within.setCombo _ (.inl rfl) _).trans
      ((hlistener _).trans (.setCombo _ (.inl rfl) _)))

/-- The text for the address of what is selected: blank for nothing, for what has no row, and for
null. -/
def addressText (address : String → Option (Option String)) (id : Option String) : String :=
  (id.bind address).join.getD ""

/-- A refilled box with an address field shows the address of its first item. -/
theorem updateSelect_text {f : TextField} {address : String → Option (Option String)}
    (hclear : ∀ s, clearAddress b s = s.setText f "")
    (hlistener : ∀ s i, s.selected b = some i →
      itemStateChanged col d b s = s.showAddress f (address i)) (ids : List String) :
    (s.updateSelect col d b ids).text f = addressText address ids.head? := by
  have hblank : (s.emptied col d b).text f = "" := by
    rw [emptied, hclear, setText_text_self]
  cases ids with
  | nil => exact hblank
  | cons i ids =>
    rw [updateSelect_cons, setCombo_text, hlistener _ i (setCombo_selected_self _ _ _),
      List.head?_cons, addressText, Option.bind_some]
    cases address i with
    | none => exact hblank
    | some a => exact setText_text_self _ _ _

end Screen

namespace Database

variable {col : Collation} {d : Database}

/-- A registered node has a row. -/
theorem nodeAddress_of_mem (hcol : ∀ s, col.same s s = true) {id : String} (h : id ∈ d.nodeIds) :
    ∃ a, d.nodeAddress col id = some a := by
  obtain ⟨r, hr, rfl⟩ := mem_nodeIds.mp h
  have hmem : r ∈ (Query.node r.id).run col d := List.mem_filter.mpr ⟨hr, hcol _⟩
  rw [nodeAddress, List.head?_eq_some_head (List.ne_nil_of_mem hmem)]
  exact ⟨_, rfl⟩

/-- A node without sensors has no bounds to show. -/
theorem boundText_of_typesOf {id : String} (h : d.typesOf col id = []) (type : String)
    (column : Bounds → Option Int32) : d.boundText col id type column = "" := by
  have hnone : (Query.bounds id type).run col d = [] := by
    rw [typesOf, List.map_eq_nil_iff] at h
    refine List.map_eq_nil_iff.mpr (List.filter_eq_nil_iff.mpr fun r hr hmatch => ?_)
    exact List.filter_eq_nil_iff.mp h r hr (Bool.and_eq_true_iff.mp hmatch).1
  rw [boundText, hnone]
  rfl

/-- The text for a bound of what is selected: blank when no node or no sensor is. -/
def boundOf (col : Collation) (d : Database) (column : Bounds → Option Int32) :
    Option String → Option String → String
  | some id, some type => d.boundText col id type column
  | _, _ => ""

/-- The bounds that the listener shows when it has selected the first sensor of a node. -/
theorem boundText_head (id : String) (column : Bounds → Option Int32) :
    d.boundText col id (spell (d.typesOf col id).head?) column =
      d.boundOf col column (some id) (d.typesOf col id).head? := by
  cases htypes : d.typesOf col id with
  | nil => exact boundText_of_typesOf htypes _ _
  | cons type types => rfl

end Database

namespace Screen

variable {col : Collation} {d : Database} {s s' s'' : Screen}

theorem updateNodeSelect_sensors_nil (h : d.nodes = []) :
    s.updateNodeSelect col d .wsnSensorsNodeComboBox =
      (s.setCombo .wsnSensorsNodeComboBox (.filled [])).setText .wsnSensorsNodeAddressField "" := by
  have hkept : ∀ n, (wsnSensorsNodeChanged col d)^[n] (s.setCombo .wsnSensorsNodeComboBox .empty) =
      s.setCombo .wsnSensorsNodeComboBox .empty := by
    intro n
    induction n with
    | zero => rfl
    | succ n ih =>
      rw [Function.iterate_succ_apply', ih, wsnSensorsNodeChanged_missing]
      rw [Database.nodeAddress, Query.run, h]
      rfl
  rw [updateNodeSelect, Database.nodeIds, h, List.map_nil, updateSelect_nil, emptied,
    removeAllItems, changeCombo]
  exact congrArg (setText · _ _) (hkept _)

/-- What is there before the last event only counts where the listener does not write. -/
theorem updateNodeSelect_sensors_cons (hcol : ∀ s, col.same s s = true) {i : String}
    {ids : List String} (h : d.nodeIds = i :: ids) :
    ∃ e, Within (writtenBy .wsnSensorsNodeComboBox) (refills .wsnSensorsNodeComboBox) s e ∧
      s.updateNodeSelect col d .wsnSensorsNodeComboBox =
        (((e.setText .wsnSensorsNodeAddressField
          (addressText (d.nodeAddress col) (some i))).showBounds col d i
            (spell (d.typesOf col i).head?)).setCombo .wsnSensorsSensorsComboBox
              (.filled (d.typesOf col i))).setCombo .wsnSensorsNodeComboBox
                (.filled d.nodeIds) := by
  obtain ⟨a, ha⟩ := Database.nodeAddress_of_mem hcol (h ▸ List.mem_cons_self : i ∈ d.nodeIds)
  refine ⟨(s.emptied col d .wsnSensorsNodeComboBox).setCombo .wsnSensorsNodeComboBox (.filled [i]),
    (within_emptied _ s).trans (.setCombo _ (.inl rfl) _), ?_⟩
  rw [updateNodeSelect, h, updateSelect_cons, itemStateChanged,
    wsnSensorsNodeChanged_eq (setCombo_selected_self _ _ _) ha, addressText, Option.bind_some, ha]
  rfl

/-- The fields that go with the boxes of the nodes. -/
def ofNodes (f : TextField) : Prop :=
  f = .wsnGeneralNodeAddressField ∨ f = .wsnSensorsNodeAddressField ∨ bound f

/-- `s'` is `s` with the boxes of the nodes refilled and the first node selected in each. The
sensors tab then shows that node's first sensor; without a node it keeps the sensors it showed. -/
structure NodesShown (col : Collation) (d : Database) (s s' : Screen) : Prop where
  within : Within ofNodes ComboBox.showsNodes s s'
  general : s'.combo .wsnGeneralNodeComboBox = .filled d.nodeIds
  remove : s'.combo .wsnGeneralRemoveNodeComboBox = .filled d.nodeIds
  sensorsNode : s'.combo .wsnSensorsNodeComboBox = .filled d.nodeIds
  generalAddress : s'.text .wsnGeneralNodeAddressField =
    addressText (d.nodeAddress col) d.nodeIds.head?
  sensorsAddress : s'.text .wsnSensorsNodeAddressField =
    addressText (d.nodeAddress col) d.nodeIds.head?
  first : ∀ i, d.nodeIds.head? = some i →
    s'.combo .wsnSensorsSensorsComboBox = .filled (d.typesOf col i) ∧
      ∀ f, bound f → s'.text f = d.boundOf col (columnOf f) (some i) (d.typesOf col i).head?
  none : d.nodeIds = [] →
    s'.combo .wsnSensorsSensorsComboBox = s.combo .wsnSensorsSensorsComboBox ∧
      ∀ f, bound f → s'.text f = s.text f

/-- The last of the three refills, the one of the sensors tab. -/
theorem updateNodeSelect_sensors_shows (hcol : ∀ s, col.same s s = true) (s : Screen) :
    (s.updateNodeSelect col d .wsnSensorsNodeComboBox).text .wsnSensorsNodeAddressField =
        addressText (d.nodeAddress col) d.nodeIds.head? ∧
      (∀ i, d.nodeIds.head? = some i →
        (s.updateNodeSelect col d .wsnSensorsNodeComboBox).combo .wsnSensorsSensorsComboBox =
            .filled (d.typesOf col i) ∧
          ∀ f, bound f → (s.updateNodeSelect col d .wsnSensorsNodeComboBox).text f =
            d.boundOf col (columnOf f) (some i) (d.typesOf col i).head?) ∧
      (d.nodeIds = [] →
        (s.updateNodeSelect col d .wsnSensorsNodeComboBox).combo .wsnSensorsSensorsComboBox =
            s.combo .wsnSensorsSensorsComboBox ∧
          ∀ f, bound f → (s.updateNodeSelect col d .wsnSensorsNodeComboBox).text f = s.text f) := by
  cases hids : d.nodeIds with
  | nil =>
    rw [updateNodeSelect_sensors_nil (List.map_eq_nil_iff.mp hids)]
    refine ⟨setText_text_self _ _ _, by simp, fun _ => ⟨?_, fun f hf => ?_⟩⟩
    · rw [setText_combo, setCombo_combo_of_ne _ _ (by decide)]
    · refine setText_text_of_ne _ _ ?_
      rintro rfl
      simp [bound] at hf
  | cons i ids =>
    obtain ⟨e, he, heq⟩ := updateNodeSelect_sensors_cons (s := s) hcol hids
    rw [heq]
    refine ⟨?_, fun j hj => ⟨?_, fun f hf => ?_⟩, by simp⟩
    · rw [setCombo_text, setCombo_text,
        (within_showBounds (B := fun _ => False) _ _ _).text _ (by simp [bound]), setText_text_self]
      rfl
    · obtain rfl := Option.some_inj.mp hj
      rw [setCombo_combo_of_ne _ _ (by decide), setCombo_combo_self]
    · obtain rfl := Option.some_inj.mp hj
      rw [setCombo_text, setCombo_text, showBounds_text hf, Database.boundText_head]

theorem updateNodeSelects_shows (hcol : ∀ s, col.same s s = true) (s : Screen) :
    NodesShown col d s (s.updateNodeSelects col d) := by
  -- the general tab, then the box of the removals, then the sensors tab
  have hwithin₁ : Within (writtenBy .wsnGeneralNodeComboBox) (refills .wsnGeneralNodeComboBox) s
      (s.updateNodeSelect col d .wsnGeneralNodeComboBox) := within_updateSelect _
  have haddress : (s.updateNodeSelect col d .wsnGeneralNodeComboBox).text
      .wsnGeneralNodeAddressField = addressText (d.nodeAddress col) d.nodeIds.head? := by
    refine updateSelect_text (fun _ => rfl) (fun s i hi => ?_) _
    rw [itemStateChanged, wsnGeneralNodeChanged, hi, spell_some]
  have hgeneral : (s.updateNodeSelect col d .wsnGeneralNodeComboBox).combo
      .wsnGeneralNodeComboBox = .filled d.nodeIds := updateSelect_combo _
  rw [updateNodeSelects]
  generalize s.updateNodeSelect col d .wsnGeneralNodeComboBox = s₁ at *
  have hwithin₂ : Within (writtenBy .wsnGeneralRemoveNodeComboBox)
      (refills .wsnGeneralRemoveNodeComboBox) s₁
      (s₁.updateNodeSelect col d .wsnGeneralRemoveNodeComboBox) := within_updateSelect _
  have hremove : (s₁.updateNodeSelect col d .wsnGeneralRemoveNodeComboBox).combo
      .wsnGeneralRemoveNodeComboBox = .filled d.nodeIds := updateSelect_combo _
  generalize s₁.updateNodeSelect col d .wsnGeneralRemoveNodeComboBox = s₂ at *
  have hwithin₃ : Within (writtenBy .wsnSensorsNodeComboBox) (refills .wsnSensorsNodeComboBox) s₂
      (s₂.updateNodeSelect col d .wsnSensorsNodeComboBox) := within_updateSelect _
  have hnode : (s₂.updateNodeSelect col d .wsnSensorsNodeComboBox).combo
      .wsnSensorsNodeComboBox = .filled d.nodeIds := updateSelect_combo _
  obtain ⟨hsensors, hfirst, hnone⟩ := updateNodeSelect_sensors_shows (d := d) hcol s₂
  generalize s₂.updateNodeSelect col d .wsnSensorsNodeComboBox = s₃ at *
  have hshows : ∀ b, ComboBox.showsNodes b → ∀ b', refills b b' → ComboBox.showsNodes b' := by
    rintro b hb b' (rfl | ⟨-, rfl⟩)
    · exact hb
    · trivial
  refine ⟨?_, ?_, ?_, hnode, ?_, hsensors, hfirst, fun h => ⟨?_, fun f hf => ?_⟩⟩
  · refine (hwithin₁.mono (fun _ => .inl) (hshows _ trivial)).trans
      ((hwithin₂.mono (fun _ hf => hf.elim) (hshows _ trivial)).trans
        (hwithin₃.mono (fun _ hf => .inr hf) (hshows _ trivial)))
  · rw [hwithin₃.combo _ (by simp [refills]), hwithin₂.combo _ (by simp [refills]), hgeneral]
  · rw [hwithin₃.combo _ (by simp [refills]), hremove]
  · rw [hwithin₃.text _ (by simp [writtenBy, bound]), hwithin₂.text _ id, haddress]
  · rw [(hnone h).1, hwithin₂.combo _ (by simp [refills]), hwithin₁.combo _ (by simp [refills])]
  · have hne : ¬ writtenBy .wsnGeneralNodeComboBox f := by
      rintro rfl
      simp [bound] at hf
    rw [(hnone h).2 f hf, hwithin₂.text _ id, hwithin₁.text _ hne]

/-- `s'` is `s` with the boxes of the actuators refilled and the first actuator selected in each. -/
structure ActuatorsShown (col : Collation) (d : Database) (s s' : Screen) : Prop where
  within : Within (· = .actuatorAddressField) ComboBox.showsActuators s s'
  actuator : s'.combo .actuatorActuatorComboBox = .filled d.actuatorIds
  remove : s'.combo .actuatorRemoveActuatorComboBox = .filled d.actuatorIds
  address : s'.text .actuatorAddressField = addressText (d.actuatorAddress col) d.actuatorIds.head?

theorem updateActuatorsSelects_shows (s : Screen) :
    ActuatorsShown col d s (s.updateActuatorsSelects col d) := by
  have hwithin₁ : Within (writtenBy .actuatorActuatorComboBox) (refills .actuatorActuatorComboBox)
      s (s.updateActuatorsSelect col d .actuatorActuatorComboBox) := within_updateSelect _
  have haddress : (s.updateActuatorsSelect col d .actuatorActuatorComboBox).text
      .actuatorAddressField = addressText (d.actuatorAddress col) d.actuatorIds.head? := by
    refine updateSelect_text (fun _ => rfl) (fun s i hi => ?_) _
    rw [itemStateChanged, actuatorActuatorChanged, hi, spell_some]
  have hactuator : (s.updateActuatorsSelect col d .actuatorActuatorComboBox).combo
      .actuatorActuatorComboBox = .filled d.actuatorIds := updateSelect_combo _
  rw [updateActuatorsSelects]
  generalize s.updateActuatorsSelect col d .actuatorActuatorComboBox = s₁ at *
  have hwithin₂ : Within (writtenBy .actuatorRemoveActuatorComboBox)
      (refills .actuatorRemoveActuatorComboBox) s₁
      (s₁.updateActuatorsSelect col d .actuatorRemoveActuatorComboBox) := within_updateSelect _
  have hremove : (s₁.updateActuatorsSelect col d .actuatorRemoveActuatorComboBox).combo
      .actuatorRemoveActuatorComboBox = .filled d.actuatorIds := updateSelect_combo _
  generalize s₁.updateActuatorsSelect col d .actuatorRemoveActuatorComboBox = s₂ at *
  have hshows : ∀ b, ComboBox.showsActuators b → ∀ b', refills b b' →
      ComboBox.showsActuators b' := by
    rintro b hb b' (rfl | ⟨rfl, -⟩)
    · exact hb
    · exact hb.elim
  refine ⟨?_, ?_, hremove, ?_⟩
  · exact (hwithin₁.mono (fun _ h => h) (hshows _ trivial)).trans
      (hwithin₂.mono (fun _ hf => hf.elim) (hshows _ trivial))
  · rw [hwithin₂.combo _ (by simp [refills]), hactuator]
  · rw [hwithin₂.text _ id, haddress]

end Screen

end CrossingReality
