import CrossingReality.Restoring

/-!
# What the fields should show

Each field with an address or a bound should show what the tables have for the item selected. An
action renews a field when afterwards it shows that, or shows what it did and should show what it
should have: then a field that was right stays right, and a text that was typed stays there.

* `Screen.detail` — what a field should show.
* `Renewed` — what an action does to the fields.
-/

namespace CrossingReality

open Effects

variable {col : Collation} {d d' : Database} {s s' s'' : Desk} {f : TextField}
variable {T : TextField → Prop} {B : ComboBox → Prop}

/-! ## What the tables say -/

namespace Database

@[simp] theorem boundOf_some (column : Bounds → Option Int32) (id type : String) :
    d.boundOf col column (some id) (some type) = d.boundText col id type column := rfl

@[simp] theorem boundOf_none_left (column : Bounds → Option Int32) (type : Option String) :
    d.boundOf col column none type = "" := rfl

@[simp] theorem boundOf_none_right (column : Bounds → Option Int32) (id : Option String) :
    d.boundOf col column id none = "" := by
  cases id <;> rfl

theorem nodeAddress_congr (h : d'.nodes = d.nodes) : d'.nodeAddress col = d.nodeAddress col := by
  funext id
  simp only [nodeAddress, Query.run, h]

theorem actuatorAddress_congr (h : d'.actuators = d.actuators) :
    d'.actuatorAddress col = d.actuatorAddress col := by
  funext id
  simp only [actuatorAddress, Query.run, h]

/-- A registered actuator has a row. -/
theorem actuatorAddress_of_mem (hcol : ∀ s, col.same s s = true) {id : String}
    (h : id ∈ d.actuatorIds) : ∃ a, d.actuatorAddress col id = some a := by
  obtain ⟨r, hr, rfl⟩ := List.mem_map.mp h
  have hmem : r ∈ (Query.actuator r.id).run col d := List.mem_filter.mpr ⟨hr, hcol _⟩
  rw [actuatorAddress, List.head?_eq_some_head (List.ne_nil_of_mem hmem)]
  exact ⟨_, rfl⟩

theorem boundText_congr (h : d'.sensors = d.sensors) : d'.boundText col = d.boundText col := by
  funext id type column
  simp only [boundText, Query.run, h]

theorem boundOf_congr {column : Bounds → Option Int32}
    (h : ∀ id type, d'.boundText col id type column = d.boundText col id type column)
    (id type : Option String) : d'.boundOf col column id type = d.boundOf col column id type := by
  cases id with
  | none => rfl
  | some id =>
    cases type with
    | none => rfl
    | some type => exact h id type

/-- There is no bound to show for the sensor. -/
def Blank (col : Collation) (d : Database) (id type : String) : Prop :=
  d.boundText col id type Bounds.min = "" ∧ d.boundText col id type Bounds.max = ""

instance (id type : String) : Decidable (d.Blank col id type) :=
  inferInstanceAs (Decidable (_ = _ ∧ _ = _))

theorem Blank.columnOf {id type : String} (h : d.Blank col id type) (f : TextField) :
    d.boundText col id type (Screen.columnOf f) = "" := by
  cases f with
  | wsnSensorsCalibrationMinField => exact h.1
  | _ => exact h.2

/-- A sensor that is added has no bounds, and hides none. -/
theorem boundText_insertSensor {column : Bounds → Option Int32}
    (hnull : column ⟨none, none⟩ = none) (id type i t : String) :
    (d.apply col (.insertSensor id type)).boundText col i t column =
      d.boundText col i t column := by
  simp only [boundText, Query.run, apply, List.filter_append, List.map_append]
  cases d.sensors.filter fun r => col.same r.id i && col.same r.type t with
  | cons r rs => rfl
  | nil => cases hmatch : col.same id i && col.same type t <;> simp [hmatch, hnull]

/-- The rows a query finds are those of any pair that is the same to the database. -/
theorem run_bounds_of_same (hcol : Equivalence fun s t => col.same s t = true)
    {i j id type : String} (hid : col.same i id = true) (htype : col.same j type = true) :
    (Query.bounds i j).run col d = (Query.bounds id type).run col d := by
  have hiff : ∀ {a b : String} (x : String), col.same a b = true →
      (col.same x a = true ↔ col.same x b = true) := fun x h =>
    ⟨fun hx => hcol.trans hx h, fun hx => hcol.trans hx (hcol.symm h)⟩
  simp only [Query.run]
  congr 1
  refine List.filter_congr fun r _ => ?_
  rw [Bool.eq_iff_iff, Bool.and_eq_true, Bool.and_eq_true, hiff r.id hid, hiff r.type htype]

/-- Bounds of another pair stay. -/
theorem boundText_mapBounds_of_ne (hcol : Equivalence fun s t => col.same s t = true)
    {i j id type : String} (hne : ¬ (col.same i id = true ∧ col.same j type = true))
    (g : Bounds → Bounds) (column : Bounds → Option Int32) :
    (d.mapBounds col id type g).boundText col i j column = d.boundText col i j column := by
  have hrows : (Query.bounds i j).run col (d.mapBounds col id type g) =
      (Query.bounds i j).run col d := by
    have hkey : ((fun r : SensorRow => col.same r.id i && col.same r.type j) ∘ fun r =>
        if col.same r.id id && col.same r.type type then r.withBounds (g r.bounds) else r) =
        fun r => col.same r.id i && col.same r.type j := by
      funext r
      simp only [Function.comp]
      split <;> rfl
    simp only [Query.run, mapBounds_sensors, List.filter_map, hkey, List.map_map]
    refine List.map_congr_left fun r hr => ?_
    have hij := Bool.and_eq_true_iff.mp (List.mem_filter.mp hr).2
    have hother : ¬ (col.same r.id id && col.same r.type type) = true := by
      rw [Bool.and_eq_true]
      intro hpair
      exact hne ⟨hcol.trans (hcol.symm hij.1) hpair.1, hcol.trans (hcol.symm hij.2) hpair.2⟩
    simp only [Function.comp, if_neg hother]
  rw [boundText, hrows, boundText]

end Database

/-! ## What the fields should show -/

/-- The boxes whose selections a field is about. -/
def TextField.about : TextField → ComboBox → Prop
  | .wsnGeneralNodeAddressField, b => b = .wsnGeneralNodeComboBox
  | .wsnSensorsNodeAddressField, b => b = .wsnSensorsNodeComboBox
  | .actuatorAddressField, b => b = .actuatorActuatorComboBox
  | _, b => b = .wsnSensorsNodeComboBox ∨ b = .wsnSensorsSensorsComboBox

namespace Screen

/-- What a field should show. -/
def detail (col : Collation) (d : Database) (w : Screen) : TextField → String
  | .wsnGeneralNodeAddressField =>
    addressText (d.nodeAddress col) (w.selected .wsnGeneralNodeComboBox)
  | .wsnSensorsNodeAddressField =>
    addressText (d.nodeAddress col) (w.selected .wsnSensorsNodeComboBox)
  | .actuatorAddressField =>
    addressText (d.actuatorAddress col) (w.selected .actuatorActuatorComboBox)
  | f => d.boundOf col (columnOf f) (w.selected .wsnSensorsNodeComboBox)
    (w.selected .wsnSensorsSensorsComboBox)

variable {w w' : Screen}

theorem detail_bound (hf : bound f) : w.detail col d f =
    d.boundOf col (columnOf f) (w.selected .wsnSensorsNodeComboBox)
      (w.selected .wsnSensorsSensorsComboBox) := by
  rcases hf with rfl | rfl <;> rfl

theorem columnOf_null (f : TextField) : columnOf f ⟨none, none⟩ = none := by
  cases f <;> rfl

/-- What a field should show depends on one table and the selections it is about. -/
theorem detail_congr (hf : f.shows)
    (hnodes : f = .wsnGeneralNodeAddressField ∨ f = .wsnSensorsNodeAddressField →
      d'.nodes = d.nodes)
    (hsensors : bound f → ∀ id type,
      d'.boundText col id type (columnOf f) = d.boundText col id type (columnOf f))
    (hactuators : f = .actuatorAddressField → d'.actuators = d.actuators)
    (hselected : ∀ b, f.about b → w'.selected b = w.selected b) :
    w'.detail col d' f = w.detail col d f := by
  have hbounds : bound f → w'.detail col d' f = w.detail col d f := by
    intro hbound
    have hboxes : w'.selected .wsnSensorsNodeComboBox = w.selected .wsnSensorsNodeComboBox ∧
        w'.selected .wsnSensorsSensorsComboBox = w.selected .wsnSensorsSensorsComboBox := by
      rcases hbound with rfl | rfl <;> exact ⟨hselected _ (.inl rfl), hselected _ (.inr rfl)⟩
    rw [detail_bound hbound, detail_bound hbound, hboxes.1, hboxes.2,
      Database.boundOf_congr (hsensors hbound)]
  cases f with
  | wsnGeneralNodeAddressField =>
    rw [detail, detail, hselected _ rfl, Database.nodeAddress_congr (hnodes (.inl rfl))]
  | wsnSensorsNodeAddressField =>
    rw [detail, detail, hselected _ rfl, Database.nodeAddress_congr (hnodes (.inr rfl))]
  | actuatorAddressField =>
    rw [detail, detail, hselected _ rfl, Database.actuatorAddress_congr (hactuators rfl)]
  | wsnSensorsCalibrationMinField => exact hbounds (.inl rfl)
  | wsnSensorsCalibrationMaxField => exact hbounds (.inr rfl)
  | _ => exact hf.elim

end Screen

/-- What a field should show. -/
def Desk.detail (col : Collation) (s : Desk) (f : TextField) : String :=
  s.screen.detail col s.database f

/-! ## Renewing a field -/

/-- After an action the field shows what it should, or both are as they were. -/
def Renews (col : Collation) (s s' : Desk) (f : TextField) : Prop :=
  s'.screen.text f = s'.detail col f ∨
    s'.screen.text f = s.screen.text f ∧ s'.detail col f = s.detail col f

/-- All the fields are renewed. -/
def Renewed (col : Collation) (s s' : Desk) : Prop := ∀ f, f.shows → Renews col s s' f

/-- A field that the action does not touch, nor what it is about. -/
theorem Renews.of_within (hf : f.shows) (hw : Screen.Within T B s.screen s'.screen) (hT : ¬ T f)
    (hB : ∀ b, f.about b → ¬ B b)
    (hnodes : f = .wsnGeneralNodeAddressField ∨ f = .wsnSensorsNodeAddressField →
      s'.database.nodes = s.database.nodes)
    (hsensors : Screen.bound f → ∀ id type, s'.database.boundText col id type (Screen.columnOf f) =
      s.database.boundText col id type (Screen.columnOf f))
    (hactuators : f = .actuatorAddressField → s'.database.actuators = s.database.actuators) :
    Renews col s s' f := by
  refine .inr ⟨hw.text f hT, Screen.detail_congr hf hnodes hsensors hactuators fun b hb => ?_⟩
  rw [Screen.selected, hw.combo b (hB b hb), Screen.selected]

namespace Renewed

theorem refl (s : Desk) : Renewed col s s := fun _ _ => .inr ⟨rfl, rfl⟩

theorem trans (h : Renewed col s s') (h' : Renewed col s' s'') : Renewed col s s'' := by
  intro f hf
  rcases h' f hf with hright | ⟨htext, hdetail⟩
  · exact .inl hright
  · rcases h f hf with hright | ⟨htext', hdetail'⟩
    · exact .inl (htext.trans (hright.trans hdetail.symm))
    · exact .inr ⟨htext.trans htext', hdetail.trans hdetail'⟩

/-- Writing to a field that shows nothing of the tables. -/
theorem setText (h : Renewed col s s') {g : TextField} (hg : ¬ g.shows) (v : String) :
    Renewed col s (s'.setText g v) := by
  refine h.trans fun f hf => ?_
  refine .of_within (T := (· = g)) (B := fun _ => False) hf (.setText _ (by rfl) v) ?_
    (fun _ _ => id) (fun _ => rfl) (fun _ _ _ => rfl) fun _ => rfl
  rintro rfl
  exact hg hf

/-- A change of the tables that no field shows. -/
theorem of_tables (hscreen : s'.screen = s.screen) (hnodes : s'.database.nodes = s.database.nodes)
    (hsensors : ∀ f id type, s'.database.boundText col id type (Screen.columnOf f) =
      s.database.boundText col id type (Screen.columnOf f))
    (hactuators : s'.database.actuators = s.database.actuators) : Renewed col s s' := by
  intro f hf
  have hwithin : Screen.Within (fun _ => False) (fun _ => False) s.screen s'.screen := by
    rw [hscreen]
    exact .refl _
  exact .of_within hf hwithin id (fun _ _ => id) (fun _ => hnodes) (fun _ => hsensors f)
    fun _ => hactuators

end Renewed

/-! ## Refills -/

/-- The action has changed none of the boxes, and of the fields only some that show nothing of the
tables. -/
abbrev Shown (s s' : Desk) : Prop :=
  Screen.Within (fun f => ¬ f.shows) (fun _ => False) s.screen s'.screen

theorem Shown.selected (h : Shown s s') (b : ComboBox) :
    s'.screen.selected b = s.screen.selected b := by
  rw [Screen.selected, h.combo b not_false, Screen.selected]

theorem Shown.text (h : Shown s s') (hf : f.shows) : s'.screen.text f = s.screen.text f :=
  Screen.Within.text h f (not_not.mpr hf)

/-- A refill after it. -/
theorem Shown.within {w : Screen} (h : Shown s s') (hw : Screen.Within T B s'.screen w) :
    Screen.Within (fun f => ¬ f.shows ∨ T f) B s.screen w :=
  (Screen.Within.mono h (fun _ => .inl) fun _ => False.elim).trans
    (hw.mono (fun _ => .inr) fun _ hb => hb)

/-- Bounds that nothing refills are those of the sensor that was selected. -/
theorem renewed_updateNodeSelects (hcol : ∀ s, col.same s s = true) (hshown : Shown s s')
    (hactuators : s'.database.actuators = s.database.actuators)
    (hlast : s'.database.nodes = [] → s.screen.selected .wsnSensorsNodeComboBox ≠ none →
      ∀ f, Screen.bound f → s.screen.text f = "") :
    Renewed col s (s'.draw (Screen.updateNodeSelects col)) := by
  have hnodes := Screen.updateNodeSelects_shows (d := s'.database) hcol s'.screen
  have hselected : ∀ b, (s'.screen.updateNodeSelects col s'.database).combo b =
      .filled s'.database.nodeIds → (s'.draw (Screen.updateNodeSelects col)).screen.selected b =
        s'.database.nodeIds.head? := fun b hb => congrArg Combo.selected hb
  have hnode := hselected _ hnodes.sensorsNode
  have hbound : ∀ f, f.shows → Screen.bound f →
      Renews col s (s'.draw (Screen.updateNodeSelects col)) f := by
    intro f hf hbound
    rw [Renews, Desk.detail, Screen.detail_bound hbound, hnode, Desk.detail,
      Screen.detail_bound hbound]
    cases hhead : s'.database.nodeIds.head? with
    | some i =>
      obtain ⟨hbox, htext⟩ := hnodes.first i hhead
      refine .inl ((htext f hbound).trans ?_)
      exact congrArg (Database.boundOf _ _ _ _) (congrArg Combo.selected hbox).symm
    | none =>
      have hnil := List.head?_eq_none_iff.mp hhead
      have htext : _ = s.screen.text f := ((hnodes.none hnil).2 f hbound).trans (hshown.text hf)
      by_cases hbefore : s.screen.selected .wsnSensorsNodeComboBox = none
      · refine .inr ⟨htext, ?_⟩
        rw [hbefore]
        rfl
      · exact .inl (htext.trans (hlast (List.map_eq_nil_iff.mp hnil) hbefore f hbound))
  intro f hf
  cases f with
  | wsnGeneralNodeAddressField =>
    refine .inl (hnodes.generalAddress.trans ?_)
    rw [Desk.detail, Screen.detail, hselected _ hnodes.general]
    rfl
  | wsnSensorsNodeAddressField =>
    refine .inl (hnodes.sensorsAddress.trans ?_)
    rw [Desk.detail, Screen.detail, hnode]
    rfl
  | wsnSensorsCalibrationMinField => exact hbound _ hf (.inl rfl)
  | wsnSensorsCalibrationMaxField => exact hbound _ hf (.inr rfl)
  | actuatorAddressField =>
    refine .of_within hf (hshown.within hnodes.within) ?_ ?_ (by simp) (by simp [Screen.bound])
      fun _ => hactuators
    · simp [TextField.shows, Screen.ofNodes, Screen.bound]
    · intro b hb
      obtain rfl := hb
      exact id
  | _ => exact hf.elim

theorem renewed_updateActuatorsSelects (hshown : Shown s s')
    (hnodes : s'.database.nodes = s.database.nodes)
    (hsensors : s'.database.sensors = s.database.sensors) :
    Renewed col s (s'.draw (Screen.updateActuatorsSelects col)) := by
  have hactuators : Screen.ActuatorsShown col s'.database s'.screen _ :=
    Screen.updateActuatorsSelects_shows s'.screen
  intro f hf
  by_cases haddress : f = .actuatorAddressField
  · subst haddress
    refine .inl (hactuators.address.trans ?_)
    exact congrArg (Screen.addressText _) (congrArg Combo.selected hactuators.actuator).symm
  · refine .of_within hf (hshown.within hactuators.within) (by simp [hf, haddress]) ?_
      (fun _ => hnodes) (fun _ _ _ => ?_) fun h => absurd h haddress
    · intro b hb hactuator
      cases f <;> cases b <;> simp_all [TextField.about, TextField.shows, ComboBox.showsActuators]
    · exact congrFun (congrFun (congrFun (Database.boundText_congr hsensors) _) _) _

/-- The listener of the sensors box asks for bounds whether a node is selected or not. -/
theorem renewed_updateSensorsSelect {id : Option String} (hshown : Shown s s')
    (hnodes : s'.database.nodes = s.database.nodes)
    (hactuators : s'.database.actuators = s.database.actuators)
    (hid : id = s.screen.selected .wsnSensorsNodeComboBox)
    (hnull : id = none → ∀ type ∈ (s'.database.typesOf col "null").head?,
      s'.database.Blank col "null" type) :
    Renewed col s (s'.draw fun d => Screen.updateSensorsSelect col d id) := by
  have hwithin : Screen.Within _ _ s'.screen (s'.screen.updateSensorsSelect col s'.database id) :=
    Screen.within_updateSensorsSelect id s'.screen
  have hnode : (s'.draw fun d => Screen.updateSensorsSelect col d id).screen.selected
      .wsnSensorsNodeComboBox = id := by
    rw [Desk.draw_screen, Screen.selected, hwithin.combo _ (by simp), ← Screen.selected,
      hshown.selected, hid]
  have hsensor : (s'.draw fun d => Screen.updateSensorsSelect col d id).screen.selected
      .wsnSensorsSensorsComboBox = (s'.database.typesOf col (spell id)).head? :=
    congrArg Combo.selected (Screen.updateSensorsSelect_combo id)
  intro f hf
  by_cases hbound : Screen.bound f
  · rw [Renews, Desk.detail, Screen.detail_bound hbound, hnode, hsensor, Desk.detail,
      Screen.detail_bound hbound, ← hid]
    cases htypes : s'.database.typesOf col (spell id) with
    | cons type types =>
      refine .inl ?_
      have hasked : spell (s'.screen.selected .wsnSensorsNodeComboBox) = spell id := by
        rw [hshown.selected, hid]
      rw [Desk.draw_screen, Screen.updateSensorsSelect_cons htypes, Screen.setCombo_text,
        Screen.showBounds_text hbound, hasked]
      cases id with
      | some id => rfl
      | none =>
        have hfirst : s'.database.typesOf col "null" = type :: types := htypes
        exact (hnull rfl type (by rw [hfirst]; rfl)).columnOf f
    | nil =>
      rw [Desk.draw_screen, Screen.updateSensorsSelect_nil htypes]
      simp only [List.head?_nil, Database.boundOf_none_right]
      split
      · rename_i hbefore
        rw [hshown.selected] at hbefore
        refine .inr ⟨hshown.text hf, ?_⟩
        rw [hbefore, Database.boundOf_none_right]
      · refine .inl ?_
        rw [Screen.setCombo_text, Screen.showBounds_text hbound, hshown.selected, ← hid]
        exact Database.boundText_of_typesOf htypes _ _
  · refine .of_within hf (hshown.within hwithin) (by simp [hf, hbound]) ?_ (fun _ => hnodes)
      (fun h => absurd h hbound) fun _ => hactuators
    intro b hb hsensors
    cases f <;> simp_all [TextField.about, Screen.bound, TextField.shows]

/-! ## Selections -/

namespace Screen

variable {e : Screen} {b : ComboBox} {i : String}

theorem about_iff (hf : f.shows) : f.about b ↔ writtenBy b f := by
  cases f <;> cases b <;> simp_all [TextField.about, TextField.shows, writtenBy, bound]

theorem contents_nodes {w : Screen} (hb : b.showsNodes) (hne : b ≠ .wsnSensorsSensorsComboBox) :
    w.contents col d b = d.nodeIds := by
  cases b with
  | wsnSensorsSensorsComboBox => exact absurd rfl hne
  | actuatorActuatorComboBox | actuatorRemoveActuatorComboBox => exact hb.elim
  | _ => rfl

theorem contents_actuators {w : Screen} (hb : b.showsActuators) :
    w.contents col d b = d.actuatorIds := by
  cases b with
  | actuatorActuatorComboBox | actuatorRemoveActuatorComboBox => rfl
  | _ => exact hb.elim

/-- The fields about a box show what they should once its listener has run. -/
theorem itemStateChanged_right (hcol : ∀ s, col.same s s = true) (hi : e.selected b = some i)
    (hnodes : b.showsNodes → b ≠ .wsnSensorsSensorsComboBox → i ∈ d.nodeIds)
    (hactuators : b.showsActuators → i ∈ d.actuatorIds)
    (hnull : b = .wsnSensorsSensorsComboBox → e.selected .wsnSensorsNodeComboBox = none →
      d.Blank col "null" i) (hf : writtenBy b f) :
    (e.itemStateChanged col d b).text f = (e.itemStateChanged col d b).detail col d f := by
  cases b with
  | wsnGeneralNodeComboBox =>
    obtain rfl := hf
    obtain ⟨a, ha⟩ := Database.nodeAddress_of_mem hcol (hnodes trivial (by simp))
    rw [itemStateChanged, wsnGeneralNodeChanged, hi, spell_some, ha, detail, showAddress,
      setText_text_self, setText_selected, hi, addressText, Option.bind_some, ha]
    rfl
  | actuatorActuatorComboBox =>
    obtain rfl := hf
    obtain ⟨a, ha⟩ := Database.actuatorAddress_of_mem hcol (hactuators trivial)
    rw [itemStateChanged, actuatorActuatorChanged, hi, spell_some, ha, detail, showAddress,
      setText_text_self, setText_selected, hi, addressText, Option.bind_some, ha]
    rfl
  | wsnSensorsSensorsComboBox =>
    rw [detail_bound hf, itemStateChanged, wsnSensorsSensorsChanged, showBounds_text hf, hi]
    change _ = d.boundOf col (columnOf f) (e.selected .wsnSensorsNodeComboBox)
      (e.selected .wsnSensorsSensorsComboBox)
    rw [hi]
    cases hnode : e.selected .wsnSensorsNodeComboBox with
    | none => exact (hnull rfl hnode).columnOf f
    | some id => rfl
  | wsnSensorsNodeComboBox =>
    obtain ⟨a, ha⟩ := Database.nodeAddress_of_mem hcol (hnodes trivial (by simp))
    have hafter : (e.itemStateChanged col d .wsnSensorsNodeComboBox).selected
        .wsnSensorsNodeComboBox = some i := by
      rw [selected, (within_itemStateChanged _ e).combo _ (not_listens_self _), ← selected, hi]
    rcases hf with rfl | hbound
    · rw [detail, hafter, addressText, Option.bind_some, ha, itemStateChanged,
        wsnSensorsNodeChanged_eq hi ha, setCombo_text,
        (within_showBounds (B := fun _ => False) _ _ _).text _ (by simp [bound]),
        setText_text_self]
      rfl
    · rw [detail_bound hbound, hafter, itemStateChanged, wsnSensorsNodeChanged_eq hi ha,
        setCombo_text, showBounds_text hbound, Database.boundText_head, setCombo_selected_self]
      rfl
  | _ => exact hf.elim

end Screen

theorem renewed_selectItem (hcol : ∀ s, col.same s s = true)
    (h : Mirrored col (· ≠ .wsnSensorsSensorsComboBox) s) {b : ComboBox} {i : String}
    (hnull : b = .wsnSensorsSensorsComboBox → i ∈ (s.screen.combo b).items →
      s.screen.selected b ≠ some i → s.screen.selected .wsnSensorsNodeComboBox = none →
        s.database.Blank col "null" i) :
    Renewed col s (s.draw fun d => Screen.selectItem col d b i) := by
  by_cases hsame : i ∈ (s.screen.combo b).items → s.screen.selected b = some i
  · rw [Desk.draw, selectItem_same hsame]
    exact .refl s
  obtain ⟨hi, hne⟩ := Classical.not_imp.mp hsame
  obtain ⟨e, he, hselected, heq⟩ := selectItem_listens col s.database hi hne
  have hlisted : b ≠ .wsnSensorsSensorsComboBox → i ∈ s.screen.contents col s.database b := by
    intro hb
    rw [← (h b hb).items]
    exact hi
  intro f hf
  by_cases hwritten : Screen.writtenBy b f
  · refine .inl ?_
    rw [Desk.detail, Desk.draw_screen, Desk.draw_database, heq]
    refine Screen.itemStateChanged_right hcol hselected
      (fun hb hne => Screen.contents_nodes hb hne ▸ hlisted hne)
      (fun hb => Screen.contents_actuators hb ▸ hlisted ?_) (fun hb hnone => ?_) hwritten
    · rintro rfl
      exact hb
    · subst hb
      refine hnull rfl hi hne ?_
      rwa [Screen.selected, he.combo _ (by simp [listens]), ← Screen.selected,
        Screen.setCombo_selected_of_ne _ _ (by simp)] at hnone
  · have hwithin : Screen.Within (Screen.writtenBy b) (fun b' => b' = b ∨ listens b b') s.screen
        (s.draw fun d => Screen.selectItem col d b i).screen :=
      (Screen.Within.setCombo _ (.inl rfl) _).trans
        ((within_selectItem b i s.screen).mono (fun _ h => h) fun _ => .inr)
    refine .of_within hf hwithin hwritten ?_ (fun _ => rfl) (fun _ _ _ => rfl) fun _ => rfl
    intro b' hb' hchanged
    rcases hchanged with rfl | ⟨rfl, rfl⟩
    · exact hwritten ((Screen.about_iff hf).mp hb')
    · exact hwritten (.inr ((Screen.about_iff hf).mp hb'))

/-! ## Calibration -/

/-- The pair is, to the database, the one selected on the sensors tab. -/
def Screen.selectsPair (col : Collation) (id type : String) (w : Screen) : Prop :=
  ∃ i ∈ w.selected .wsnSensorsNodeComboBox, ∃ j ∈ w.selected .wsnSensorsSensorsComboBox,
    col.same i id = true ∧ col.same j type = true

instance (id type : String) (w : Screen) : Decidable (w.selectsPair col id type) :=
  inferInstanceAs (Decidable (∃ i ∈ _, ∃ j ∈ _, _ ∧ _))

/-- Changing the bounds of a pair that is not selected changes no bound that should be shown. -/
theorem boundOf_mapBounds_of_not_selectsPair
    (hcol : Equivalence fun s t => col.same s t = true) {w : Screen} {id type : String}
    (h : ¬ w.selectsPair col id type) (g : Bounds → Bounds) (column : Bounds → Option Int32) :
    (d.mapBounds col id type g).boundOf col column (w.selected .wsnSensorsNodeComboBox)
        (w.selected .wsnSensorsSensorsComboBox) =
      d.boundOf col column (w.selected .wsnSensorsNodeComboBox)
        (w.selected .wsnSensorsSensorsComboBox) := by
  cases hi : w.selected .wsnSensorsNodeComboBox with
  | none => rfl
  | some i =>
    cases hj : w.selected .wsnSensorsSensorsComboBox with
    | none => rfl
    | some j =>
      exact Database.boundText_mapBounds_of_ne hcol (fun hsame => h ⟨i, hi, j, hj, hsame⟩) g column

/-- For the pair that is selected the new bounds should be shown. -/
theorem boundOf_mapBounds_of_selectsPair (hcol : Equivalence fun s t => col.same s t = true)
    {w : Screen} {id type : String} (h : w.selectsPair col id type) (g : Bounds → Bounds)
    (column : Bounds → Option Int32) :
    (d.mapBounds col id type g).boundOf col column (w.selected .wsnSensorsNodeComboBox)
        (w.selected .wsnSensorsSensorsComboBox) =
      ((((Query.bounds id type).run col d).head?.bind fun b => column (g b)).map fun n =>
        toString n.toInt).getD "" := by
  obtain ⟨i, hi, j, hj, hid, htype⟩ := h
  rw [Option.mem_def.mp hi, Option.mem_def.mp hj, Database.boundOf_some, Database.boundText,
    Database.run_bounds_of_same hcol hid htype, Database.run_bounds_mapBounds, List.head?_map,
    Option.bind_map]
  rfl

section Calibrating

variable [Jdk] {id type : String} {value : Int32}

omit [Jdk] in
theorem foldl_setText_text (fields : List TextField) (v : String) (w : Screen) (f : TextField) :
    (fields.foldl (fun w g => w.setText g v) w).text f = if f ∈ fields then v else w.text f := by
  induction fields generalizing w with
  | nil => simp
  | cons g fields ih =>
    rw [List.foldl_cons, ih]
    by_cases hfg : f = g
    · simp [hfg]
    · simp [hfg, Screen.setText_text_of_ne _ _ hfg]

omit [Jdk] in
theorem mem_calibration {u : Update} {b : Bounds} (hu : u ∈ calibration id type value b) :
    u = .setMin value id type ∨ u = .setMax value id type ∨ u = .setBounds value id type := by
  obtain ⟨max, min⟩ := b
  cases min with
  | none =>
    cases max with
    | none => exact .inr (.inr (List.mem_singleton.mp hu))
    | some max => exact absurd hu List.not_mem_nil
  | some min =>
    cases max with
    | none => exact absurd hu List.not_mem_nil
    | some max =>
      rcases List.mem_append.mp hu with hu | hu
      · exact .inl (List.mem_singleton.mp (List.mem_ite_nil_right.mp hu).2)
      · exact .inr (.inl (List.mem_singleton.mp (List.mem_ite_nil_right.mp hu).2))

omit [Jdk] in
/-- A calibration writes the value to the bounds it shows, and keeps the others. -/
theorem apply_of_calibration (col : Collation) {u : Update} {b : Bounds}
    (hu : u ∈ calibration id type value b) :
    ∃ g, (∀ d : Database, d.apply col u = d.mapBounds col id type g) ∧
      (∀ f ∈ u.shownIn, Screen.bound f) ∧ ∀ f, Screen.bound f → ∀ c, Screen.columnOf f (g c) =
        if f ∈ u.shownIn then some value else Screen.columnOf f c := by
  rcases mem_calibration hu with rfl | rfl | rfl
  · refine ⟨_, fun _ => Database.apply_setMin value, by simp [Update.shownIn, Screen.bound], ?_⟩
    intro f hf c
    rcases hf with rfl | rfl <;> rfl
  · refine ⟨_, fun _ => Database.apply_setMax value, by simp [Update.shownIn, Screen.bound], ?_⟩
    intro f hf c
    rcases hf with rfl | rfl <;> rfl
  · refine ⟨_, fun _ => Database.apply_setBounds value, by simp [Update.shownIn, Screen.bound], ?_⟩
    intro f hf c
    rcases hf with rfl | rfl <;> rfl

theorem renewed_writeShown (hcol : Equivalence fun s t => col.same s t = true) {u : Update}
    {b : Bounds} (hu : u ∈ calibration id type value b)
    (hrow : (Query.bounds id type).run col s.database ≠ [])
    (hselected : s.screen.selectedSensorIs id type = true ↔ s.screen.selectsPair col id type) :
    Renewed col s (s.writeShown col id type value u) := by
  obtain ⟨g, hg, hshown, hcolumn⟩ := apply_of_calibration col hu
  have hdatabase : (s.writeShown col id type value u).database =
      s.database.mapBounds col id type g := by
    rw [Desk.writeShown, Desk.draw_database, Desk.update_database, hg]
  have hwithin : Screen.Within (· ∈ u.shownIn) (fun _ => False) s.screen
      (s.writeShown col id type value u).screen := by
    refine ⟨fun f hf => ?_, fun b _ => congrFun (Mirrored.showBound_combo _ _) b⟩
    rw [Desk.writeShown, Desk.draw_screen, Desk.update_screen, Screen.showBound]
    split
    · rw [foldl_setText_text, if_neg hf]
    · rfl
  intro f hf
  by_cases hbound : Screen.bound f
  · have hboxes : ∀ b, (s.writeShown col id type value u).screen.selected b =
        s.screen.selected b := fun b => congrArg Combo.selected (hwithin.combo b not_false)
    rw [Renews, Desk.detail, Screen.detail_bound hbound, hboxes, hboxes, Desk.detail,
      Screen.detail_bound hbound, hdatabase]
    by_cases hpair : s.screen.selectsPair col id type
    · have hbefore := boundOf_mapBounds_of_selectsPair (d := s.database) hcol hpair (fun b => b)
        (Screen.columnOf f)
      rw [Database.mapBounds_id] at hbefore
      rw [boundOf_mapBounds_of_selectsPair hcol hpair, hbefore]
      obtain ⟨c, hc⟩ := Option.ne_none_iff_exists'.mp (mt List.head?_eq_none_iff.mp hrow)
      rw [hc, Option.bind_some, Option.bind_some, hcolumn f hbound]
      by_cases hf : f ∈ u.shownIn
      · refine .inl ?_
        rw [if_pos hf, Desk.writeShown, Desk.draw_screen, Screen.showBound, Desk.update_screen,
          if_pos (hselected.mpr hpair), foldl_setText_text, if_pos hf]
        rfl
      · exact .inr ⟨hwithin.text f hf, by rw [if_neg hf]⟩
    · refine .inr ⟨?_, boundOf_mapBounds_of_not_selectsPair hcol hpair g _⟩
      rw [Desk.writeShown, Desk.draw_screen, Screen.showBound, Desk.update_screen,
        if_neg fun h => hpair (hselected.mp h)]
  · refine .of_within hf hwithin (fun hmem => hbound (hshown f hmem)) (fun _ _ h => h) ?_
      (fun h => absurd h hbound) ?_
    · intro _
      rw [hdatabase]
      rfl
    · intro _
      rw [hdatabase]
      rfl

/-- The rows stay and so does the selection, whichever updates are run. -/
theorem renewed_foldl_writeShown (hcol : Equivalence fun s t => col.same s t = true) {b : Bounds}
    {us : List Update} (hus : ∀ u ∈ us, u ∈ calibration id type value b)
    (hrow : (Query.bounds id type).run col s.database ≠ [])
    (hselected : s.screen.selectedSensorIs id type = true ↔ s.screen.selectsPair col id type) :
    Renewed col s (us.foldl (Desk.writeShown col id type value) s) := by
  induction us generalizing s with
  | nil => exact .refl s
  | cons u us ih =>
    have hu : u ∈ calibration id type value b := hus u List.mem_cons_self
    refine (renewed_writeShown hcol hu hrow hselected).trans
      (ih (fun v hv => hus v (List.mem_cons_of_mem _ hv)) ?_ ?_)
    · obtain ⟨g, hg, -⟩ := apply_of_calibration col hu
      rw [Desk.writeShown, Desk.draw_database, Desk.update_database, hg,
        Database.run_bounds_mapBounds]
      exact mt List.map_eq_nil_iff.mp hrow
    · have hcombo : (s.writeShown col id type value u).screen.combo = s.screen.combo :=
        Mirrored.showBound_combo _ _
      simpa only [Screen.selectedSensorIs, Screen.selectsPair, Screen.selected, hcombo] using
        hselected

theorem renewed_calibrateIfTicked (hcol : Equivalence fun s t => col.same s t = true)
    (hselected : s.checked .wsnSensorsCalibrateCheck → ∀ b ∈ ((Query.bounds id type).run col
      s.database).head?, calibration id type value b ≠ [] →
        (s.screen.selectedSensorIs id type = true ↔ s.screen.selectsPair col id type)) :
    Renewed col s (s.calibrateIfTicked col id type value) := by
  unfold Desk.calibrateIfTicked
  split
  · rename_i hticked
    split
    · exact .refl s
    · rename_i b hb
      have hrow : (Query.bounds id type).run col s.database ≠ [] := by
        intro hnil
        rw [hnil] at hb
        cases hb
      cases hupdates : calibration id type value b with
      | nil => exact .refl s
      | cons u us =>
        rw [← hupdates]
        refine renewed_foldl_writeShown hcol (fun _ h => h) hrow (hselected hticked b hb ?_)
        rw [hupdates]
        exact List.cons_ne_nil u us
  · exact .refl s

end Calibrating

end CrossingReality
