import CrossingReality.Ownership

/-!
# Where the addresses come from

An address enters the `nodes` table by *Add node* or by *Save node address*, and leaves it with its
row. Auto add puts no address in. So what a reading is posted to is what the operator saved last.

**Theorem (`session_provenance`).** In every session from empty tables, a reading is forwarded to
the address last saved for its node since the node was registered, and every address in the
tables parses.
-/

namespace CrossingReality

open Effects

section Addresses

variable [Jdk] {col : Collation} {may : Call → Prop} {w w' : World} {url : String}

/-! ## What a turn does to the addresses -/

/-- What a turn makes of the `nodes` table. -/
inductive Wrote (col : Collation) (w : World) : Action → List NodeRow → Prop
  | kept {a : Action} (hsave : a = .press .wsnGeneralUpdateNodeAddressButton →
      parsesURL (some (w.text .wsnGeneralNodeAddressField)) = false) :
      Wrote col w a w.database.nodes
  | seen {id type : String} {value : Int32} (h : ¬ w.database.hasNode col id) :
      Wrote col w (.reading id type value) (w.database.apply col (.insertNode id none)).nodes
  | typed (h : ¬ w.database.hasNode col (w.text .wsnGeneralManualNodeAddId))
      (hparse : parsesURL (some (w.text .wsnGeneralManualNodeAddAddress)) = true) :
      Wrote col w (.press .wsnGeneralManualNodeAddButton) (w.database.apply col
        (.insertNode (w.text .wsnGeneralManualNodeAddId)
          (some (w.text .wsnGeneralManualNodeAddAddress)))).nodes
  | saved (hparse : parsesURL (some (w.text .wsnGeneralNodeAddressField)) = true) :
      Wrote col w (.press .wsnGeneralUpdateNodeAddressButton) (w.database.apply col
        (.setNodeAddress (w.text .wsnGeneralNodeAddressField)
          (spell (w.combo .wsnGeneralNodeComboBox).selected))).nodes
  | removed (id : String) : Wrote col w (.press .wsnGeneralRemoveNodeButton)
      (w.database.apply col (.deleteNode id)).nodes

/-- A node is selected on the general tab, if there is one. -/
def NodeShown (w : World) : Prop :=
  (w.combo .wsnGeneralNodeComboBox).selected = none → w.database.nodes = []

/-- What a turn of `a` from `w` to `w'` did with addresses. -/
structure Readdressed (col : Collation) (w : World) (a : Action) (w' : World) : Prop where
  nodes : Wrote col w a w'.database.nodes
  shown : NodeShown w → NodeShown w'
  actuators : ∀ r ∈ w'.database.actuators, ∀ s, r.address = some s →
    parsesURL (some s) = true ∨ ∃ r' ∈ w.database.actuators, r'.address = some s
  posts : w'.posts = w.posts ∨ ∃ id type value address x, a = .reading id type value ∧
    addressOf col w.database id = some address ∧
      w'.posts = w.posts ++ [⟨address, ⟨id, type, x⟩⟩]

/-- The turn did so, unless it changed the address of the database. -/
def Readdresses (col : Collation) (url : String) (w : World) (a : Action) (w' : World) : Prop :=
  w'.mysql .mysqlAddress = some url → Readdressed col w a w'

omit [Jdk] in
theorem nodeShown_of_filled
    (h : w.combo .wsnGeneralNodeComboBox = .filled w.database.nodeIds) : NodeShown w := by
  intro hnone
  rw [h] at hnone
  simpa [Combo.filled, Database.nodeIds] using hnone

/-- A turn that leaves nodes, actuators and POSTs alone. -/
theorem Readdressed.same {a : Action} (hsave : a ≠ .press .wsnGeneralUpdateNodeAddressButton)
    (hnodes : w'.database.nodes = w.database.nodes)
    (hactuators : w'.database.actuators = w.database.actuators) (hposts : w'.posts = w.posts)
    (hshown : NodeShown w → NodeShown w') : Readdressed col w a w' :=
  ⟨hnodes ▸ .kept fun h => absurd h hsave, hshown, fun r hr _ hs => .inr ⟨r, hactuators ▸ hr, hs⟩,
    .inl hposts⟩

omit [Jdk] in
theorem NodeShown.of_eq (h : NodeShown w)
    (hbox : w'.combo .wsnGeneralNodeComboBox = w.combo .wsnGeneralNodeComboBox)
    (hnodes : w'.database.nodes = [] ↔ w.database.nodes = []) : NodeShown w' := fun hnone =>
  hnodes.mpr (h (hbox ▸ hnone))

/-- A part that only redraws other boxes than the one of the general tab. -/
theorem readdresses_redraws {α : Type} {S : ComboBox → Prop} {a : Action} {p : Panel α}
    {E : Exn → World → Prop} {w' : World} (hp : Redraws S p) (hS : ¬ S .wsnGeneralNodeComboBox)
    (hsave : a ≠ .press .wsnGeneralUpdateNodeAddressButton)
    (hnodes : w'.database.nodes = w.database.nodes)
    (hactuators : w'.database.actuators = w.database.actuators) (hposts : w'.posts = w.posts)
    (hcombo : w'.combo = w.combo) :
    wp (under col may) p (fun _ => Readdresses col url w a) E w' :=
  wp_redraws hp fun _ t b q hf _ => .same hsave hnodes hactuators hposts fun h =>
    h.of_eq ((hf.combo _ hS).trans (by rw [hcombo])) (by rw [World.redrawn_database, hnodes])

/-- A refill of the node boxes, after a change of the `nodes` table. -/
theorem readdresses_refill {a : Action} {E : Exn → World → Prop} {w₁ : World}
    {g : World → World} (ht : ¬ Trouble may w₁)
    (hg : ∀ t b q, (g (w₁.redrawn t b q)).database = w₁.database ∧
      (g (w₁.redrawn t b q)).combo = b ∧ (g (w₁.redrawn t b q)).posts = w₁.posts)
    (hnodes : Wrote col w a w₁.database.nodes)
    (hactuators : w₁.database.actuators = w.database.actuators) (hposts : w₁.posts = w.posts) :
    wp (under col may) updateNodeSelects (fun _ w' => Readdresses col url w a (g w')) E w₁ := by
  refine wp_updateNodeSelects ht fun t b q hf hgeneral hr hs _ => ?_
  obtain ⟨hdb, hcombo, hsent⟩ := hg t b q
  refine ⟨hdb ▸ hnodes, fun _ => nodeShown_of_filled ?_, fun r hr _ hs => .inr ⟨r, ?_, hs⟩,
    .inl (hsent.trans hposts)⟩
  · rw [hcombo, hdb, hgeneral]
  · rw [← hactuators, ← hdb]
    exact hr

/-! ## The buttons -/

section Buttons

variable {E : Exn → World → Prop}

theorem readdresses_removeNode (id : Option String) (ht : ¬ Trouble may w)
    (hw : w.mysql .mysqlAddress = some url) :
    wp (under col may) (removeNode id)
      (fun _ => Readdresses col url w (.press .wsnGeneralRemoveNodeButton))
      (fun _ => Readdresses col url w (.press .wsnGeneralRemoveNodeButton)) w := by
  have hdb : ((w.update col url (.deleteNode (spell id))).update col url
      (.deleteSensors (spell id))).database = (w.database.apply col (.deleteNode (spell id))).apply
        col (.deleteSensors (spell id)) := by
    rw [World.update_database (by exact hw) col, World.update_database hw col]
  refine wp_removeNode ht hw (fun _ _ _ => .same nofun rfl rfl rfl fun h => h) fun q _ => ?_
  refine readdresses_refill (g := fun w' => w') (by exact ht)
    (fun _ _ _ => ⟨rfl, rfl, rfl⟩) ?_ (congrArg Database.actuators hdb :) rfl
  exact (congrArg Database.nodes hdb :) ▸ .removed (spell id)

theorem readdresses_removeSensor (id type : Option String) (ht : ¬ Trouble may w)
    (hw : w.mysql .mysqlAddress = some url) :
    wp (under col may) (removeSensor id type)
      (fun _ => Readdresses col url w (.press .wsnSensorsRemoveSensorButton))
      (fun _ => Readdresses col url w (.press .wsnSensorsRemoveSensorButton)) w := by
  have hdb := World.update_database hw col (.deleteSensor (spell id) (spell type))
  refine wp_removeSensor ht hw (fun _ _ _ => .same nofun rfl rfl rfl fun h => h) fun q _ => ?_
  refine readdresses_redraws (redraws_updateSensorsSelect (S := (· = .wsnSensorsSensorsComboBox))
    rfl id) nofun nofun ?_ ?_ rfl rfl
  · exact (congrArg Database.nodes hdb :)
  · exact (congrArg Database.actuators hdb :)

theorem readdresses_removeActuator (id : Option String) (ht : ¬ Trouble may w)
    (hw : w.mysql .mysqlAddress = some url) :
    wp (under col may) (removeActuator id)
      (fun _ => Readdresses col url w (.press .actuatorRemoveActuatorButton)) E w := by
  have hdb := World.update_database hw col (.deleteActuator (spell id))
  refine wp_removeActuator ht hw fun q => ?_
  refine wp_redraws redraws_updateActuatorsSelects fun _ t b q' hf _ => ?_
  have hnodes := congrArg Database.nodes hdb
  refine ⟨(hnodes :) ▸ .kept nofun, fun h => h.of_eq (hf.combo _ not_false) ?_,
    fun r hr s hs => .inr ⟨r, ?_, hs⟩, .inl rfl⟩
  · exact iff_of_eq (congrArg (· = []) hnodes :)
  · have hr' : r ∈ (w.database.apply col (.deleteActuator (spell id))).actuators := hdb ▸ hr
    exact (List.mem_filter.mp hr').1

theorem readdresses_manualNodeAdd (ht : ¬ Trouble may w) (hw : w.mysql .mysqlAddress = some url) :
    wp (under col may) manualNodeAdd
      (fun _ => Readdresses col url w (.press .wsnGeneralManualNodeAddButton))
      (fun _ => Readdresses col url w (.press .wsnGeneralManualNodeAddButton)) w := by
  have hdb := World.update_database hw col (.insertNode (w.text .wsnGeneralManualNodeAddId)
    (some (w.text .wsnGeneralManualNodeAddAddress)))
  refine wp_manualNodeAdd ht hw (fun q _ _ => .same nofun rfl rfl rfl fun h => h)
    (fun q _ _ _ _ _ => .same nofun rfl rfl rfl fun h => h) fun l q hl hid hnot hparse => ?_
  refine readdresses_refill (g := fun w' => (w'.setText .wsnGeneralManualNodeAddId "").setText
    .wsnGeneralManualNodeAddAddress "") (by exact ht)
    (fun _ _ _ => ⟨rfl, rfl, rfl⟩) ?_ (congrArg Database.actuators hdb :) rfl
  exact (congrArg Database.nodes hdb :) ▸ .typed hnot hparse

theorem readdresses_manualSensorAdd (ht : ¬ Trouble may w)
    (hw : w.mysql .mysqlAddress = some url) :
    wp (under col may) manualSensorAdd
      (fun _ => Readdresses col url w (.press .wsnSensorsManualAddSensorButton))
      (fun _ => Readdresses col url w (.press .wsnSensorsManualAddSensorButton)) w := by
  have hdb := World.update_database hw col (.insertSensor
    (spell (w.combo .wsnSensorsNodeComboBox).selected) (w.text .wsnSensorsManualSensorAddType))
  have hsame : ∀ w' : World, w'.database = (w.update col url (.insertSensor
      (spell (w.combo .wsnSensorsNodeComboBox).selected)
      (w.text .wsnSensorsManualSensorAddType))).database → w'.posts = w.posts →
      w'.combo .wsnGeneralNodeComboBox = w.combo .wsnGeneralNodeComboBox →
      Readdresses col url w (.press .wsnSensorsManualAddSensorButton) w' :=
      fun w' hw' hposts hbox _ =>
    have hadded := hw'.trans hdb
    have hnodes : w'.database.nodes = w.database.nodes := (congrArg Database.nodes hadded :)
    .same nofun hnodes (congrArg Database.actuators hadded :) hposts fun h =>
      h.of_eq hbox (iff_of_eq (congrArg (· = []) hnodes))
  refine wp_manualSensorAdd ht hw (fun q _ _ => .same nofun rfl rfl rfl fun h => h)
    (fun q _ _ => .same nofun rfl rfl rfl fun h => h) fun htype hnone hlist q => ?_
  obtain ⟨l, hl⟩ := Option.ne_none_iff_exists'.mp hlist
  refine wp_unignoreSensor hl (fun e _ => ?_) (fun _ t b q₆ hf => ?_)
    fun rest q₅ _ _ t b q₆ hf => ?_
  · exact hsame _ rfl rfl rfl
  · exact hsame _ rfl rfl (hf.combo _ nofun)
  · exact hsame _ rfl rfl (hf.combo _ nofun)

theorem readdresses_manualActuatorAdd (ht : ¬ Trouble may w)
    (hw : w.mysql .mysqlAddress = some url) :
    wp (under col may) manualActuatorAdd
      (fun _ => Readdresses col url w (.press .actuatorManualActuatorAddButton)) E w := by
  have hdb := World.update_database hw col (.insertActuator
    (w.text .actuatorManualActuatorAddId) (w.text .actuatorManualActuatorAddAddress))
  refine wp_manualActuatorAdd ht hw (fun q _ _ => .same nofun rfl rfl rfl fun h => h)
    fun q _ _ _ hparse => ?_
  refine wp_redraws redraws_updateActuatorsSelects fun _ t b q' hf _ => ?_
  have hnodes := congrArg Database.nodes hdb
  refine ⟨(hnodes :) ▸ .kept nofun, fun h => h.of_eq (hf.combo _ not_false) ?_,
    fun r hr s hs => ?_, .inl rfl⟩
  · exact iff_of_eq (congrArg (· = []) hnodes :)
  · have hr' : r ∈ (w.database.apply col (.insertActuator (w.text .actuatorManualActuatorAddId)
        (w.text .actuatorManualActuatorAddAddress))).actuators := hdb ▸ hr
    rcases List.mem_append.mp hr' with hr' | hr'
    · exact .inr ⟨r, hr', hs⟩
    · obtain rfl := List.mem_singleton.mp hr'
      obtain rfl := Option.some_inj.mp hs
      exact .inl hparse

theorem readdresses_calibrateReset (ht : ¬ Trouble may w) (hw : w.mysql .mysqlAddress = some url) :
    wp (under col may) calibrateReset
      (fun _ => Readdresses col url w (.press .wsnSensorsCalibrateResetButton)) E w := by
  refine wp_calibrateReset ht hw fun q _ => ?_
  have hdb := World.update_database hw col (.resetBounds
    (spell (w.combo .wsnSensorsNodeComboBox).selected)
    (spell (w.combo .wsnSensorsSensorsComboBox).selected))
  have hnodes := congrArg Database.nodes hdb
  refine .same nofun hnodes (congrArg Database.actuators hdb :) rfl fun h => h.of_eq rfl ?_
  exact iff_of_eq (congrArg (· = []) hnodes :)

theorem readdresses_updateNodeAddress (ht : ¬ Trouble may w)
    (hw : w.mysql .mysqlAddress = some url) :
    wp (under col may) updateNodeAddress
      (fun _ => Readdresses col url w (.press .wsnGeneralUpdateNodeAddressButton)) E w := by
  have hdb := World.update_database hw col (.setNodeAddress (w.text .wsnGeneralNodeAddressField)
    (spell (w.combo .wsnGeneralNodeComboBox).selected))
  have hactuators := congrArg Database.actuators hdb
  refine wp_updateNodeAddress ht hw (fun q hparse _ => ?_) fun q hparse _ => ?_
  · exact ⟨.kept fun _ => hparse, fun h => h, fun r hr _ hs => .inr ⟨r, hr, hs⟩, .inl rfl⟩
  · refine ⟨(congrArg Database.nodes hdb :) ▸ .saved hparse, fun h => h.of_eq rfl ?_,
      fun r hr _ hs => .inr ⟨r, (hactuators :) ▸ hr, hs⟩, .inl rfl⟩
    have hnil : (w.database.apply col (.setNodeAddress (w.text .wsnGeneralNodeAddressField)
        (spell (w.combo .wsnGeneralNodeComboBox).selected))).nodes = [] ↔ w.database.nodes = [] :=
      List.map_eq_nil_iff
    exact hdb ▸ hnil

theorem readdresses_updateActuatorAddress (ht : ¬ Trouble may w)
    (hw : w.mysql .mysqlAddress = some url) :
    wp (under col may) updateActuatorAddress
      (fun _ => Readdresses col url w (.press .actuatorUpdateActuatorAddressButton)) E w := by
  have hdb := World.update_database hw col (.setActuatorAddress (w.text .actuatorAddressField)
    (spell (w.combo .actuatorActuatorComboBox).selected))
  have hnodes := congrArg Database.nodes hdb
  refine wp_updateActuatorAddress ht hw (fun q hparse _ => .same nofun rfl rfl rfl fun h => h)
    fun q hparse _ => ?_
  refine ⟨(hnodes :) ▸ .kept nofun, fun h => h.of_eq rfl ?_, fun r hr s hs => ?_, .inl rfl⟩
  · exact iff_of_eq (congrArg (· = []) hnodes :)
  · have hr' : r ∈ (w.database.apply col (.setActuatorAddress (w.text .actuatorAddressField)
        (spell (w.combo .actuatorActuatorComboBox).selected))).actuators := hdb ▸ hr
    obtain ⟨r', hmem, rfl⟩ := List.mem_map.mp hr'
    split at hs
    · obtain rfl := Option.some_inj.mp hs
      exact .inl hparse
    · exact .inr ⟨r', hmem, hs⟩

end Buttons

/-! ## Readings -/

theorem readdresses_sensed {id type : String} {value : Int32} (ht : ¬ Trouble may w)
    (hw : w.mysql .mysqlAddress = some url) (hcol : col.same type type = true) :
    wp (under col may) (sensed id type value)
      (fun _ => Readdresses col url w (.reading id type value))
      (fun _ => Readdresses col url w (.reading id type value)) w := by
  have hskip : ∀ q, Readdresses col url w (.reading id type value) (w.quietly q) := fun q _ =>
    .same nofun rfl rfl rfl fun h => h
  have hlearnt : ∀ w' : World, w'.database = w.learnt col id type value → w'.combo = w.combo →
      (w'.posts = w.posts ∨ ∃ address x, addressOf col w.database id = some address ∧
        w'.posts = w.posts ++ [⟨address, ⟨id, type, x⟩⟩]) →
      Readdresses col url w (.reading id type value) w' := by
    intro w' hdb hcombo hposts _
    obtain ⟨f, hf⟩ := learnt_eq_mapBounds w col id type value
    rw [hf] at hdb
    have hnodes : w'.database.nodes = w.database.nodes := by rw [hdb, Database.mapBounds_nodes]
    refine ⟨hnodes ▸ .kept nofun, fun h => h.of_eq (by rw [hcombo]) (by rw [hnodes]),
      fun r hr _ hs => .inr ⟨r, ?_, hs⟩, hposts.imp_right ?_⟩
    · rwa [hdb, Database.mapBounds_actuators] at hr
    · rintro ⟨address, x, haddress, hposts⟩
      exact ⟨id, type, value, address, x, rfl, haddress, hposts⟩
  refine wp_sensed_parts ht hw hcol (fun q _ _ => hskip q) (fun q _ _ _ => hskip q)
    (fun l q hnode hauto hl hid => ?_) (fun q _ _ _ => hskip q) (fun e q _ _ _ _ => hskip q)
    (fun l q hnode hsensor hauto hl hpair => ?_) fun b q hnode hsensor hb => ?_
  · have hdb := World.withDatabase_database (w := w)
      (d := w.database.apply col (.insertNode id none)) hw
    refine readdresses_refill (g := fun w' => w') (by exact ht) (fun _ _ _ => ⟨rfl, rfl, rfl⟩)
      ?_ (congrArg Database.actuators hdb :) rfl
    exact (congrArg Database.nodes hdb :) ▸ .seen hnode
  · have hdb := World.withDatabase_database (w := w)
      (d := w.database.apply col (.insertSensor id type)) hw
    refine wp_redraws (redraws_updateSensorsSelect (S := (· = .wsnSensorsSensorsComboBox)) rfl _)
      fun _ t b q₂ hf q' => ?_
    have hnodes := congrArg Database.nodes hdb
    refine fun _ => .same nofun hnodes (congrArg Database.actuators hdb :) rfl fun h =>
      h.of_eq (hf.combo _ nofun) ?_
    exact iff_of_eq (congrArg (· = []) hnodes :)
  · have hdb := World.withDatabase_database (w := w) (d := w.learnt col id type value) hw
    refine wp_recognisedSensor (by exact ht) (by exact hw) hb (fun t q' hf h => ?_)
      fun address x ok t q' hf hgo ha => ?_
    · exact hlearnt _ hdb rfl (.inl rfl)
    · exact hlearnt _ hdb rfl (.inr ⟨address, x, ha, rfl⟩)

/-! ## All actions -/

/-- Pressing *Update* against the database that was configured already refills the boxes. -/
theorem readdresses_updateMysql {E : Exn → World → Prop} (ht : ∀ c, may c → ¬ c.isJdbc)
    (hw : w.mysql .mysqlAddress = some url) :
    wp (under col may) (actionPerformed .wsnGeneralUpdateMysqlAddressButton)
      (fun _ => Readdresses col url w (.press .wsnGeneralUpdateMysqlAddressButton)) E w := by
  simp only [actionPerformed, wp_bind]
  refine wp_takeMysqlFields fun m hm => ?_
  refine wp_updateNodeSelects ?_ fun t b q hf hg hr hs hurl => ?_
  · rintro (h | ⟨c, hc, hjdbc⟩)
    · exact hm h
    · exact ht c hc hjdbc
  have hdb : ({ w with mysql := m } : World).database = w.database :=
    database_of_servers hw hurl rfl
  exact .same (by simp) (congrArg Database.nodes hdb :) (congrArg Database.actuators hdb :) rfl
    fun _ => nodeShown_of_filled hg

theorem readdresses_saveMysql {E : Exn → World → Prop} (hw : w.mysql .mysqlAddress = some url) :
    wp (under col may) (actionPerformed .wsnGeneralSaveMysqlDetailsButton)
      (fun _ => Readdresses col url w (.press .wsnGeneralSaveMysqlDetailsButton)) E w := by
  refine wp_saveMysql fun m s q _ hurl => ?_
  have hdb : ((({ w with mysql := m } : World).withDetailsFile s).quietly q).database =
      w.database := database_of_servers hw hurl rfl
  refine .same nofun (congrArg Database.nodes hdb :) (congrArg Database.actuators hdb :) rfl
    fun h => h.of_eq rfl ?_
  exact iff_of_eq (congrArg (fun d => d.nodes = []) hdb :)

omit [Jdk] in
/-- Choosing from a box leaves something chosen. -/
theorem setSelectedItem_selected {c : Combo} {s : String}
    (h : (c.setSelectedItem s).selected = none) : c.selected = none := by
  unfold Combo.setSelectedItem at h
  split at h
  · cases h
  · exact h

theorem readdresses_action (a : Action) (ht : ∀ c, may c → ¬ c.isJdbc)
    (hw : w.mysql .mysqlAddress = some url) (hcol : ∀ s, col.same s s = true) :
    wp (under col may) a.program (fun _ => Readdresses col url w a)
      (fun _ => Readdresses col url w a) w := by
  have ht' : ¬ Trouble may w := by
    rintro (h | ⟨c, hc, hjdbc⟩)
    · simp [hw] at h
    · exact ht c hc hjdbc
  cases a with
  | reading id type value =>
    simp only [Action.program, wp_bind]
    exact readdresses_sensed ht' hw (hcol type)
  | press b =>
    cases b with
    | wsnGeneralUpdateNodeAddressButton => exact readdresses_updateNodeAddress ht' hw
    | wsnGeneralUpdateMysqlAddressButton => exact readdresses_updateMysql ht hw
    | wsnGeneralSaveMysqlDetailsButton => exact readdresses_saveMysql hw
    | wsnGeneralManualNodeAddButton => exact readdresses_manualNodeAdd ht' hw
    | wsnGeneralRemoveNodeButton =>
      simp only [Action.program, actionPerformed, wp_bind, wp_getSelectedItem]
      exact readdresses_removeNode _ ht' hw
    | wsnSensorsManualAddSensorButton => exact readdresses_manualSensorAdd ht' hw
    | wsnSensorsRemoveSensorButton =>
      simp only [Action.program, actionPerformed, wp_bind, wp_getSelectedItem]
      exact readdresses_removeSensor _ _ ht' hw
    | wsnSensorsCalibrateResetButton => exact readdresses_calibrateReset ht' hw
    | wsnGeneralRefreshNodeAddressButton =>
      exact readdresses_redraws (S := fun _ => False) redraws_refreshNodeAddress not_false (by simp)
        rfl rfl rfl rfl
    | actuatorManualActuatorAddButton => exact readdresses_manualActuatorAdd ht' hw
    | actuatorUpdateActuatorAddressButton => exact readdresses_updateActuatorAddress ht' hw
    | actuatorRefreshActuatorAddressButton =>
      exact readdresses_redraws (S := fun _ => False) redraws_refreshActuatorAddress not_false
        (by simp) rfl rfl rfl rfl
    | actuatorRemoveActuatorButton =>
      simp only [Action.program, actionPerformed, wp_bind, wp_getSelectedItem]
      exact readdresses_removeActuator _ ht' hw
  | tick b v =>
    simp only [Action.program, wp_setSelected]
    exact fun _ => .same (by simp) rfl rfl rfl fun h => h
  | typeText f s =>
    simp only [Action.program, typeInto]
    rw [wp_ite]
    simp only [wp_pure, wp_setText]
    exact ⟨fun _ _ => .same (by simp) rfl rfl rfl fun h => h,
      fun _ _ => .same (by simp) rfl rfl rfl fun h => h⟩
  | select b s =>
    simp only [Action.program, selectItem, wp_bind]
    rw [wp_call_steady (fun _ => rfl)]
    refine wp_fire _ fun t c q hf _ => .same (by simp) rfl rfl rfl fun h hnone => ?_
    have hbox : c .wsnGeneralNodeComboBox =
        (w.setCombo b ((w.combo b).setSelectedItem s)).combo .wsnGeneralNodeComboBox :=
      hf.combo _ (by rintro ⟨-, h⟩; cases h)
    refine h ?_
    rw [World.redrawn_combo, hbox] at hnone
    by_cases hb : b = .wsnGeneralNodeComboBox
    · subst hb
      exact setSelectedItem_selected (by simpa [World.setCombo] using hnone)
    · have hkept : (w.setCombo b ((w.combo b).setSelectedItem s)).combo .wsnGeneralNodeComboBox =
          w.combo .wsnGeneralNodeComboBox := Function.update_of_ne (Ne.symm hb) _ _
      rwa [hkept] at hnone

/-! ## The history of an address -/

/-- A turn after which a node is registered that was not before. -/
def Registers (col : Collation) (t : PanelTurn) (id : String) : Prop :=
  ¬ t.before.database.hasNode col id ∧ t.after.database.hasNode col id

/-- A turn after which a node is gone. -/
def Removes (col : Collation) (t : PanelTurn) (id : String) : Prop :=
  t.before.database.hasNode col id ∧ ¬ t.after.database.hasNode col id

/-- The operator saves an address for a node: *Save* while the node is selected, or *Add node* with
an id that is not in use. What does not parse is not saved. -/
inductive Saves (col : Collation) (t : PanelTurn) (id address : String) : Prop
  | saved (haction : t.action = .press .wsnGeneralUpdateNodeAddressButton)
      (hparse : parsesURL (some address) = true)
      (htext : t.before.text .wsnGeneralNodeAddressField = address)
      (hselected : ∃ s, (t.before.combo .wsnGeneralNodeComboBox).selected = some s ∧
        col.same s id = true)
  | typed (haction : t.action = .press .wsnGeneralManualNodeAddButton)
      (hparse : parsesURL (some address) = true)
      (htext : t.before.text .wsnGeneralManualNodeAddAddress = address)
      (hid : col.same (t.before.text .wsnGeneralManualNodeAddId) id = true)
      (hnew : Registers col t id)

/-- What the operator last saved for a node, since it was registered. -/
def LastSaved (col : Collation) (ts : List PanelTurn) (id address : String) : Prop :=
  ∃ ts₁ t ts₂, ts = ts₁ ++ t :: ts₂ ∧ Saves col t id address ∧
    ∀ u ∈ ts₂, ¬ Registers col u id ∧ ¬ Removes col u id ∧ ∀ address', ¬ Saves col u id address'

section History

variable {t : PanelTurn} {ts : List PanelTurn} {id id' a b : String}

theorem Saves.unique (ha : Saves col t id a) (hb : Saves col t id b) : a = b := by
  cases ha with
  | saved haction _ htext _ =>
    cases hb with
    | saved _ _ htext' _ => exact htext.symm.trans htext'
    | typed haction' _ _ _ _ => exact absurd (haction.symm.trans haction') nofun
  | typed haction _ htext _ _ =>
    cases hb with
    | saved haction' _ _ _ => exact absurd (haction.symm.trans haction') nofun
    | typed _ _ htext' _ _ => exact htext.symm.trans htext'

/-- A history has at most one address for a node. -/
theorem LastSaved.unique (ha : LastSaved col ts id a) (hb : LastSaved col ts id b) : a = b := by
  obtain ⟨ts₁, t, ts₂, rfl, hsaves, hlater⟩ := ha
  obtain ⟨us₁, u, us₂, heq, hsaves', hlater'⟩ := hb
  -- The later of the two saves is not followed by the other.
  rcases List.append_eq_append_iff.mp heq with ⟨m, rfl, hm⟩ | ⟨m, rfl, hm⟩
  · cases m with
    | nil =>
      obtain ⟨rfl, rfl⟩ := List.cons.inj hm
      exact hsaves.unique hsaves'
    | cons v m =>
      obtain ⟨rfl, rfl⟩ := List.cons.inj hm
      exact absurd hsaves' ((hlater u (by simp)).2.2 b)
  · cases m with
    | nil =>
      obtain ⟨rfl, rfl⟩ := List.cons.inj hm
      exact hsaves.unique hsaves'
    | cons v m =>
      obtain ⟨rfl, rfl⟩ := List.cons.inj hm
      exact absurd hsaves ((hlater' t (by simp)).2.2 a)

omit [Jdk] in
theorem hasNode_iff_of_same (hcol : Equivalence fun s t => col.same s t = true)
    (h : col.same id id' = true) (d : Database) : d.hasNode col id ↔ d.hasNode col id' :=
  exists_congr fun _ => and_congr_right fun _ =>
    ⟨fun hn => hcol.trans hn h, fun hn => hcol.trans hn (hcol.symm h)⟩

theorem Saves.congr (hcol : Equivalence fun s t => col.same s t = true)
    (h : col.same id id' = true) (hsaves : Saves col t id a) : Saves col t id' a := by
  have hnode := hasNode_iff_of_same hcol h
  cases hsaves with
  | saved haction hparse htext hselected =>
    obtain ⟨s, hs, hsame⟩ := hselected
    exact .saved haction hparse htext ⟨s, hs, hcol.trans hsame h⟩
  | typed haction hparse htext hid hnew =>
    refine .typed haction hparse htext (hcol.trans hid h) ?_
    exact ⟨mt (hnode _).mpr hnew.1, (hnode _).mp hnew.2⟩

theorem LastSaved.congr (hcol : Equivalence fun s t => col.same s t = true)
    (h : col.same id id' = true) (hlast : LastSaved col ts id a) : LastSaved col ts id' a := by
  have hnode := hasNode_iff_of_same hcol h
  obtain ⟨ts₁, t, ts₂, rfl, hsaves, hlater⟩ := hlast
  refine ⟨ts₁, t, ts₂, rfl, hsaves.congr hcol h, fun u hu => ?_⟩
  obtain ⟨hregisters, hremoves, hnone⟩ := hlater u hu
  refine ⟨?_, ?_, fun b hb => hnone b (hb.congr hcol (hcol.symm h))⟩
  · exact fun hr => hregisters ⟨mt (hnode _).mp hr.1, (hnode _).mpr hr.2⟩
  · exact fun hr => hremoves ⟨(hnode _).mpr hr.1, mt (hnode _).mp hr.2⟩

/-- What was saved last stays so over a turn that keeps the node and saves nothing for it. -/
theorem LastSaved.snoc (h : LastSaved col ts id a) (hbefore : t.before.database.hasNode col id)
    (hafter : t.after.database.hasNode col id) (hsaves : ∀ b, ¬ Saves col t id b) :
    LastSaved col (ts ++ [t]) id a := by
  obtain ⟨ts₁, u, ts₂, rfl, hsaved, hlater⟩ := h
  refine ⟨ts₁, u, ts₂ ++ [t], by simp, hsaved, fun v hv => ?_⟩
  rcases List.mem_append.mp hv with hv | hv
  · exact hlater v hv
  · obtain rfl := List.mem_singleton.mp hv
    exact ⟨fun hr => hr.1 hbefore, fun hr => hr.2 hafter, hsaves⟩

/-- For a registered node only *Save* saves. -/
theorem not_saves (hbefore : t.before.database.hasNode col id)
    (h : t.action = .press .wsnGeneralUpdateNodeAddressButton →
      parsesURL (some (t.before.text .wsnGeneralNodeAddressField)) = false ∨
        ∀ s, (t.before.combo .wsnGeneralNodeComboBox).selected = some s → col.same s id = false)
    (b : String) : ¬ Saves col t id b := by
  intro hsaves
  cases hsaves with
  | saved haction hparse htext hselected =>
    rcases h haction with hbad | hother
    · rw [htext, hparse] at hbad
      cases hbad
    · obtain ⟨s, hs, hsame⟩ := hselected
      rw [hother s hs] at hsame
      cases hsame
  | typed _ _ _ _ hnew => exact hnew.1 hbefore

end History

/-! ## The invariant -/

/-- What the tables hold of addresses was saved and parses. -/
structure Sourced (col : Collation) (url : String) (ts : List PanelTurn) (w : World) : Prop where
  address : w.mysql .mysqlAddress = some url
  shown : NodeShown w
  nodes : ∀ r ∈ w.database.nodes, ∀ a, r.address = some a →
    parsesURL (some a) = true ∧ LastSaved col ts r.id a
  actuators : ∀ r ∈ w.database.actuators, ∀ a, r.address = some a → parsesURL (some a) = true

/-- **Step.** A turn leaves no address but those last saved. -/
theorem Sourced.turned {ts : List PanelTurn} {t : PanelTurn}
    (hcol : Equivalence fun s t => col.same s t = true) (hw : Sourced col url ts t.before)
    (h : Readdressed col t.before t.action t.after)
    (hurl : t.after.mysql .mysqlAddress = some url) : Sourced col url (ts ++ [t]) t.after := by
  have hmem : ∀ {w : World} {r : NodeRow}, r ∈ w.database.nodes → w.database.hasNode col r.id :=
    fun {_ r} hr => ⟨r, hr, hcol.refl _⟩
  -- A row that was there already keeps what was saved for it, if nothing is saved now.
  have hkeep : ∀ r ∈ t.before.database.nodes, r ∈ t.after.database.nodes →
      (t.action = .press .wsnGeneralUpdateNodeAddressButton →
        parsesURL (some (t.before.text .wsnGeneralNodeAddressField)) = false ∨
          ∀ s, (t.before.combo .wsnGeneralNodeComboBox).selected = some s →
            col.same s r.id = false) →
      ∀ a, r.address = some a → parsesURL (some a) = true ∧ LastSaved col (ts ++ [t]) r.id a := by
    intro r hr hr' hsave a ha
    obtain ⟨hparse, hlast⟩ := hw.nodes r hr a ha
    exact ⟨hparse, hlast.snoc (hmem hr) (hmem hr') (not_saves (hmem hr) hsave)⟩
  refine ⟨hurl, h.shown hw.shown, ?_, ?_⟩
  · intro r hr a ha
    have hwrote := h.nodes
    generalize haction : t.action = action at hwrote
    generalize hnodes : t.after.database.nodes = nodes at hwrote
    rw [hnodes] at hr
    cases hwrote with
    | kept hsave =>
      exact hkeep r hr (hnodes ▸ hr) (fun h => .inl (hsave (haction.symm.trans h))) a ha
    | seen hnot =>
      rcases List.mem_append.mp hr with hold | hnew
      · exact hkeep r hold (hnodes ▸ hr) (fun h => by simp [haction] at h) a ha
      · obtain rfl := List.mem_singleton.mp hnew
        cases ha
    | typed hnot hparse =>
      rcases List.mem_append.mp hr with hold | hnew
      · exact hkeep r hold (hnodes ▸ hr) (fun h => by simp [haction] at h) a ha
      · obtain rfl := List.mem_singleton.mp hnew
        obtain rfl := Option.some_inj.mp ha
        refine ⟨hparse, ts, t, [], rfl, ?_, by simp⟩
        exact .typed haction hparse rfl (hcol.refl _) ⟨hnot, hmem (hnodes ▸ hr)⟩
    | saved hparse =>
      obtain ⟨r', hold, rfl⟩ := List.mem_map.mp hr
      obtain ⟨s, hs⟩ := Option.ne_none_iff_exists'.mp fun hnone =>
        List.ne_nil_of_mem hold (hw.shown hnone)
      rw [hs, spell_some] at hr ha ⊢
      by_cases hsame : col.same r'.id s = true
      · rw [if_pos hsame] at ha ⊢
        obtain rfl := Option.some_inj.mp ha
        refine ⟨hparse, ts, t, [], rfl, ?_, by simp⟩
        exact .saved haction hparse rfl ⟨s, hs, hcol.symm hsame⟩
      · rw [if_neg hsame] at hr ha ⊢
        refine hkeep r' hold (by rw [hnodes, hs]; exact hr) (fun _ => .inr fun s' hs' => ?_) a ha
        obtain rfl : s = s' := Option.some_inj.mp (hs.symm.trans hs')
        exact Bool.eq_false_iff.mpr fun h => hsame (hcol.symm h)
    | removed i =>
      have hold := (List.mem_filter.mp hr).1
      exact hkeep r hold (hnodes ▸ hr) (fun h => by simp [haction] at h) a ha
  · intro r hr a ha
    rcases h.actuators r hr a ha with hparse | ⟨r', hr', ha'⟩
    · exact hparse
    · exact hw.actuators r' hr' a ha'

/-! ## Sessions -/

/-- A turn forwards nothing, or the reading it is about, to the address last saved for the node. -/
def ForwardsToSaved (col : Collation) (ts : List PanelTurn) (t : PanelTurn) : Prop :=
  t.after.posts = t.before.posts ∨ ∃ id type value address x, t.action = .reading id type value ∧
    LastSaved col ts id address ∧ t.after.posts = t.before.posts ++ [⟨address, ⟨id, type, x⟩⟩]

theorem Sourced.forwards {ts : List PanelTurn} {t : PanelTurn}
    (hcol : Equivalence fun s t => col.same s t = true) (hw : Sourced col url ts t.before)
    (h : Readdressed col t.before t.action t.after) : ForwardsToSaved col ts t := by
  rcases h.posts with hnone | ⟨id, type, value, address, x, haction, haddress, hposts⟩
  · exact .inl hnone
  · obtain ⟨r, hr, hparsed⟩ := List.mem_filterMap.mp (List.mem_of_mem_head? haddress)
    obtain ⟨hmem, hsame⟩ := List.mem_filter.mp hr
    obtain ⟨ha, -⟩ := Option.filter_eq_some_iff.mp hparsed
    exact .inr ⟨id, type, value, address, x, haction,
      (hw.nodes r hmem address ha).2.congr hcol hsame, hposts⟩

theorem Sourced.turns {ts : List PanelTurn} {t : PanelTurn}
    (hcol : Equivalence fun s t => col.same s t = true) (hw : Sourced col url ts t.before)
    (hrun : Runs (under col httpFault) t.action.program t.before t.trace t.outcome t.after)
    (hurl : t.after.mysql .mysqlAddress = some url) :
    Readdressed col t.before t.action t.after :=
  hrun.of_wp (readdresses_action t.action (fun _ h => h) hw.address hcol.refl) hurl

/-- **Provenance.** Take a session from empty tables in which no database call fails. Every reading
that is forwarded goes to the address last saved for its node since the node was registered, and
every address in the tables parses. -/
theorem session_provenance {w₀ : World} {ts : List PanelTurn}
    (hcol : Equivalence fun s t => col.same s t = true) (hw₀ : w₀.mysql .mysqlAddress = some url)
    (hempty : w₀.database = .empty)
    (h : Session (under col httpFault) Action.program w₀ ts w) (hurl : OneDatabase url ts) :
    (∀ ts₁ t ts₂, ts = ts₁ ++ t :: ts₂ → ForwardsToSaved col ts₁ t) ∧
      (∀ r ∈ w.database.nodes, ∀ a, r.address = some a → parsesURL (some a) = true) ∧
        ∀ r ∈ w.database.actuators, ∀ a, r.address = some a → parsesURL (some a) = true := by
  have hstart : Sourced col url [] w₀ := by
    refine ⟨hw₀, fun _ => ?_, ?_, ?_⟩ <;> simp [hempty, Database.empty]
  have hsourced : ∀ {ts : List PanelTurn} {w : World},
      Session (under col httpFault) Action.program w₀ ts w → OneDatabase url ts →
        Sourced col url ts w := fun h hurl =>
    h.invariant (I := Sourced col url) hurl hstart fun ts t hw hurl' hrun =>
      hw.turned hcol (hw.turns hcol hrun hurl') hurl'
  have hend := hsourced h hurl
  refine ⟨?_, fun r hr a ha => (hend.nodes r hr a ha).1, hend.actuators⟩
  rintro ts₁ t ts₂ rfl
  obtain ⟨hbefore, hrun⟩ := h.split
  have hw := hsourced hbefore fun u hu => hurl u (by simp [hu])
  exact hw.forwards hcol (hw.turns hcol hrun (hurl t (by simp)))

end Addresses

/-- Add a node by hand and a sensor of it, save another address, and sense. -/
def senseSaved : List Action :=
  addSensorOfNode ++
    [.typeText .wsnGeneralNodeAddressField "http://other",
     .press .wsnGeneralUpdateNodeAddressButton,
     .reading "1" "light" 5]

theorem senseSaved_provenance :
    (∀ ts₁ t ts₂, played senseSaved = ts₁ ++ t :: ts₂ →
      @ForwardsToSaved plainJdk .exact ts₁ t) ∧
      (∀ r ∈ (playedTo senseSaved).database.nodes, ∀ a, r.address = some a →
        @parsesURL plainJdk (some a) = true) ∧
        ∀ r ∈ (playedTo senseSaved).database.actuators, ∀ a, r.address = some a →
          @parsesURL plainJdk (some a) = true :=
  @session_provenance plainJdk .exact _ "jdbc:mysql://db" _ _ exact_equivalence rfl rfl
    (session_played senseSaved) (by decide +kernel)

end CrossingReality
