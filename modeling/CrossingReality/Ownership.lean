import CrossingReality.Effects.Session
import CrossingReality.Registering

/-!
# Sensors belong to nodes

Over a session against one database, in which no database call fails, every sensor row carries the
id of a node row. The operator breaks this by adding a sensor by hand while the node box of the
sensors tab is empty.

* `Coherent` — the invariant: the node box lists only nodes, and sensors belong to nodes.
* `session_owned` — sessions in which a node is selected whenever a sensor is added by hand.
-/

namespace CrossingReality

open Effects

variable {col : Collation} {d d' : Database} {w w' : World} {url : String}

/-! ## Owners -/

/-- Every sensor row carries the id of a node row. -/
def Owned (col : Collation) (d : Database) : Prop := ∀ s ∈ d.sensors, d.hasNode col s.id

/-- A node that has just been registered has no sensors. -/
def FreshNodesBare (col : Collation) (d d' : Database) : Prop :=
  ∀ id, ¬ d.hasNode col id → d'.hasNode col id → ∀ s ∈ d'.sensors, col.same s.id id = false

theorem hasNode_iff {id : String} : d.hasNode col id ↔ ∃ n ∈ d.nodeIds, col.same n id = true := by
  simp [Database.hasNode]

theorem hasNode_congr (h : d'.nodeIds = d.nodeIds) {id : String} :
    d'.hasNode col id ↔ d.hasNode col id := by
  rw [hasNode_iff, hasNode_iff, h]

theorem hasNode_mono (h : ∀ n ∈ d.nodeIds, n ∈ d'.nodeIds) {id : String}
    (hid : d.hasNode col id) : d'.hasNode col id := by
  obtain ⟨n, hn, hsame⟩ := hasNode_iff.mp hid
  exact hasNode_iff.mpr ⟨n, h n hn, hsame⟩

theorem Owned.congr (hnodes : d'.nodeIds = d.nodeIds) (hsensors : d'.sensors = d.sensors)
    (h : Owned col d) : Owned col d' := by
  rintro s hs
  rw [hsensors] at hs
  exact (hasNode_congr hnodes).mpr (h s hs)

namespace Deed

variable {deed : Deed}

/-- Only removing a node takes ids away. -/
theorem nodeIds_subset (h : ∀ id, deed ≠ .removeNode id) :
    ∀ n ∈ d.nodeIds, n ∈ (deed.apply col d).nodeIds := by
  intro n hn
  cases deed with
  | removeNode id => exact absurd rfl (h id)
  | addNode id address =>
    have : (d.apply col (.insertNode id address)).nodeIds = d.nodeIds ++ [id] := List.map_append
    rw [Deed.apply, this]
    exact List.mem_append_left _ hn
  | learn id type value =>
    obtain ⟨f, hf⟩ := learn_eq_mapBounds col d id type value
    rw [Deed.apply, hf]
    exact hn
  | nothing | addSensor | removeSensor | reset => exact hn

/-- The owners of the sensors after a deed: those before, and that of the sensor added. -/
theorem sensor_id_of_mem {s : SensorRow} (hs : s ∈ (deed.apply col d).sensors) :
    (∃ s' ∈ d.sensors, s'.id = s.id ∧ ∀ id, deed = .removeNode id → col.same s.id id = false) ∨
      ∃ type, deed = .addSensor s.id type := by
  cases deed with
  | nothing | addNode => exact .inl ⟨s, hs, rfl, by simp⟩
  | addSensor id type =>
    rcases List.mem_append.mp hs with hs | hs
    · exact .inl ⟨s, hs, rfl, by simp⟩
    · obtain rfl := List.mem_singleton.mp hs
      exact .inr ⟨type, rfl⟩
  | learn id type value =>
    obtain ⟨f, hf⟩ := learn_eq_mapBounds col d id type value
    rw [Deed.apply, hf, Database.mapBounds_sensors] at hs
    obtain ⟨s', hs', rfl⟩ := List.mem_map.mp hs
    refine .inl ⟨s', hs', ?_, by simp⟩
    split <;> rfl
  | removeNode id =>
    obtain ⟨hs, hid⟩ := List.mem_filter.mp hs
    refine .inl ⟨s, hs, rfl, ?_⟩
    rintro _ ⟨⟩
    simpa using hid
  | removeSensor id type => exact .inl ⟨s, (List.mem_filter.mp hs).1, rfl, by simp⟩
  | reset id type =>
    rw [Deed.apply, Database.apply_resetBounds, Database.mapBounds_sensors] at hs
    obtain ⟨s', hs', rfl⟩ := List.mem_map.mp hs
    refine .inl ⟨s', hs', ?_, by simp⟩
    split <;> rfl

/-- A deed keeps sensors with nodes, if it adds none but to a node. -/
theorem owned_apply (hcol : Equivalence fun s t => col.same s t = true) (h : Owned col d)
    (hadd : ∀ id type, deed = .addSensor id type → d.hasNode col id) :
    Owned col (deed.apply col d) := by
  intro s hs
  rcases sensor_id_of_mem hs with ⟨s', hs', hid, hkept⟩ | ⟨type, hdeed⟩
  · have howner := h s' hs'
    rw [hid] at howner
    by_cases hremove : ∀ id, deed ≠ .removeNode id
    · exact hasNode_mono (nodeIds_subset hremove) howner
    · -- The node of a sensor that stays is not among those removed.
      obtain ⟨id, rfl⟩ := not_forall_not.mp hremove
      obtain ⟨n, hn, hsame⟩ := howner
      refine ⟨n, List.mem_filter.mpr ⟨hn, ?_⟩, hsame⟩
      have hnot := hkept id rfl
      by_contra hc
      rw [Bool.not_eq_true', Bool.not_eq_false] at hc
      rw [hcol.trans (hcol.symm hsame) hc] at hnot
      cases hnot
  · exact hasNode_mono (nodeIds_subset (by simp [hdeed])) (hadd s.id type hdeed)

end Deed

/-! ## The invariant -/

/-- The window and the registry agree. -/
structure Coherent (col : Collation) (url : String) (w : World) : Prop where
  address : w.mysql .mysqlAddress = some url
  owned : Owned col w.database
  items : ∀ s ∈ (w.combo .wsnSensorsNodeComboBox).items, s ∈ w.database.nodeIds
  selected : ∀ s, (w.combo .wsnSensorsNodeComboBox).selected = some s → s ∈ w.database.nodeIds

/-- A sensor is only added by hand while a node is selected. -/
def NodeChosen (a : Action) (w : World) : Prop :=
  a = .press .wsnSensorsManualAddSensorButton →
    (w.text .wsnSensorsManualSensorAddType).isEmpty = false →
      (w.combo .wsnSensorsNodeComboBox).selected ≠ none

/-- The sensor a turn adds goes to a registered node. -/
theorem Leads.hasNode {a : Action} {id type : String} (hcol : ∀ s, col.same s s = true)
    (h : Leads col w a (.addSensor id type)) (hw : Coherent col url w) (ha : NodeChosen a w) :
    w.database.hasNode col id := by
  cases h with
  | sensorRead hnode _ => exact hnode
  | sensorTyped htype h =>
    obtain ⟨s, hs⟩ := Option.ne_none_iff_exists'.mp (ha rfl htype)
    rw [hs, spell_some]
    exact hasNode_iff.mpr ⟨s, hw.selected s hs, hcol s⟩

/-- **Step.** A turn keeps the window and the registry in agreement. -/
theorem Coherent.turned {a : Action} {deed : Deed}
    (hcol : Equivalence fun s t => col.same s t = true) (hw : Coherent col url w)
    (ha : NodeChosen a w) (h : Turned col w a deed w') (hurl : w'.mysql .mysqlAddress = some url) :
    Coherent col url w' := by
  have howned : Owned col w'.database := by
    refine Owned.congr h.nodeIds h.sensors (deed.owned_apply hcol hw.owned ?_)
    rintro id type rfl
    exact h.leads.hasNode hcol.refl hw ha
  have hstay : (∀ id, deed ≠ .removeNode id) → ∀ s ∈ w.database.nodeIds,
      s ∈ w'.database.nodeIds := by
    intro hdeed s hs
    rw [h.nodeIds]
    exact Deed.nodeIds_subset hdeed s hs
  refine ⟨hurl, howned, ?_, ?_⟩
  · intro s hs
    obtain hb | ⟨hdeed, hb⟩ | ⟨hdeed, t, hb⟩ := h.boxed
    · rw [hb] at hs
      exact hs
    · rw [hb] at hs
      exact hstay hdeed s (hw.items s hs)
    · rw [hb] at hs
      refine hstay hdeed s (hw.items s ?_)
      unfold Combo.setSelectedItem at hs
      split at hs <;> exact hs
  · intro s hs
    obtain hb | ⟨hdeed, hb⟩ | ⟨hdeed, t, hb⟩ := h.boxed
    · rw [hb] at hs
      exact List.mem_of_mem_head? hs
    · rw [hb] at hs
      exact hstay hdeed s (hw.selected s hs)
    · rw [hb] at hs
      refine hstay hdeed s ?_
      unfold Combo.setSelectedItem at hs
      split at hs
      · obtain rfl : t = s := Option.some_inj.mp hs
        exact hw.items t ‹_›
      · exact hw.selected s hs

/-- A turn that registers a node finds no sensor of it. -/
theorem Coherent.bare {a : Action} {deed : Deed}
    (hcol : Equivalence fun s t => col.same s t = true) (hw : Coherent col url w)
    (h : Turned col w a deed w') : FreshNodesBare col w.database w'.database := by
  intro id hbefore hafter s hs
  rw [hasNode_congr h.nodeIds] at hafter
  rw [h.sensors] at hs
  cases deed with
  | addNode i address =>
    rw [Bool.eq_false_iff]
    intro hsame
    obtain ⟨n, hn, hown⟩ := hw.owned s hs
    exact hbefore ⟨n, hn, hcol.trans hown hsame⟩
  | removeNode i =>
    obtain ⟨n, hn, hsame⟩ := hafter
    exact absurd ⟨n, (List.mem_filter.mp hn).1, hsame⟩ hbefore
  | learn i type value =>
    obtain ⟨f, hf⟩ := learn_eq_mapBounds col w.database i type value
    rw [Deed.apply, hf] at hafter
    exact absurd hafter hbefore
  | nothing | addSensor | removeSensor | reset => exact absurd hafter hbefore

/-! ## Sessions -/

/-- A window over empty tables. -/
structure Fresh (url : String) (w : World) : Prop where
  address : w.mysql .mysqlAddress = some url
  nodes : w.database.nodes = []
  sensors : w.database.sensors = []
  box : w.combo .wsnSensorsNodeComboBox = .empty

theorem Fresh.coherent (hw : Fresh url w) : Coherent col url w := by
  refine ⟨hw.address, ?_, ?_, ?_⟩
  · simp [Owned, hw.sensors]
  · simp [hw.box, Combo.empty]
  · simp [hw.box, Combo.empty]

/-- A turn of the program. -/
abbrev PanelTurn := Turn calls World Exn Unit Action

/-- Every turn leaves the program with the same database. -/
def OneDatabase (url : String) (ts : List PanelTurn) : Prop :=
  ∀ t ∈ ts, t.after.mysql .mysqlAddress = some url

instance (url : String) (ts : List PanelTurn) : Decidable (OneDatabase url ts) :=
  inferInstanceAs (Decidable (∀ t ∈ ts, _ = _))

section Sessions

variable [Jdk]

theorem Coherent.turns {t : PanelTurn} (hcol : Equivalence fun s t => col.same s t = true)
    (hw : Coherent col url t.before)
    (hrun : Runs (under col httpFault) t.action.program t.before t.trace t.outcome t.after)
    (hurl : t.after.mysql .mysqlAddress = some url) :
    ∃ deed, Turned col t.before t.action deed t.after :=
  hrun.of_wp (turns_action t.action (fun _ h => h) hw.address hcol.refl) hurl

/-- **Ownership.** Take a session over tables that were empty at first, in which no database call
fails and a node is selected whenever a sensor is added by hand. Every sensor belongs to a node,
and a node that is registered starts without sensors. -/
theorem session_owned {w₀ : World} {ts : List PanelTurn}
    (hcol : Equivalence fun s t => col.same s t = true) (hfresh : Fresh url w₀)
    (h : Session (under col httpFault) Action.program w₀ ts w) (hurl : OneDatabase url ts)
    (hchosen : ∀ t ∈ ts, NodeChosen t.action t.before) :
    Owned col w.database ∧ ∀ t ∈ ts, FreshNodesBare col t.before.database t.after.database := by
  have hI : Coherent col url w ∧
      ∀ t ∈ ts, FreshNodesBare col t.before.database t.after.database := by
    refine h.invariant (I := fun ts w => Coherent col url w ∧
        ∀ t ∈ ts, FreshNodesBare col t.before.database t.after.database)
      (C := fun t => t.after.mysql .mysqlAddress = some url ∧ NodeChosen t.action t.before)
      (fun t ht => ⟨hurl t ht, hchosen t ht⟩) ⟨hfresh.coherent, by simp⟩ ?_
    rintro ts t ⟨hw, hbare⟩ ⟨hurl', hchosen'⟩ hrun
    obtain ⟨deed, hturned⟩ := hw.turns hcol hrun hurl'
    refine ⟨hw.turned hcol hchosen' hturned hurl', fun u hu => ?_⟩
    rcases List.mem_append.mp hu with hu | hu
    · exact hbare u hu
    · obtain rfl := List.mem_singleton.mp hu
      exact hw.bare hcol hturned
  exact ⟨hI.1.owned, hI.2⟩

end Sessions

/-! ## Start-up -/

/-- What the details file can change before the boxes are filled. -/
def Call.loads : Call → Prop
  | .readMysqldetails | .setMysql _ _ | .append _ => True
  | .setText f _ => ¬ f.shows
  | _ => False

theorem loads_loadFile : loadFile.Uses Call.loads fun _ => True := by
  have hpiece : ∀ (s : String) (i : Nat) (d : Detail) (f : TextField), ¬ f.shows →
      (loadDetail (split s ',') i d f).Uses Call.loads fun _ => True := by
    intro s i d f hf
    refine .bind ?_ fun piece => by simpa [Call.loads, setText] using hf
    unfold pieceAt
    split <;> simp
  simp only [loadFile, uses_call_bind]
  refine ⟨trivial, fun r => ?_⟩
  cases r with
  | notFound | failed => simp [appendToOutput, Call.loads]
  | line s =>
    cases s with
    | none => simp [loadLine]
    | some s =>
      exact (hpiece _ _ _ _ id).bind fun _ => (hpiece _ _ _ _ id).bind fun _ => hpiece _ _ _ _ id

theorem step_loads {c : Call} (hc : c.loads) (f : Fate) :
    (step col c f w).2.servers = w.servers ∧ (step col c f w).2.combo = w.combo := by
  cases c <;> first | exact ⟨rfl, rfl⟩ | exact hc.elim

theorem step_loads_text {c : Call} (hc : c.loads) (f : Fate) {g : TextField} (hg : g.shows) :
    (step col c f w).2.text g = w.text g := by
  cases c with
  | setText g' v =>
    refine Function.update_of_ne ?_ _ _
    rintro rfl
    exact hc hg
  | readMysqldetails | setMysql | append => rfl
  | _ => exact hc.elim

/-- Starting up over empty tables leaves the window fresh, whatever the details file holds. -/
theorem fresh_startUp {servers : String → Database} {details : Option String}
    (hnodes : (servers url).nodes = []) (hsensors : (servers url).sensors = []) :
    wp (under col httpFault) startUp
      (fun _ w => w.mysql .mysqlAddress = some url → Fresh url w)
      (fun _ w => w.mysql .mysqlAddress = some url → Fresh url w)
      (World.launched servers details) := by
  have hfresh : ∀ w : World, w.servers = servers →
      w.combo .wsnSensorsNodeComboBox = .empty → w.mysql .mysqlAddress = some url →
      Fresh url w := fun w hs hb hurl =>
    ⟨hurl, by rw [World.database_of_url hurl, hs, hnodes],
      by rw [World.database_of_url hurl, hs, hsensors], hb⟩
  have hload : ∀ c f (w : World), Call.loads c →
      (w.servers = servers ∧ w.combo = fun _ => .empty) →
      (step col c f w).2.servers = servers ∧ (step col c f w).2.combo = fun _ => .empty :=
    fun c f w hc hw => ⟨(step_loads hc f).1.trans hw.1, (step_loads hc f).2.trans hw.2⟩
  simp only [startUp, loadMysqlDetails, wp_bind]
  refine (wp_of_steps loads_loadFile hload ⟨rfl, rfl⟩).mono (fun _ w h => ?_)
    fun _ w h hurl => hfresh w h.2.1 (by rw [h.2.2]) hurl
  obtain ⟨hs, hc⟩ := h
  have hlists : ∀ t c q, (w.mysql .mysqlAddress = some url →
      c .wsnSensorsNodeComboBox = Combo.empty) →
      wp (under col httpFault) updateActuatorsSelects (fun _ w =>
        wp (under col httpFault) (call (.setIgnoreNodeList [])) (fun _ w =>
          wp (under col httpFault) (call (.setIgnoreSensorList []))
            (fun _ w => w.mysql .mysqlAddress = some url → Fresh url w)
            (fun _ w => w.mysql .mysqlAddress = some url → Fresh url w) w)
          (fun _ w => w.mysql .mysqlAddress = some url → Fresh url w) w)
        (fun _ w => w.mysql .mysqlAddress = some url → Fresh url w) (w.redrawn t c q) := by
    intro t c q hc
    refine wp_redraws redraws_updateActuatorsSelects fun _ t' c' q' hf => ?_
    rw [wp_call_steady (fun _ => rfl), wp_call_steady (fun _ => rfl)]
    refine fun hurl => hfresh _ hs ?_ hurl
    exact (hf.combo .wsnSensorsNodeComboBox not_false).trans (hc hurl)
  cases haddr : w.mysql .mysqlAddress with
  | none =>
    refine wp_redraws redraws_updateNodeSelects fun _ t c q _ => hlists t c q fun h => ?_
    rw [haddr] at h
    cases h
  | some a =>
    refine wp_updateNodeSelects (not_trouble haddr) fun t c q _ _ _ hbox => hlists t c q fun h => ?_
    rw [hbox, World.database_of_url h, hs, Database.nodeIds, hnodes]
    rfl

/-! ## A sensor of no node -/

theorem exact_equivalence : Equivalence fun s t => Collation.exact.same s t = true :=
  ⟨by simp, by simp +contextual, by simp +contextual⟩

/-- A window over empty tables, as it is after start-up. -/
def emptyWorld : World := .running "jdbc:mysql://db" .empty

theorem fresh_emptyWorld : Fresh "jdbc:mysql://db" emptyWorld := ⟨rfl, rfl, rfl, rfl⟩

/-- The turns of some actions, nothing failing. -/
def played (as : List Action) : List (Turn calls World Exn Unit Action) :=
  (machine .exact).turns .fine (@Action.program plainJdk) (as.map fun a => (a, [])) emptyWorld

/-- The world they lead to. -/
def playedTo (as : List Action) : World :=
  (machine .exact).endOf .fine (@Action.program plainJdk) (as.map fun a => (a, [])) emptyWorld

theorem session_played (as : List Action) :
    Session (under .exact httpFault) (@Action.program plainJdk) emptyWorld (played as)
      (playedTo as) :=
  Machine.session_turns (fun _ _ h => by cases h) (by simp) .nil

/-- Add a sensor by hand while no node is selected. -/
def addLonelySensor : List Action :=
  [.typeText .wsnSensorsManualSensorAddType "light", .press .wsnSensorsManualAddSensorButton]

/-- The sensor is registered for the node `null`, which there is not. -/
theorem not_always_owned : ¬ ∀ (jdk : Jdk) (col : Collation) (url : String) (w₀ w : World)
    (ts : List (Turn calls World Exn Unit Action)), Equivalence (fun s t => col.same s t = true) →
    Fresh url w₀ → Session (under col httpFault) (@Action.program jdk) w₀ ts w →
    OneDatabase url ts → Owned col w.database := by
  intro h
  have howned := h plainJdk .exact _ _ _ _ exact_equivalence fresh_emptyWorld
    (session_played addLonelySensor) (by decide +kernel)
  have hsensors : (playedTo addLonelySensor).database.sensors = [⟨"null", "light", none, none⟩] :=
    by decide +kernel
  have hnodes : (playedTo addLonelySensor).database.nodes = [] := by decide +kernel
  obtain ⟨n, hn, -⟩ := howned ⟨"null", "light", none, none⟩ (by rw [hsensors]; simp)
  rw [hnodes] at hn
  cases hn

/-- Add a node by hand, then a sensor of it. -/
def addSensorOfNode : List Action :=
  [.typeText .wsnGeneralManualNodeAddId "1",
   .typeText .wsnGeneralManualNodeAddAddress "http://vw",
   .press .wsnGeneralManualNodeAddButton,
   .typeText .wsnSensorsManualSensorAddType "light",
   .press .wsnSensorsManualAddSensorButton]

instance (a : Action) (w : World) : Decidable (NodeChosen a w) :=
  inferInstanceAs (Decidable (_ → _ → _))

theorem addSensorOfNode_owned : Owned .exact (playedTo addSensorOfNode).database ∧
    ∀ t ∈ played addSensorOfNode, FreshNodesBare .exact t.before.database t.after.database :=
  @session_owned .exact _ "jdbc:mysql://db" plainJdk _ _ exact_equivalence fresh_emptyWorld
    (session_played addSensorOfNode) (by decide +kernel) (by decide +kernel)

end CrossingReality
