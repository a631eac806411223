import CrossingReality.Ownership

/-!
# The bounds follow the readings

Over a session against one database that compares strings exactly, in which no database call
fails, the bounds of a sensor are the least and the greatest of its readings with *Calibrate*
ticked since it was last registered or reset.

* `heard` — the readings that count, as a history that every turn extends.
* `session_tracks` — sessions in which a node is selected whenever a sensor is added by hand.
-/

namespace CrossingReality

open Effects

variable {col : Collation} {d d' : Database} {w w' : World} {url : String}

/-! ## Histories -/

/-- The readings of each pair. -/
abbrev History := String × String → List Int32

/-- The history after one more turn. A pair the turn registers starts anew. -/
def heard (h : History) (t : PanelTurn) : History := fun k =>
  if k ∈ t.after.database.sensorKeys ∧ k ∉ t.before.database.sensorKeys then []
  else match t.action with
    | .reading id type value =>
      if (id, type) = k ∧ t.before.checked .wsnSensorsCalibrateCheck = true then h k ++ [value]
      else h k
    | .press .wsnSensorsCalibrateResetButton =>
      if (spell (t.before.combo .wsnSensorsNodeComboBox).selected,
          spell (t.before.combo .wsnSensorsSensorsComboBox).selected) = k then []
      else h k
    | _ => h k

/-- The bounds are null for no reading, and else the least and the greatest of the readings. -/
def Fits (l : List Int32) (b : Bounds) : Prop :=
  (l = [] ∧ b = ⟨none, none⟩) ∨
    ∃ lo hi, b = ⟨some hi, some lo⟩ ∧ lo ∈ l ∧ hi ∈ l ∧ ∀ v ∈ l, lo ≤ v ∧ v ≤ hi

/-- Every row of the sensors table fits its history. -/
def Tracks (h : History) (d : Database) : Prop :=
  ∀ r ∈ d.sensors, Fits (h (r.id, r.type)) r.bounds

/-- One more reading. -/
theorem Fits.calibrated {l : List Int32} {b : Bounds} (h : Fits l b) (v : Int32) :
    Fits (l ++ [v]) (calibrated v b) := by
  obtain ⟨rfl, rfl⟩ | ⟨lo, hi, rfl, hlo, hhi, hl⟩ := h
  · exact .inr ⟨v, v, rfl, by simp, by simp, by simp⟩
  · refine .inr ⟨if v < lo then v else lo, if hi < v then v else hi, rfl, ?_, ?_, ?_⟩
    · split <;> simp [hlo]
    · split <;> simp [hhi]
    · intro u hu
      rw [List.mem_append, List.mem_singleton] at hu
      have hlohi := hl lo hlo
      rcases hu with hu | rfl
      · have := hl u hu
        constructor <;> split <;> grind
      · constructor <;> split <;> grind

/-! ## Deeds and keys -/

/-- The keys after a deed. -/
theorem sensorKeys_apply {deed : Deed} (hd : d.sensorKeys.Nodup)
    (hadd : ∀ id type, deed = .addSensor id type → (id, type) ∉ d.sensorKeys) :
    (deed.apply col d).sensorKeys.Nodup := by
  cases deed with
  | nothing | addNode => exact hd
  | addSensor id type =>
    have : (d.apply col (.insertSensor id type)).sensorKeys = d.sensorKeys ++ [(id, type)] :=
      List.map_append
    rw [Deed.apply, this]
    refine List.nodup_append.mpr ⟨hd, by simp, ?_⟩
    rintro k hk _ hk' rfl
    rw [List.mem_singleton.mp hk'] at hk
    exact hadd id type rfl hk
  | learn id type value =>
    obtain ⟨f, hf⟩ := learn_eq_mapBounds col d id type value
    rw [Deed.apply, hf, Database.mapBounds_sensorKeys]
    exact hd
  | removeNode | removeSensor => exact hd.sublist (List.filter_sublist.map _)
  | reset id type =>
    rw [Deed.apply, Database.apply_resetBounds, Database.mapBounds_sensorKeys]
    exact hd

/-- Where a pair has one row, calibrating calibrates what is stored. -/
theorem learn_eq {id type : String} {value : Int32} (hd : d.sensorKeys.Nodup)
    (h : (id, type) ∈ d.sensorKeys) :
    d.learn .exact id type value = d.mapBounds .exact id type (calibrated value) := by
  obtain ⟨b, hb, hrows⟩ := Database.bounds_of_mem hd h
  obtain ⟨f, hf, hfb⟩ := foldl_calibration .exact id type d value b
  rw [Database.learn, hb]
  refine hf.trans (Database.mapBounds_congr fun r hr hm => ?_)
  rw [hrows r hr hm, hfb]

/-- A key added by hand was not there. -/
theorem Leads.not_mem_sensorKeys {a : Action} {id type : String}
    (h : Leads .exact w a (.addSensor id type)) : (id, type) ∉ w.database.sensorKeys := by
  cases h with
  | sensorRead _ hsensor => exact fun hk => hsensor (Database.hasSensor_exact.mpr hk)
  | sensorTyped _ h =>
    intro hk
    obtain ⟨r, hr, hkey⟩ := Database.mem_sensorKeys.mp hk
    have := List.filter_eq_nil_iff.mp h r hr
    exact this (Database.exact_matches.mpr hkey)

theorem Owned.hasNode_of_mem {id type : String} (h : Owned .exact d)
    (hk : (id, type) ∈ d.sensorKeys) : d.hasNode .exact id := by
  obtain ⟨r, hr, hkey⟩ := Database.mem_sensorKeys.mp hk
  rw [← (Prod.mk.inj hkey).1]
  exact h r hr

/-! ## One turn -/

/-- The history of a pair that a turn neither registers, nor reads with the box ticked, nor
resets. -/
theorem heard_eq {h : History} {t : PanelTurn} {k : String × String}
    (hk : k ∈ t.before.database.sensorKeys)
    (hreading : ∀ id type value, t.action = .reading id type value → (id, type) = k →
      ¬ t.before.checked .wsnSensorsCalibrateCheck = true)
    (hreset : t.action = .press .wsnSensorsCalibrateResetButton →
      (spell (t.before.combo .wsnSensorsNodeComboBox).selected,
        spell (t.before.combo .wsnSensorsSensorsComboBox).selected) ≠ k) :
    heard h t k = h k := by
  unfold heard
  rw [if_neg fun hnew => hnew.2 hk]
  split
  · exact if_neg fun hon => hreading _ _ _ ‹_› hon.1 hon.2
  · exact if_neg (hreset ‹_›)
  · rfl

/-- A deed of a turn that changes no bounds keeps the rows in step with the history. -/
theorem Tracks.idle {h : History} {t : PanelTurn} (hd : Tracks h t.before.database)
    (hsub : ∀ r ∈ t.after.database.sensors, r ∈ t.before.database.sensors)
    (hheard : ∀ k ∈ t.before.database.sensorKeys, heard h t k = h k) :
    Tracks (heard h t) t.after.database := by
  intro r hr
  have hmem := hsub r hr
  rw [hheard _ (Database.mem_sensorKeys.mpr ⟨r, hmem, rfl⟩)]
  exact hd r hmem

/-- A deed on the bounds of one pair. -/
theorem Tracks.mapBounds {h : History} {t : PanelTurn} {id type : String} {f : Bounds → Bounds}
    (hd : Tracks h t.before.database)
    (hs : t.after.database.sensors = (t.before.database.mapBounds .exact id type f).sensors)
    (hpair : ∀ r ∈ t.before.database.sensors, (r.id, r.type) = (id, type) →
      Fits (heard h t (id, type)) (f r.bounds))
    (hother : ∀ k ∈ t.before.database.sensorKeys, k ≠ (id, type) → heard h t k = h k) :
    Tracks (heard h t) t.after.database := by
  intro r hr
  rw [hs, Database.mapBounds_sensors] at hr
  obtain ⟨r', hr', rfl⟩ := List.mem_map.mp hr
  have hk := Database.mem_sensorKeys.mpr ⟨r', hr', rfl⟩
  split
  · have hkey := Database.exact_matches.mp ‹_›
    have := hpair r' hr' hkey
    rw [← hkey] at this
    exact this
  · rw [hother _ hk fun hkey => ‹¬ _› (Database.exact_matches.mpr hkey)]
    exact hd r' hr'

/-- A deed that adds a sensor. -/
theorem Tracks.addSensor {h : History} {t : PanelTurn} {id type : String}
    (hd : Tracks h t.before.database)
    (hs : t.after.database.sensors = t.before.database.sensors ++ [⟨id, type, none, none⟩])
    (hnew : (id, type) ∉ t.before.database.sensorKeys)
    (hheard : ∀ k ∈ t.before.database.sensorKeys, heard h t k = h k) :
    Tracks (heard h t) t.after.database := by
  intro r hr
  rw [hs, List.mem_append, List.mem_singleton] at hr
  rcases hr with hr | rfl
  · rw [hheard _ (Database.mem_sensorKeys.mpr ⟨r, hr, rfl⟩)]
    exact hd r hr
  · have hkey : (id, type) ∈ t.after.database.sensorKeys :=
      Database.mem_sensorKeys.mpr ⟨⟨id, type, none, none⟩, by simp [hs], rfl⟩
    exact .inl ⟨by rw [heard, if_pos ⟨hkey, hnew⟩], rfl⟩

/-- **Step.** A turn extends the history and changes the bounds alike. -/
theorem Tracks.turned {h : History} {t : PanelTurn} {deed : Deed}
    (hw : Coherent .exact url t.before) (hnodup : t.before.database.sensorKeys.Nodup)
    (hd : Tracks h t.before.database) (ht : Turned .exact t.before t.action deed t.after) :
    Tracks (heard h t) t.after.database := by
  obtain ⟨action, before, trace, outcome, after⟩ := t
  obtain ⟨hleads, -, hsensors, -⟩ := ht
  -- A reading of a pair that is registered finds its node registered too.
  have hnode : ∀ {id type : String} {k : String × String}, k ∈ before.database.sensorKeys →
      (id, type) = k → before.database.hasNode .exact id := by
    rintro id type _ hk rfl
    exact hw.owned.hasNode_of_mem hk
  cases hleads with
  | skipped hreading hreset =>
    refine hd.idle (by simp [hsensors, Deed.apply]) fun k hk => ?_
    refine heard_eq hk (fun id type value ha hkey hon => ?_) fun ha => absurd ha hreset
    exact hreading id type value ha
      ⟨hnode hk hkey, Database.hasSensor_exact.mpr (hkey ▸ hk), hon⟩
  | nodeRead hnew =>
    refine hd.idle (by simp [hsensors, Deed.apply, Database.apply]) fun k hk => ?_
    refine heard_eq hk ?_ (by simp)
    rintro id type value ⟨⟩ hkey -
    exact hnew (hnode hk hkey)
  | nodeTyped address hnew =>
    exact hd.idle (by simp [hsensors, Deed.apply, Database.apply]) fun k hk =>
      heard_eq hk (by simp) (by simp)
  | nodeRemoved id | sensorRemoved id =>
    refine hd.idle ?_ fun k hk => heard_eq hk (by simp) (by simp)
    intro r hr
    rw [hsensors] at hr
    exact (List.mem_filter.mp hr).1
  | @sensorRead id type value hid hnone =>
    have hnew : (id, type) ∉ before.database.sensorKeys :=
      fun hk => hnone (Database.hasSensor_exact.mpr hk)
    refine hd.addSensor hsensors hnew fun k hk => heard_eq hk ?_ (by simp)
    rintro _ _ _ ⟨⟩ rfl -
    exact hnew hk
  | sensorTyped htype hnone =>
    exact hd.addSensor hsensors (Leads.sensorTyped htype hnone).not_mem_sensorKeys fun k hk =>
      heard_eq hk (by simp) (by simp)
  | @learnt id type value hid hsensor hon =>
    have hk := Database.hasSensor_exact.mp hsensor
    rw [Deed.apply, learn_eq hnodup hk] at hsensors
    refine hd.mapBounds hsensors (fun r hr hkey => ?_) fun k hk' hne => ?_
    · have hfits := (hd r hr).calibrated value
      rw [hkey] at hfits
      have hon' : before.checked .wsnSensorsCalibrateCheck = true := hon
      simpa [heard, hk, hon'] using hfits
    · refine heard_eq hk' ?_ (by simp)
      rintro _ _ _ ⟨⟩ hkey
      exact absurd hkey.symm hne
  | reset =>
    refine hd.mapBounds (f := fun _ => ⟨none, none⟩) hsensors
      (fun r hr hkey => .inl ⟨?_, rfl⟩) fun k hk' hne => ?_
    · simp [heard]
    · exact heard_eq hk' (by simp) fun _ h => hne h.symm

/-! ## Sessions -/

section Sessions

variable [Jdk]

/-- **Calibration.** Take a session in which no database call fails and a node is selected
whenever a sensor is added by hand, from a window that agrees with its registry. If the bounds fit
the readings at first, they do ever after. -/
theorem session_tracks {w₀ : World} {ts : List PanelTurn} {h₀ : History}
    (hstart : Coherent .exact url w₀) (hnodup : w₀.database.sensorKeys.Nodup)
    (htracks : Tracks h₀ w₀.database)
    (h : Session (under .exact httpFault) Action.program w₀ ts w) (hurl : OneDatabase url ts)
    (hchosen : ∀ t ∈ ts, NodeChosen t.action t.before) :
    Tracks (ts.foldl heard h₀) w.database := by
  have hI : Coherent .exact url w ∧ w.database.sensorKeys.Nodup ∧
      Tracks (ts.foldl heard h₀) w.database := by
    refine h.invariant (I := fun ts w => Coherent .exact url w ∧ w.database.sensorKeys.Nodup ∧
        Tracks (ts.foldl heard h₀) w.database)
      (C := fun t => t.after.mysql .mysqlAddress = some url ∧ NodeChosen t.action t.before)
      (fun t ht => ⟨hurl t ht, hchosen t ht⟩) ⟨hstart, hnodup, htracks⟩ ?_
    rintro ts t ⟨hw, hkeys, hd⟩ ⟨hurl', hchosen'⟩ hrun
    obtain ⟨deed, hturned⟩ := hw.turns exact_equivalence hrun hurl'
    refine ⟨hw.turned exact_equivalence hchosen' hturned hurl', ?_, ?_⟩
    · rw [Database.sensorKeys, hturned.sensors]
      refine sensorKeys_apply hkeys ?_
      rintro id type rfl
      exact hturned.leads.not_mem_sensorKeys
    · rw [List.foldl_append]
      exact hd.turned hw hkeys hturned
  exact hI.2.2

end Sessions

/-! ## A sensor that is never calibrated -/

/-- Add a sensor by hand while no node is selected, and read from it with *Calibrate* ticked. -/
def readLonelySensor : List Action :=
  addLonelySensor ++ [.tick .wsnSensorsCalibrateCheck true, .reading "null" "light" 5]

/-- The sensor is registered, but its node is not, so the reading leaves its bounds null. -/
theorem not_always_tracks : ¬ ∀ (jdk : Jdk) (url : String) (w₀ w : World) (h₀ : History)
    (ts : List PanelTurn), Coherent .exact url w₀ → w₀.database.sensorKeys.Nodup →
    Tracks h₀ w₀.database → Session (under .exact httpFault) (@Action.program jdk) w₀ ts w →
    OneDatabase url ts → Tracks (ts.foldl heard h₀) w.database := by
  intro h
  have htracks := h plainJdk _ _ _ (fun _ => []) _ fresh_emptyWorld.coherent (by decide)
    (by simp [Tracks, emptyWorld, World.running, World.database, World.launched, Database.empty])
    (session_played readLonelySensor) (by decide +kernel)
  have hsensors : (playedTo readLonelySensor).database.sensors = [⟨"null", "light", none, none⟩] :=
    by decide +kernel
  have hheard : (played readLonelySensor).foldl heard (fun _ => []) ("null", "light") = [5] := by
    decide +kernel
  have hfits := htracks ⟨"null", "light", none, none⟩ (by rw [hsensors]; simp)
  rw [hheard] at hfits
  obtain ⟨hnil, -⟩ | ⟨lo, hi, hb, -⟩ := hfits
  · cases hnil
  · simp [SensorRow.bounds] at hb

/-- Add a sensor of a node by hand, and read from it with *Calibrate* ticked. -/
def readSensorOfNode : List Action :=
  addSensorOfNode ++ [.tick .wsnSensorsCalibrateCheck true, .reading "1" "light" 5,
    .reading "1" "light" 3]

theorem readSensorOfNode_tracks :
    Tracks ((played readSensorOfNode).foldl heard fun _ => [])
      (playedTo readSensorOfNode).database :=
  @session_tracks _ _ plainJdk _ _ _ fresh_emptyWorld.coherent (by decide)
    (by simp [Tracks, emptyWorld, World.running, World.database, World.launched, Database.empty])
    (session_played readSensorOfNode) (by decide +kernel) (by decide +kernel)

end CrossingReality
