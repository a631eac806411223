import CrossingReality.Threads

/-!
# Readings at the same time

Calibration reads the bounds of a sensor, compares in Java and writes with an unconditional
`UPDATE`, each on a connection of its own. An `UPDATE` by a reading that has read bounds of the
past can narrow what another has written since.

**Theorem (`interleaving_covers`).** Whatever the order of the statements, the stored bounds cover
every reading that is through and all that was stored before, if no `UPDATE` narrows what is
stored when it runs.
-/

namespace CrossingReality

open Effects

/-! ## Bounds as intervals -/

namespace Bounds

/-- The minimum is at most `v`. -/
def reachesDown (b : Bounds) (v : Int32) : Prop := ∃ m, b.min = some m ∧ m ≤ v

/-- The maximum is at least `v`. -/
def reachesUp (b : Bounds) (v : Int32) : Prop := ∃ m, b.max = some m ∧ v ≤ m

/-- Both bounds are stored, or neither is. -/
def Paired (b : Bounds) : Prop := b.min.isSome = b.max.isSome

/-- The second bounds are at least as wide as the first. -/
structure Widened (b b' : Bounds) : Prop where
  down : ∀ v, b.reachesDown v → b'.reachesDown v
  up : ∀ v, b.reachesUp v → b'.reachesUp v

variable {b b' b'' : Bounds} {v m M : Int32}

theorem Widened.refl (b : Bounds) : b.Widened b := ⟨fun _ h => h, fun _ h => h⟩

theorem Widened.trans (h : b.Widened b') (h' : b'.Widened b'') : b.Widened b'' :=
  ⟨fun v hv => h'.down v (h.down v hv), fun v hv => h'.up v (h.up v hv)⟩

theorem reachesDown_self (h : b.min = some m) : b.reachesDown m := ⟨m, h, Int32.le_refl m⟩

theorem reachesUp_self (h : b.max = some M) : b.reachesUp M := ⟨M, h, Int32.le_refl M⟩

/-- Bounds that are stored stay stored. -/
theorem Widened.full (h : (⟨some M, some m⟩ : Bounds).Widened b) :
    ∃ M' m', b = ⟨some M', some m'⟩ := by
  obtain ⟨m', hm', -⟩ := h.down m (reachesDown_self rfl)
  obtain ⟨M', hM', -⟩ := h.up M (reachesUp_self rfl)
  obtain ⟨max, min⟩ := b
  exact ⟨M', m', by simp_all⟩

/-- What a reading owes to the bounds it has read. -/
def due (b : Bounds) (id type : String) (v : Int32) : List Update :=
  match b.min, b.max with
  | some min, some max =>
    (if v < min then [.setMin v id type] else []) ++ if max < v then [.setMax v id type] else []
  | none, none => [.setBounds v id type]
  | _, _ => []

theorem mem_due {id type : String} {u : Update} :
    u ∈ (⟨some M, some m⟩ : Bounds).due id type v ↔
      v < m ∧ u = .setMin v id type ∨ M < v ∧ u = .setMax v id type := by
  by_cases hlow : v < m <;> by_cases hhigh : M < v <;> simp [due, hlow, hhigh]

end Bounds

/-- The update leaves the bounds at least as wide. -/
def Update.spares (b : Bounds) : Update → Prop
  | .setMin v _ _ => ∀ m ∈ b.min, v ≤ m
  | .setMax v _ _ => ∀ m ∈ b.max, m ≤ v
  | .setBounds v _ _ => (∀ m ∈ b.min, v ≤ m) ∧ ∀ m ∈ b.max, m ≤ v
  | _ => True

/-- What an update makes of the bounds of its sensor. -/
def Update.onBounds (b : Bounds) : Update → Bounds
  | .setMin v _ _ => { b with min := some v }
  | .setMax v _ _ => { b with max := some v }
  | .setBounds v _ _ => ⟨some v, some v⟩
  | _ => b

theorem widened_onBounds {b : Bounds} {u : Update} (hu : u.spares b) :
    b.Widened (u.onBounds b) := by
  cases u with
  | setMin v i t =>
    refine ⟨?_, fun _ h => h⟩
    rintro v' ⟨m, hm, hle⟩
    exact ⟨v, rfl, Int32.le_trans (hu m hm) hle⟩
  | setMax v i t =>
    refine ⟨fun _ h => h, ?_⟩
    rintro v' ⟨m, hm, hle⟩
    exact ⟨v, rfl, Int32.le_trans hle (hu m hm)⟩
  | setBounds v i t =>
    constructor
    · rintro v' ⟨m, hm, hle⟩
      exact ⟨v, rfl, Int32.le_trans (hu.1 m hm) hle⟩
    · rintro v' ⟨m, hm, hle⟩
      exact ⟨v, rfl, Int32.le_trans hle (hu.2 m hm)⟩
  | _ => exact .refl b

/-- Bounds that widen on from what was read and from what was owed cover the reading. -/
theorem covers_of_due {b b' : Bounds} {id type : String} {v : Int32} (hb : b.Paired)
    (hwide : b.Widened b')
    (hdue : ∀ u ∈ b.due id type v, ∃ b₀ : Bounds, (u.onBounds b₀).Widened b') :
    b'.reachesDown v ∧ b'.reachesUp v := by
  obtain ⟨_ | M, _ | m⟩ := b
  · obtain ⟨b₀, hb₀⟩ := hdue (.setBounds v id type) (by simp [Bounds.due])
    exact ⟨hb₀.down v (Bounds.reachesDown_self rfl), hb₀.up v (Bounds.reachesUp_self rfl)⟩
  · cases hb
  · cases hb
  constructor
  · by_cases hlow : v < m
    · obtain ⟨b₀, hb₀⟩ := hdue (.setMin v id type) (Bounds.mem_due.mpr (.inl ⟨hlow, rfl⟩))
      exact hb₀.down v (Bounds.reachesDown_self rfl)
    · exact hwide.down v ⟨m, rfl, Int32.not_lt.mp hlow⟩
  · by_cases hhigh : M < v
    · obtain ⟨b₀, hb₀⟩ := hdue (.setMax v id type) (Bounds.mem_due.mpr (.inr ⟨hhigh, rfl⟩))
      exact hb₀.up v (Bounds.reachesUp_self rfl)
    · exact hwide.up v ⟨M, rfl, Int32.not_lt.mp hhigh⟩

/-! ## What a reading reads and writes -/

section Reading

variable {url id type : String} {v : Int32} {A : (c : Call) → c.Ret → Prop} {t : Told} {b : Bounds}
  {E : Exn → Unit × Told → Prop}

/-- The call read the bounds of the sensor. -/
def Reads {σ : Type} (url id type : String) (b : Bounds) : Event calls σ → Prop
  | ⟨_, .executeQuery c (.bounds i t), x⟩ =>
    c.url = url ∧ i = id ∧ t = type ∧ ∃ rows : List Bounds, x = some rows ∧ rows.head? = some b
  | _ => False

/-- The update writes one of the bounds. -/
def Update.setsOne : Update → Bool
  | .setMin _ _ _ | .setMax _ _ _ => true
  | _ => false

/-- One bound is only written when both have been read. -/
def Informed (url id type : String) : Told → Prop :=
  Stepwise fun t e => ∀ u, e.call.update = some u → u.setsOne = true →
    ∃ M m, ∃ e' ∈ t, Reads url id type ⟨some M, some m⟩ e'

/-- The bounds have been read, and what was owed to them has been written. -/
def Settled (url id type : String) (v : Int32) (t : Told) : Prop :=
  ∃ b, (∃ e ∈ t, Reads url id type b e) ∧
    ∀ u ∈ b.due id type v, ∃ e ∈ t, Writes url u e

theorem Informed.snoc {e : Event calls Unit} (h : Informed url id type t)
    (he : e.call.update = none) : Informed url id type (t ++ [e]) :=
  stepwise_concat.mpr ⟨h, fun u hu => by rw [he] at hu; cases hu⟩

theorem Informed.write {c : Connection} {u : Update} {ok : Bool} (h : Informed url id type t)
    (hread : u.setsOne = true → ∃ M m, ∃ e ∈ t, Reads url id type ⟨some M, some m⟩ e) :
    Informed url id type (t ++ [⟨(), .executeUpdate c u, ok⟩]) := by
  refine stepwise_concat.mpr ⟨h, fun u' hu' hone => hread ?_⟩
  obtain rfl := Option.some_inj.mp hu'
  exact hone

theorem Settled.snoc {e : Event calls Unit} (h : Settled url id type v t) :
    Settled url id type v (t ++ [e]) := by
  obtain ⟨b, ⟨e', he', hread⟩, hdue⟩ := h
  refine ⟨b, ⟨e', List.mem_append_left _ he', hread⟩, fun u hu => ?_⟩
  obtain ⟨e'', he'', hwrites⟩ := hdue u hu
  exact ⟨e'', List.mem_append_left _ he'', hwrites⟩

theorem wp_writeBound_watching (hA : ¬ Failing A) {u : Update} {m m' : Message}
    {Q : Bool → Unit × Told → Prop}
    (h : ∀ c, A .getConnection (some c) → Q true ((), t ++ [⟨(), .executeUpdate c u, true⟩])) :
    wp (watching A) (writeBound u m m') Q E ((), t) := by
  simp only [writeBound, wp_bind]
  refine wp_openStatement_watching (fun c hc => ?_) fun h => absurd h hA
  simp only [wp_bind]
  refine wp_executeUpdate_watching fun ok hok => ?_
  cases ok with
  | false => exact absurd ⟨_, _, hok, rfl⟩ hA
  | true =>
    simp only [Bool.not_true, Bool.false_eq_true, if_false, wp_bind]
    exact wp_closeConnection_watching (wp_appendToOutput_watching _ (h c hc))

theorem quiet_showBound [Jdk] (fields : List TextField) :
    (showBound id type v fields).Uses (fun c : Call => c.isStatement = false) fun _ => False := by
  simp only [showBound, selectedSensorIs, getSelectedItem]
  refine .bind ⟨rfl, fun node => Program.uses_ite _ trivial ⟨rfl, fun _ => trivial⟩⟩ fun shown => ?_
  refine Program.uses_ite _ ?_ trivial
  induction fields with
  | nil => trivial
  | cons f fields ih => exact ⟨rfl, fun _ => ih⟩

/-- Write a bound and show it. -/
theorem wp_writeShown_watching [Jdk] (hA : ¬ Failing A) {u : Update} {m m' : Message}
    {fields : List TextField} {Q : Bool → Unit × Told → Prop}
    (h : ∀ c, A .getConnection (some c) → Q true ((), t ++ [⟨(), .executeUpdate c u, true⟩])) :
    wp (watching A) (do
      if !(← writeBound u m m') then return false
      showBound id type v fields
      return true) Q E ((), t) := by
  rw [wp_bind]
  refine wp_writeBound_watching hA fun c hc => ?_
  simp only [Bool.not_true, Bool.false_eq_true, if_false, wp_bind]
  exact wp_quiet (quiet_showBound fields) (fun _ => h c hc) fun _ h => h.elim

variable [Jdk]

/-- A reading pays what it owes to the bounds it has read. -/
theorem wp_calibrateRow_watching (hA : ¬ Failing A)
    (hurl : ∀ c, A .getConnection (some c) → c.url = url) (ht : Informed url id type t)
    (hread : ∃ e ∈ t, Reads url id type b e) :
    wp (watching A) (calibrateRow id type v b)
      (fun _ s => Informed url id type s.2 ∧ Settled url id type v s.2)
      (fun _ s => Informed url id type s.2) ((), t) := by
  have hpaid : ∀ {c u}, A .getConnection (some c) →
      Writes url u (⟨(), .executeUpdate c u, true⟩ : Event calls Unit) := fun hc =>
    ⟨hurl _ hc, rfl, rfl⟩
  obtain ⟨e, he, hreads⟩ := hread
  obtain ⟨_ | M, _ | m⟩ := b
  · refine wp_writeShown_watching hA fun c hc => ⟨ht.write nofun, _, ⟨e, by simp [he], hreads⟩, ?_⟩
    intro u hu
    obtain rfl : u = .setBounds v id type := by simpa [Bounds.due] using hu
    exact ⟨_, by simp, hpaid hc⟩
  · exact ⟨ht, _, ⟨e, he, hreads⟩, by simp [Bounds.due]⟩
  · exact ⟨ht, _, ⟨e, he, hreads⟩, by simp [Bounds.due]⟩
  simp only [calibrateRow, wp_bind]
  -- After the minimum, the maximum is still owed.
  have hraise : ∀ t', Informed url id type t' → e ∈ t' →
      (v < m → ∃ e ∈ t', Writes url (.setMin v id type) e) →
      wp (watching A) (raiseMax id type v M)
        (fun _ s => Informed url id type s.2 ∧ Settled url id type v s.2)
        (fun _ s => Informed url id type s.2) ((), t') := by
    intro t' ht' he' hmin
    simp only [raiseMax]
    rw [wp_ite]
    refine ⟨fun hhigh => ?_, fun hhigh => ?_⟩
    · refine wp_writeShown_watching hA fun c hc =>
        ⟨ht'.write fun _ => ⟨M, m, e, he', hreads⟩, _, ⟨e, by simp [he'], hreads⟩, ?_⟩
      intro u hu
      rcases Bounds.mem_due.mp hu with ⟨hlow, rfl⟩ | ⟨-, rfl⟩
      · obtain ⟨e', he', hwrites⟩ := hmin hlow
        exact ⟨e', by simp [he'], hwrites⟩
      · exact ⟨_, by simp, hpaid hc⟩
    · refine ⟨ht', _, ⟨e, he', hreads⟩, ?_⟩
      intro u hu
      rcases Bounds.mem_due.mp hu with ⟨hlow, rfl⟩ | ⟨hhigh', -⟩
      · exact hmin hlow
      · exact absurd hhigh' hhigh
  simp only [lowerMin]
  rw [wp_ite]
  refine ⟨fun _ => ?_, fun hlow => hraise t ht he fun h => absurd h hlow⟩
  refine wp_writeShown_watching hA fun c hc => ?_
  refine hraise _ (ht.write fun _ => ⟨M, m, e, he, hreads⟩) (by simp [he]) fun _ => ?_
  exact ⟨_, by simp, hpaid hc⟩

/-! ## A reading of a registered sensor -/

/-- Calibrating with the database at `url`, where the sensor is registered. -/
structure Calibrating (col : Collation) (url id type : String) (w : World) : Prop where
  at_url : At url w
  ticked : w.checked .wsnSensorsCalibrateCheck = true
  node : (w.servers url).hasNode col id
  sensor : (w.servers url).hasSensor col id type

variable {col : Collation} {may : Call → Prop}

/-- How the calls of a reading can be answered while the program is calibrating. -/
abbrev calibratingAnswers (col : Collation) (url id type : String) (c : Call) (x : c.Ret) : Prop :=
  (under col httpFault).answers (Calibrating col url id type) c x

/-- **A reading.** It reads the bounds, pays what it owes to them, and writes a single bound only
where both are stored. -/
theorem wp_sensed_settled :
    wp (watching (calibratingAnswers col url id type)) (sensed id type v)
      (fun _ s => Informed url id type s.2 ∧ Settled url id type v s.2)
      (fun _ s => Informed url id type s.2) ((), []) := by
  have hat : ∀ {c x}, calibratingAnswers col url id type c x →
      (under col httpFault).answers (At url) c x := Contract.answers_mono fun _ h => h.at_url
  have hurl : ∀ c, calibratingAnswers col url id type .getConnection (some c) → c.url = url :=
    fun c hc => url_of_answers (hat hc)
  have hA : ¬ Failing (calibratingAnswers col url id type) := fun ⟨c, x, hx, hthrew⟩ =>
    not_failing ⟨c, x, hat hx, hthrew⟩
  simp only [sensed, wp_bind]
  refine wp_lookUpNode_watching (fun c rows hc hrows => ?_) (fun h => absurd h hA)
    fun _ _ h => absurd h hA
  have hnode : ¬ (nodeLookup rows).1.isEmpty = true := by
    obtain ⟨w, hw, rfl⟩ := rows_of_answers hrows
    rw [hurl c hc, nodeLookup, List.isEmpty_iff, List.map_eq_nil_iff, Database.run_node_eq_nil,
      not_not]
    exact hw.node
  have ht : Informed url id type
      ([] ++ [(⟨(), .executeQuery c (.node id), some rows⟩ : Event calls Unit)]) :=
    Informed.snoc stepwise_nil rfl
  simp only
  rw [wp_ite]
  refine ⟨fun hempty => absurd hempty hnode, fun _ => ?_⟩
  simp only [recognisedNode, wp_bind]
  refine wp_appendToOutput_watching _ (wp_lookUpTypes_watching (fun c' rows' hc' hrows' => ?_)
    (fun h => absurd h hA) fun _ _ h => absurd h hA)
  have htype : (rows'.map SensorRow.type).contains type = true := by
    obtain ⟨w, hw, rfl⟩ := rows_of_answers hrows'
    rw [hurl c' hc', List.contains_iff_mem, Database.mem_run_sensors]
    exact hw.sensor
  simp only [wp_bind]
  refine wp_closeConnection_watching ?_
  simp only [htype, if_true, recognisedSensor, calibrateIfTicked, wp_bind]
  refine wp_isSelected_watching _ fun ticked hticked => ?_
  obtain rfl : ticked = true := by
    obtain ⟨w, w', hw, f, -, hstep⟩ := hticked
    exact (congrArg Prod.fst hstep).symm.trans hw.ticked
  simp only [if_true, calibrate, wp_bind]
  refine wp_readBounds_watching (fun c'' bounds hc'' => ?_) fun _ h => absurd h hA
  simp only
  cases hhead : bounds.head? with
  | none => exact (ht.snoc rfl).snoc rfl
  | some b =>
    simp only
    refine (wp_calibrateRow_watching hA hurl ((ht.snoc rfl).snoc rfl)
      ⟨_, List.mem_append_right _ (List.mem_singleton_self _),
        by exact ⟨hurl c'' hc'', rfl, rfl, bounds, rfl, hhead⟩⟩).mono ?_ fun _ _ h => h
    rintro ok ⟨⟨⟩, t'⟩ hsettled
    rw [wp_ite]
    refine ⟨fun _ => hsettled, fun _ => ?_⟩
    refine (wp_keeping (P := fun c => c.update = none) (R := fun _ => True)
      (I := fun t => Informed url id type t ∧ Settled url id type v t) ?_ ?_ hsettled).mono
      (fun _ _ h => h) fun _ _ h => h.2.1
    · refine (uses_forwardReading (U := fun _ => False) v _).mono ?_ fun _ h => h
      rintro c hc
      cases c <;> first | rfl | exact hc.elim
    · exact fun r e he hr => ⟨hr.1.snoc he, hr.2.snoc⟩

end Reading

/-! ## What is stored -/

section Storing

variable {col : Collation} {url id type : String} {d : Database} {u : Update} {b : Bounds}

/-- The bounds that are stored for the sensor. -/
def stored (col : Collation) (url id type : String) (w : World) : Option Bounds :=
  ((Query.bounds id type).run col (w.servers url)).head?

theorem head_bounds_apply (hu : u.ofReading id type)
    (hb : ((Query.bounds id type).run col d).head? = some b) :
    ((Query.bounds id type).run col (d.apply col u)).head? = some (u.onBounds b) := by
  have hmap : ∀ f, ((Query.bounds id type).run col (d.mapBounds col id type f)).head? =
      some (f b) := fun f => by
    rw [Database.run_bounds_mapBounds, List.head?_map, hb]
    rfl
  rcases hu with rfl | hu
  · exact hb
  cases u with
  | insertSensor i t =>
    simp only [Query.run, Database.apply, List.filter_append, List.map_append] at hb ⊢
    rw [List.head?_append, hb]
    rfl
  | setMin v i t =>
    obtain ⟨rfl, rfl⟩ := hu
    rw [Database.apply_setMin]
    exact hmap _
  | setMax v i t =>
    obtain ⟨rfl, rfl⟩ := hu
    rw [Database.apply_setMax]
    exact hmap _
  | setBounds v i t =>
    obtain ⟨rfl, rfl⟩ := hu
    rw [Database.apply_setBounds]
    exact hmap _
  | _ => exact hu.elim

/-- A reading removes nothing. -/
theorem registered_apply (hu : u.ofReading id type) (hnode : d.hasNode col id)
    (hsensor : d.hasSensor col id type) :
    (d.apply col u).hasNode col id ∧ (d.apply col u).hasSensor col id type := by
  have hmap : ∀ f, (d.mapBounds col id type f).hasNode col id ∧
      (d.mapBounds col id type f).hasSensor col id type := fun f => by
    obtain ⟨r, hr, hid, htype⟩ := hsensor
    refine ⟨hnode, _, Database.mapBounds_sensors f ▸ List.mem_map_of_mem hr, ?_⟩
    split <;> exact ⟨hid, htype⟩
  obtain ⟨n, hn, hid⟩ := hnode
  rcases hu with rfl | hu
  · exact ⟨⟨n, List.mem_append_left _ hn, hid⟩, hsensor⟩
  cases u with
  | insertSensor i t =>
    obtain ⟨r, hr, hkey⟩ := hsensor
    exact ⟨⟨n, hn, hid⟩, r, List.mem_append_left _ hr, hkey⟩
  | setMin v i t =>
    obtain ⟨rfl, rfl⟩ := hu
    exact hmap fun b => { b with min := some v }
  | setMax v i t =>
    obtain ⟨rfl, rfl⟩ := hu
    exact hmap fun b => { b with max := some v }
  | setBounds v i t =>
    obtain ⟨rfl, rfl⟩ := hu
    exact hmap fun _ => ⟨some v, some v⟩
  | _ => exact hu.elim

theorem calibrating_of_post {may : Call → Prop} {c : Call} {x : c.Ret} {w w' : World}
    (hc : c.ofReading (Update.ofReading id type)) (hw : Calibrating col url id type w)
    (hx : (under col may).post c w x w') : Calibrating col url id type w' := by
  have hregistered : (w'.servers url).hasNode col id ∧ (w'.servers url).hasSensor col id type := by
    rcases servers_of_post hx url with ⟨-, heq⟩ | ⟨u, hu, heq⟩
    · rw [heq]
      exact ⟨hw.node, hw.sensor⟩
    · rw [heq]
      exact registered_apply (update_of_ofReading hc hu.update) hw.node hw.sensor
  refine ⟨at_of_post hx ?_ hw.at_url, ?_, hregistered.1, hregistered.2⟩
  · rintro d s rfl
    exact hc
  · obtain ⟨f, -, rfl⟩ := step_of_post hx
    rw [step_checked (by rintro b v rfl; exact hc)]
    exact hw.ticked

end Storing

/-! ## Interleavings -/

/-- The move, if it updates the database at `url`, spares the stored bounds. -/
def Spares (col : Collation) (url id type : String) : Event calls World → Prop
  | ⟨w, .executeUpdate c u, ok⟩ =>
    c.url = url → ok = true → ∀ b ∈ stored col url id type w, u.spares b
  | _ => True

section Pools

variable {ι : Type} [DecidableEq ι] {col : Collation} {url id type : String} {v : ι → Int32}
  {ps' : ι → Panel Bool} {w w' : World} {l : List (Move ι calls World)} {b : Bounds}

omit [DecidableEq ι] in
theorem Spares.writes {u : Update} {e : Event calls World} (h : Spares col url id type e)
    (hu : Writes url u e) (hb : stored col url id type e.before = some b) : u.spares b := by
  obtain ⟨before, c, x⟩ := e
  cases c with
  | executeUpdate c u' =>
    obtain ⟨hurl, rfl, hok⟩ := hu
    exact h hurl hok b hb
  | _ => exact hu.elim

/-- The bounds stored in the second world are at least as wide. -/
def WidensTo (col : Collation) (url id type : String) (w w' : World) : Prop :=
  ∀ b, stored col url id type w = some b →
    ∃ b', stored col url id type w' = some b' ∧ b.Widened b'

/-- **Step.** What a move that spares the stored bounds makes of them. -/
theorem widensTo_of_post {may : Call → Prop} {c : Call} {x : c.Ret}
    (hc : c.ofReading (Update.ofReading id type)) (hx : (under col may).post c w x w')
    (hspares : Spares col url id type ⟨w, c, x⟩) : WidensTo col url id type w w' := by
  intro b hb
  rcases servers_of_post hx url with ⟨-, heq⟩ | ⟨u, hu, heq⟩
  · exact ⟨b, by rw [stored, heq]; exact hb, .refl b⟩
  · refine ⟨u.onBounds b, ?_, widened_onBounds (hspares.writes hu hb)⟩
    rw [stored, heq]
    exact head_bounds_apply (update_of_ofReading hc hu.update) hb

/-- What a reading has read was stored when it read it. -/
theorem stored_of_reads {may : Call → Prop} {e : Event calls World} (h : Reads url id type b e)
    (hpost : ∃ w', (under col may).post e.call e.before e.ret w') :
    stored col url id type e.before = some b := by
  obtain ⟨before, c, x⟩ := e
  cases c with
  | executeQuery c q =>
    cases q with
    | bounds i t =>
      obtain ⟨rfl, rfl, rfl, rows, rfl, hhead⟩ := h
      obtain ⟨w', f, -, hstep⟩ := hpost
      have hrows : (step col (.executeQuery c (.bounds i t)) f before).1 = some rows :=
        congrArg Prod.fst hstep
      simp only [step] at hrows
      split at hrows
      · cases hrows
      · rw [stored, Option.some_inj.mp hrows]
        exact hhead
    | _ => exact h.elim
  | _ => exact h.elim

theorem reads_blind {e : Event calls World} :
    Reads url id type b (⟨(), e.call, e.ret⟩ : Event calls Unit) ↔ Reads url id type b e := by
  obtain ⟨before, c, x⟩ := e
  cases c with
  | executeQuery c q => cases q <;> exact Iff.rfl
  | _ => exact Iff.rfl

variable [Jdk]

/-- The readings, each in a thread of its own. -/
abbrev readings (id type : String) (v : ι → Int32) (i : ι) : Panel Bool := sensed id type (v i)

theorem calibrating_of_interleaving (hw : Calibrating col url id type w)
    (h : Interleaving (under col httpFault) (readings id type v) w l ps' w') :
    Calibrating col url id type w' ∧ ∀ m ∈ l, Calibrating col url id type m.before :=
  h.invariant (fun i => uses_sensed (v i))
    (fun _ _ _ _ _ hc hs hx => calibrating_of_post hc hs hx) hw

/-- **Run.** Where every move spares the stored bounds, they only widen. -/
theorem widensTo_of_interleaving
    (h : Interleaving (under col httpFault) (readings id type v) w l ps' w')
    (hl : ∀ m ∈ l, Spares col url id type m.toEvent) :
    WidensTo col url id type w w' ∧ ∀ m ∈ l, WidensTo col url id type m.before w' ∧
      ∃ w'', (under col httpFault).post m.call m.before m.ret w'' ∧
        WidensTo col url id type w'' w' := by
  refine h.progress (fun w b hb => ⟨b, hb, .refl b⟩) ?_ fun m hm w'' hx =>
    widensTo_of_post ((h.uses fun i => uses_sensed (v i)).1 m hm) hx (hl m hm)
  intro w₁ w₂ w₃ h₁ h₂ b hb
  obtain ⟨b', hb', hwide⟩ := h₁ b hb
  obtain ⟨b'', hb'', hwide'⟩ := h₂ b' hb'
  exact ⟨b'', hb'', hwide.trans hwide'⟩

/-- The bounds stay paired: a single one is only written where both are stored. -/
theorem paired_of_interleaving (hcol : ∀ s, col.same s s = true)
    (hw : Calibrating col url id type w)
    (hpaired : ∀ b, stored col url id type w = some b → b.Paired)
    (h : Interleaving (under col httpFault) (readings id type v) w l ps' w')
    (hl : ∀ m ∈ l, Spares col url id type m.toEvent) :
    (∀ b, stored col url id type w' = some b → b.Paired) ∧
      ∀ m ∈ l, ∀ b, stored col url id type m.before = some b → b.Paired := by
  induction h with
  | nil => exact ⟨hpaired, by simp⟩
  | @move l ps' s' s'' i c p x h hi hx ih =>
    have hmove := Interleaving.move h hi hx
    obtain ⟨hbefore, hmoves⟩ := ih fun m hm => hl m (List.mem_append_left _ hm)
    refine ⟨?_, fun m hm => (List.mem_append.mp hm).elim (hmoves m) fun hm => ?_⟩
    swap
    · obtain rfl := List.mem_singleton.mp hm
      exact hbefore
    rcases servers_of_post hx url with ⟨-, heq⟩ | ⟨u, hu, heq⟩
    · rw [stored, heq]
      exact hbefore
    obtain ⟨b, hb⟩ :=
      Database.head_run_bounds (hcol type) (calibrating_of_interleaving hw h).1.sensor
    have huses := (h.uses fun i => uses_sensed (v i)).2 i
    rw [hi] at huses
    have hreading := update_of_ofReading huses.1 hu.update
    -- A thread that writes a single bound has read both.
    have hfull : u.setsOne = true → ∃ M m, b = ⟨some M, some m⟩ := fun hone => by
      have hinformed := of_wp_recording (exists_answer hw) (fun _ _ => Stepwise.of_append)
        (hmove.judged (i := i) (hmove.answers (calibrating_of_interleaving hw hmove).2)
          (wp_sensed_settled.mono (fun _ _ h => h.1) fun _ _ h => h))
      have hkept : [(⟨(), c, x⟩ : Event calls Unit)].filter (·.call.isStatement) =
          [⟨(), c, x⟩] := by simpa using isStatement_of_update hu.update
      rw [own_append, own_singleton_self, List.filter_append, hkept] at hinformed
      obtain ⟨M, m, e, he, hreads⟩ := (stepwise_concat.mp hinformed).2 u hu.update hone
      obtain ⟨q, hq, -, rfl⟩ := mem_own.mp (List.mem_filter.mp he).1
      have hstored := stored_of_reads (reads_blind.mp hreads) (h.post q hq)
      have hprogress := widensTo_of_interleaving h fun m hm => hl m (List.mem_append_left _ hm)
      obtain ⟨b', hb', hwide⟩ := (hprogress.2 q hq).1 _ hstored
      obtain rfl : b = b' := Option.some_inj.mp (hb.symm.trans hb')
      exact hwide.full
    intro b'' hb''
    rw [stored, heq, head_bounds_apply hreading hb] at hb''
    obtain rfl := Option.some_inj.mp hb''
    cases u with
    | setMin v i t | setMax v i t =>
      obtain ⟨M, m, rfl⟩ := hfull rfl
      exact rfl
    | setBounds v i t => exact rfl
    | _ => exact hbefore b hb

/-- **Covering.** In an interleaving of readings of one registered sensor in which no database call
fails and no move narrows the stored bounds, these cover what was stored before and every reading
that is through. -/
theorem interleaving_covers (hcol : ∀ s, col.same s s = true) (hw : Calibrating col url id type w)
    (hpaired : ∀ b, stored col url id type w = some b → b.Paired)
    (h : Interleaving (under col httpFault) (readings id type v) w l ps' w')
    (hl : ∀ m ∈ l, Spares col url id type m.toEvent) :
    ∃ b', stored col url id type w' = some b' ∧
      (∀ b, stored col url id type w = some b → b.Widened b') ∧
      ∀ i r, ps' i = .pure r → b'.reachesDown (v i) ∧ b'.reachesUp (v i) := by
  obtain ⟨hkept, hmoves⟩ := calibrating_of_interleaving hw h
  obtain ⟨b', hb'⟩ := Database.head_run_bounds (hcol type) hkept.sensor
  have hwidens := widensTo_of_interleaving h hl
  refine ⟨b', hb', fun b hb => ?_, fun i r hi => ?_⟩
  · obtain ⟨b'', hb'', hwide⟩ := hwidens.1 b hb
    obtain rfl : b' = b'' := Option.some_inj.mp (hb'.symm.trans hb'')
    exact hwide
  obtain ⟨-, b, ⟨e, he, hreads⟩, hdue⟩ := h.finished (h.answers hmoves) wp_sensed_settled hi
  obtain ⟨q, hq, -, rfl⟩ := mem_own.mp (List.mem_filter.mp he).1
  have hstored := stored_of_reads (reads_blind.mp hreads) (h.post q hq)
  have hsince : ∀ {w₁ b₁}, WidensTo col url id type w₁ w' → stored col url id type w₁ = some b₁ →
      b₁.Widened b' := fun hwide hb₁ => by
    obtain ⟨b'', hb'', hwide⟩ := hwide _ hb₁
    obtain rfl : b' = b'' := Option.some_inj.mp (hb'.symm.trans hb'')
    exact hwide
  -- What was owed has been written, and the bounds have only widened since.
  have hpaid : ∀ u ∈ b.due id type (v i), ∃ b₀ : Bounds, (u.onBounds b₀).Widened b' := by
    intro u hu
    obtain ⟨e, he, hwrites⟩ := hdue u hu
    obtain ⟨m, hm, -, rfl⟩ := mem_own.mp (List.mem_filter.mp he).1
    obtain ⟨b₀, hb₀⟩ := Database.head_run_bounds (hcol type) (hmoves m hm).sensor
    obtain ⟨-, w'', hx, hwide⟩ := hwidens.2 m hm
    rcases servers_of_post hx url with ⟨hnone, -⟩ | ⟨u', hu', heq⟩
    · exact absurd (writes_blind.mp hwrites) (hnone u)
    obtain rfl : u' = u := Option.some_inj.mp (hu'.update.symm.trans hwrites.update)
    refine ⟨b₀, hsince hwide ?_⟩
    have huses := (h.uses fun i => uses_sensed (v i)).1 m hm
    rw [stored, heq]
    exact head_bounds_apply (update_of_ofReading huses hwrites.update) hb₀
  exact covers_of_due ((paired_of_interleaving hcol hw hpaired h hl).2 q hq b hstored)
    (hsince (hwidens.2 q hq).1 hstored) hpaid

end Pools

/-! ## Two first readings of a sensor -/

instance (b : Bounds) : (u : Update) → Decidable (u.spares b)
  | .setMin _ _ _ => Option.decidableForallMem b.min
  | .setMax _ _ _ => Option.decidableForallMem b.max
  | .setBounds _ _ _ => @instDecidableAnd _ _ (Option.decidableForallMem b.min)
    (Option.decidableForallMem b.max)
  | .insertNode _ _ | .insertSensor _ _ | .insertActuator _ _ | .deleteNode _ | .deleteSensors _
  | .deleteSensor _ _ | .deleteActuator _ | .setNodeAddress _ _ | .setActuatorAddress _ _
  | .resetBounds _ _ => .isTrue trivial

instance (col : Collation) (url id type : String) :
    (e : Event calls World) → Decidable (Spares col url id type e)
  | ⟨w, .executeUpdate c u, ok⟩ => inferInstanceAs
    (Decidable (c.url = url → ok = true → ∀ b ∈ stored col url id type w, u.spares b))
  | ⟨_, .forName, _⟩ | ⟨_, .getConnection, _⟩ | ⟨_, .createStatement _, _⟩
  | ⟨_, .executeQuery _ _, _⟩ | ⟨_, .fetch _, _⟩ | ⟨_, .close _, _⟩ | ⟨_, .append _, _⟩
  | ⟨_, .appendArea _ _, _⟩ | ⟨_, .setCaretPosition _, _⟩
  | ⟨_, .getText _, _⟩ | ⟨_, .setText _ _, _⟩ | ⟨_, .isSelected _, _⟩ | ⟨_, .setSelected _ _, _⟩
  | ⟨_, .getSelectedItem _, _⟩ | ⟨_, .removeAllItems _, _⟩ | ⟨_, .addItem _ _, _⟩
  | ⟨_, .setSelectedItem _ _, _⟩ | ⟨_, .getIgnoreNodeList, _⟩ | ⟨_, .setIgnoreNodeList _, _⟩
  | ⟨_, .addIgnoreNode _, _⟩ | ⟨_, .removeIgnoreNode _, _⟩ | ⟨_, .getIgnoreSensorList, _⟩
  | ⟨_, .setIgnoreSensorList _, _⟩ | ⟨_, .addIgnoreSensor _, _⟩ | ⟨_, .getMysql _, _⟩
  | ⟨_, .setMysql _ _, _⟩ | ⟨_, .readMysqldetails, _⟩ | ⟨_, .writeMysqldetails _, _⟩
  | ⟨_, .http _ _, _⟩ | ⟨_, .execute _ _ _, _⟩ | ⟨_, .respond _, _⟩ => .isTrue trivial

/-- A window over a registry with one sensor, calibrating. -/
def calibratingWindow (b : Bounds) : World :=
  { World.running "jdbc:mysql://db"
      ⟨[⟨"1", some "http://vw"⟩], [⟨"1", "light", b.min, b.max⟩], []⟩ with
    checked := fun b => b = .wsnSensorsCalibrateCheck }

theorem calibrating_window (b : Bounds) :
    Calibrating .exact "jdbc:mysql://db" "1" "light" (calibratingWindow b) :=
  ⟨rfl, rfl, ⟨_, List.mem_cons_self, rfl⟩, ⟨_, List.mem_cons_self, rfl, rfl⟩⟩

/-- Two readings of the sensor, moving in turns to the end. -/
def twoReadings (b : Bounds) : List (Move Bool calls World) × (Bool → Panel Bool) × World :=
  racing (@readings Bool plainJdk "1" "light" fun i => if i then 5 else 9)
    (List.replicate 60 [true, false]).flatten (calibratingWindow b)

theorem interleaving_twoReadings (b : Bounds) :
    Interleaving (under .exact httpFault)
      (@readings Bool plainJdk "1" "light" fun i => if i then 5 else 9) (calibratingWindow b)
      (twoReadings b).1 (twoReadings b).2.1 (twoReadings b).2.2 :=
  interleaving_racing httpFault _ _ (calibratingWindow b)

/-- Both read that there are no bounds, and the second overwrites those of the first. -/
theorem not_always_covers : ¬ ∀ (jdk : Jdk) (col : Collation) (url id type : String)
    (v : Bool → Int32) (ps' : Bool → Panel Bool) (w w' : World) (l : List (Move Bool calls World)),
    (∀ s, col.same s s = true) → Calibrating col url id type w →
    (∀ b, stored col url id type w = some b → b.Paired) →
    Interleaving (under col httpFault) (@readings Bool jdk id type v) w l ps' w' →
    (∀ i, ∃ r, ps' i = .pure r) →
    ∃ b', stored col url id type w' = some b' ∧
      (∀ b, stored col url id type w = some b → b.Widened b') ∧
      ∀ i, b'.reachesDown (v i) ∧ b'.reachesUp (v i) := by
  intro h
  have hended : ∀ i, ∃ r, (twoReadings ⟨none, none⟩).2.1 i = .pure r := fun i => by
    refine ⟨true, Program.eq_pure_of_ended ?_⟩
    cases i <;> decide +kernel
  have hfinal : stored .exact "jdbc:mysql://db" "1" "light" (twoReadings ⟨none, none⟩).2.2 =
      some ⟨some 9, some 9⟩ := by decide +kernel
  obtain ⟨b', hb', -, hcovers⟩ := h plainJdk .exact "jdbc:mysql://db" "1" "light" _ _ _ _ _
    (by simp) (calibrating_window _) (by rintro b ⟨⟩; rfl) (interleaving_twoReadings _) hended
  obtain rfl := Option.some_inj.mp (hfinal.symm.trans hb')
  obtain ⟨m, hm, hle⟩ := (hcovers true).1
  obtain rfl := Option.some_inj.mp hm
  exact absurd hle (by decide)

/-- Both read the same bounds, and the lower maximum is written first. -/
theorem twoReadings_covers : ∃ b', stored .exact "jdbc:mysql://db" "1" "light"
    (twoReadings ⟨some 4, some 4⟩).2.2 = some b' ∧ b'.reachesUp 5 ∧ b'.reachesUp 9 := by
  have hended : ∀ i, ((twoReadings ⟨some 4, some 4⟩).2.1 i).ended = some true := fun i => by
    cases i <;> decide +kernel
  obtain ⟨b', hb', -, hcovers⟩ := @interleaving_covers Bool _ .exact "jdbc:mysql://db" "1" "light"
    _ _ _ _ _ plainJdk (by simp) (calibrating_window _) (by rintro b ⟨⟩; simp [Bounds.Paired])
    (interleaving_twoReadings ⟨some 4, some 4⟩) (by decide +kernel)
  exact ⟨b', hb', (hcovers true true (Program.eq_pure_of_ended (hended true))).2,
    (hcovers false true (Program.eq_pure_of_ended (hended false))).2⟩

end CrossingReality
