import CrossingReality.Stages

/-!
# What a failure leaves behind

An operation that is stopped has changed nothing where its first change is its last, or where the
stages it can be stopped at are all the one it started from.

* `atomic_*` — the states in which an operation is atomic.
* `not_atomic_*` — an execution that ends half-way, from the others.
* `atomic_iff` — both together.
-/

namespace CrossingReality

open Effects

section Atomicity

variable [Jdk] {col : Collation} {w : World}

/-! ## The condition -/

/-- What keeps an operation from being stopped half-way. -/
def Operation.NotHalfway (col : Collation) (w : World) : Operation → Prop
  /- The node is on the ignore list before the first `DELETE`, and the two commit one by one. -/
  | .removeNode id =>
    (w.checked .wsnGeneralRemoveNodeIgnoreCheck = true → w.ignoreNodeList ≠ none →
      w.mysql .mysqlAddress ≠ none ∧ (Query.node (spell id)).run col w.database = [] ∧
        (Query.sensors (spell id)).run col w.database = []) ∧
    (w.checked .wsnGeneralRemoveNodeIgnoreCheck = false → w.mysql .mysqlAddress ≠ none →
      (Query.node (spell id)).run col w.database = [] ∨
        (Query.sensors (spell id)).run col w.database = [])
  /- The sensor is on the ignore list before the `DELETE`. -/
  | .removeSensor id type =>
    w.checked .wsnSensorsRemoveSensorIgnoreCheck = true → w.ignoreSensorList ≠ none →
      w.mysql .mysqlAddress ≠ none ∧
        (Query.sensor (spell id) (spell type)).run col w.database = []
  /- The node is off the ignore list before the `INSERT`. -/
  | .manualNodeAdd => NodeGoes col w →
    ∀ l, w.ignoreNodeList = some l → some (w.text .wsnGeneralManualNodeAddId) ∉ l
  /- A failing `close` after the `INSERT` does not keep the sensor on the ignore list. -/
  | .manualSensorAdd => SensorGoes col w →
    ∀ l, w.ignoreSensorList = some l → containsEntry w.typedSensor l ≠ .ok true
  | .manualActuatorAdd | .removeActuator _ => True

/-- No operation touches the MySQL details. -/
theorem keepsAddress_program (op : Operation) :
    op.program.Uses Call.keepsAddress fun _ => True := by
  cases op with
  | manualNodeAdd =>
    refine uses_manualNodeAdd.mono ?_ fun _ h => h
    rintro c (hc | ⟨id, rfl⟩ | ⟨k, id, a, rfl⟩)
    · exact keepsAddress_of_tame hc
    · exact nofun
    · exact nofun
  | manualSensorAdd =>
    refine uses_manualSensorAdd.mono ?_ fun _ h => h
    rintro c (hc | ⟨l, rfl⟩ | ⟨k, id, type, rfl⟩)
    · exact keepsAddress_of_tame hc
    · exact nofun
    · exact nofun
  | manualActuatorAdd =>
    exact uses_manualActuatorAdd.mono (fun _ => keepsAddress_of_tame) fun _ h => h
  | removeNode id =>
    refine (uses_removeNode id).mono ?_ fun _ h => h
    rintro c (hc | ⟨id, rfl⟩)
    · exact keepsAddress_of_tame hc
    · exact nofun
  | removeSensor id type =>
    refine (uses_removeSensor id type).mono ?_ fun _ h => h
    rintro c (hc | ⟨o, rfl⟩)
    · exact keepsAddress_of_tame hc
    · exact nofun
  | removeActuator id =>
    exact (uses_removeActuator id).mono (fun _ => keepsAddress_of_tame) fun _ h => h

/-! ## What a statement leaves as it is -/

section Statements

variable {d : Database} {id type : String}

omit [Jdk] in
theorem apply_deleteNode_eq_iff :
    d.apply col (.deleteNode id) = d ↔ (Query.node id).run col d = [] := by
  have hnodes : d.apply col (.deleteNode id) = d ↔
      (d.nodes.filter fun r => !col.same r.id id) = d.nodes :=
    ⟨fun h => congrArg Database.nodes h, fun h => by rw [Database.apply, h]⟩
  rw [hnodes]
  simp [Query.run, List.filter_eq_self, List.filter_eq_nil_iff]

omit [Jdk] in
theorem apply_deleteSensors_eq_iff :
    d.apply col (.deleteSensors id) = d ↔ (Query.sensors id).run col d = [] := by
  have hsensors : d.apply col (.deleteSensors id) = d ↔
      (d.sensors.filter fun r => !col.same r.id id) = d.sensors :=
    ⟨fun h => congrArg Database.sensors h, fun h => by rw [Database.apply, h]⟩
  rw [hsensors]
  simp [Query.run, List.filter_eq_self, List.filter_eq_nil_iff]

omit [Jdk] in
theorem apply_deleteSensor_eq_iff :
    d.apply col (.deleteSensor id type) = d ↔ (Query.sensor id type).run col d = [] := by
  have hsensors : d.apply col (.deleteSensor id type) = d ↔
      (d.sensors.filter fun r => !(col.same r.id id && col.same r.type type)) = d.sensors :=
    ⟨fun h => congrArg Database.sensors h, fun h => by rw [Database.apply, h]⟩
  rw [hsensors]
  rw [Query.run, List.filter_eq_self, List.filter_eq_nil_iff]
  exact forall₂_congr fun r _ => by cases col.same r.id id <;> simp

omit [Jdk] in
theorem update_eq_iff {R : Registry} {u : Update} :
    R.update col u = R ↔ R.database.apply col u = R.database :=
  ⟨fun h => congrArg Registry.database h, fun h => by rw [Registry.update, h]⟩

end Statements

/-! ## Atomic -/

omit [Jdk] in
theorem atomic_removeActuator (id : Option String) : Atomic col (removeActuator id) w :=
  (ends_removeActuator id).atomic
    ((uses_removeActuator id).mono (fun _ => keepsAddress_of_tame) fun _ h => h) (fun h => h)
    (fun _ => .inl) fun _ _ => List.mem_singleton.mp

theorem atomic_manualActuatorAdd : Atomic col manualActuatorAdd w :=
  ends_manualActuatorAdd.atomic (keepsAddress_program .manualActuatorAdd) ActuatorGoes.mysql
    (fun _ => .inl) fun _ _ => List.mem_singleton.mp

theorem atomic_removeSensor (id type : Option String)
    (h : (Operation.removeSensor id type).NotHalfway col w) :
    Atomic col (removeSensor id type) w := by
  refine (ends_removeSensor id type).atomic (keepsAddress_program (.removeSensor id type))
    (fun hG => hG.1) ?_ fun _ _ => List.mem_singleton.mp
  rintro _ rfl
  by_cases hon : w.checked .wsnSensorsRemoveSensorIgnoreCheck = true
  · by_cases hl : w.ignoreSensorList = none
    · left
      rw [World.withSensorListed, hon, hl, listedIf, if_pos rfl, Option.map_none, ← hl,
        listing_self]
    · obtain ⟨hmysql, hrows⟩ := h hon hl
      exact .inr ⟨⟨hmysql, fun _ => hl⟩,
        (update_eq_iff.mpr (apply_deleteSensor_eq_iff.mpr hrows)).symm⟩
  · left
    rw [World.withSensorListed, listedIf, if_neg hon, listing_self]

theorem atomic_removeNode (id : Option String) (h : (Operation.removeNode id).NotHalfway col w) :
    Atomic col (removeNode id) w := by
  refine (ends_removeNode id).atomic (keepsAddress_program (.removeNode id)) (fun hG => hG.1) ?_
    fun _ _ => List.mem_singleton.mp
  by_cases hon : w.checked .wsnGeneralRemoveNodeIgnoreCheck = true
  · by_cases hl : w.ignoreNodeList = none
    · rintro _ (rfl | ⟨hG, -⟩)
      · left
        rw [World.withNodeListed, hon, hl, listedIf, if_pos rfl, Option.map_none, ← hl,
          listing_self]
      · exact absurd hl (hG.2 hon)
    · -- No row goes, so the registry with the new entry is the last one.
      obtain ⟨hmysql, hnodes, hsensors⟩ := h.1 hon hl
      have hfirst : (w.withNodeListed id).registry.update col (.deleteNode (spell id)) =
          (w.withNodeListed id).registry := update_eq_iff.mpr (apply_deleteNode_eq_iff.mpr hnodes)
      have hsecond : (w.withNodeListed id).registry.update col (.deleteSensors (spell id)) =
          (w.withNodeListed id).registry :=
        update_eq_iff.mpr (apply_deleteSensors_eq_iff.mpr hsensors)
      rw [hfirst, hsecond]
      rintro _ (rfl | ⟨hG, rfl⟩)
      · exact .inr ⟨⟨hmysql, fun _ => hl⟩, rfl⟩
      · exact .inr ⟨hG, rfl⟩
  · have hself : w.withNodeListed id = w := by
      rw [World.withNodeListed, listedIf, if_neg hon, listing_self]
    rw [hself]
    rintro _ (rfl | ⟨hG, rfl⟩)
    · exact .inl rfl
    · rcases h.2 (by simpa using hon) hG.1 with hnodes | hsensors
      · exact .inl (update_eq_iff.mpr (apply_deleteNode_eq_iff.mpr hnodes))
      · refine .inr ⟨hG, (update_eq_iff.mpr (apply_deleteSensors_eq_iff.mpr ?_)).symm⟩
        exact hsensors

theorem atomic_manualNodeAdd (h : Operation.manualNodeAdd.NotHalfway col w) :
    Atomic col manualNodeAdd w := by
  refine ends_manualNodeAdd.atomic (keepsAddress_program .manualNodeAdd) NodeGoes.mysql ?_
    fun _ _ => List.mem_singleton.mp
  rintro _ (rfl | ⟨hgoes, rfl⟩)
  · exact .inl rfl
  · obtain ⟨l, hl⟩ := Option.ne_none_iff_exists'.mp hgoes.list
    left
    rw [World.withNodeUnlisted, hl, Option.map_some, List.erase_of_not_mem (h hgoes l hl), ← hl,
      listing_self]

theorem atomic_manualSensorAdd (h : Operation.manualSensorAdd.NotHalfway col w) :
    Atomic col manualSensorAdd w := by
  refine ends_manualSensorAdd.atomic (keepsAddress_program .manualSensorAdd) SensorGoes.mysql
    (fun _ => .inl) fun hgoes R hR => ?_
  obtain ⟨l, hl⟩ := Option.ne_none_iff_exists'.mp hgoes.list
  have hreleased : releasedFrom w.typedSensor l = l := by
    have hne := h hgoes l hl
    unfold releasedFrom
    split
    · exact absurd ‹_› hne
    · rfl
  have hself : w.withSensorReleased = w := by
    rw [World.withSensorReleased, hl, Option.map_some, hreleased, ← hl, listing_self]
  rw [hself] at hR ⊢
  simpa using hR

/-! ## Half-way -/

section Halfway

variable {t : List (Event calls World)}

omit [Jdk] in
theorem exists_post (c : Call) (s : World × List (Event calls World)) :
    ∃ x s', ((under col anyFault).recording failed).post c s x s' :=
  ⟨_, (_, _), ⟨.fine, nofun, rfl⟩, rfl⟩

omit [Jdk] in
/-- A call that is refused. -/
theorem reach_refused {c : Call} {x : c.Ret} {w' : World}
    {Q : c.Ret → World × List (Event calls World) → Prop}
    {E : Exn → World × List (Event calls World) → Prop} (hc : c.isJdbc)
    (hstep : step col c ⟨true, .fault⟩ w = (x, w')) (h : Q x (w', t ++ [⟨w, c, x⟩])) :
    reach ((under col anyFault).recording failed) (call c) Q E (w, t) := by
  have hpost : ((under col anyFault).recording failed).post c (w, t) x (w', t ++ [⟨w, c, x⟩]) := by
    refine ⟨⟨⟨true, .fault⟩, fun _ => trivial, hstep⟩, ?_⟩
    have hthrew := threw_of_fails (f := ⟨true, .fault⟩) hc rfl col w
    rw [hstep] at hthrew
    rw [List.filter_singleton, failed, hthrew]
    rfl
  exact reach_lift hpost h

omit [Jdk] in
theorem reach_openStatement_refused {m : Message}
    {Q : Option Connection → World × List (Event calls World) → Prop}
    {E : Exn → World × List (Event calls World) → Prop}
    (h : ∀ q e, e.before = w → Q none (w.quietly q, t ++ [e])) :
    reach ((under col anyFault).recording failed) (openStatement m) Q E (w, t) := by
  simp only [openStatement, reach_bind]
  refine reach_refused (c := .forName) (x := false) trivial rfl (reach_of_wp exists_post ?_)
  simp only [Bool.not_false, if_true, wp_bind, wp_appendToOutput_failing, wp_pure]
  exact h _ _ rfl

omit [Jdk] in
theorem reach_executeUpdate_refused {c : Connection} {u : Update} {m : Message}
    {Q : Bool → World × List (Event calls World) → Prop}
    {E : Exn → World × List (Event calls World) → Prop}
    (h : ∀ q e, e.before = w → Q false (w.quietly q, t ++ [e])) :
    reach ((under col anyFault).recording failed) (executeUpdate c u m) Q E (w, t) := by
  simp only [executeUpdate, reach_bind]
  refine reach_refused (c := .executeUpdate c u) (x := false) trivial rfl
    (reach_of_wp exists_post ?_)
  simp only [Bool.not_false, if_true, wp_bind, wp_appendToOutput_failing, wp_pure]
  exact h _ _ rfl

omit [Jdk] in
/-- What a ticked box puts on the list is new. -/
theorem withNodeListed_ne (id : Option String)
    (hon : w.checked .wsnGeneralRemoveNodeIgnoreCheck = true) (hl : w.ignoreNodeList ≠ none) :
    (w.withNodeListed id).registry ≠ w.registry := by
  obtain ⟨l, hl⟩ := Option.ne_none_iff_exists'.mp hl
  intro h
  have := congrArg Registry.ignoreNodeList h
  simp [World.withNodeListed, World.registry, World.listing, listedIf, hon, hl] at this

omit [Jdk] in
theorem withSensorListed_ne (id type : Option String)
    (hon : w.checked .wsnSensorsRemoveSensorIgnoreCheck = true) (hl : w.ignoreSensorList ≠ none) :
    (w.withSensorListed id type).registry ≠ w.registry := by
  obtain ⟨l, hl⟩ := Option.ne_none_iff_exists'.mp hl
  intro h
  have := congrArg Registry.ignoreSensorList h
  simp [World.withSensorListed, World.registry, World.listing, listedIf, hon, hl] at this

omit [Jdk] in
theorem not_atomic_removeSensor (id type : Option String)
    (hon : w.checked .wsnSensorsRemoveSensorIgnoreCheck = true) (hl : w.ignoreSensorList ≠ none)
    (hrows : w.mysql .mysqlAddress ≠ none →
      (Query.sensor (spell id) (spell type)).run col w.database ≠ []) :
    ¬ Atomic col (removeSensor id type) w := by
  have hne := withSensorListed_ne id type hon hl
  refine (ends_removeSensor id type).not_atomic (R := (w.withSensorListed id type).registry)
    (fun hG heq => ?_) (fun _ => hne) ?_
  · exact hrows hG.1 (apply_deleteSensor_eq_iff.mp (update_eq_iff.mp heq.symm))
  simp only [removeSensor, reach_bind]
  refine reach_of_wp exists_post (wp_unfailing (offline_ignoreSensorIfTicked id type) ?_)
  refine wp_ignoreSensorIfTicked (fun _ h => absurd h hl) fun q _ => ?_
  simp only [deleteSensor, reach_bind]
  exact reach_openStatement_refused fun q' e he => ⟨hne, e, by simp, by rw [he]; rfl⟩

omit [Jdk] in
/-- With the box ticked, the node is on the list before anything can fail. -/
theorem not_atomic_removeNode_ticked (id : Option String)
    (hon : w.checked .wsnGeneralRemoveNodeIgnoreCheck = true) (hl : w.ignoreNodeList ≠ none)
    (hrows : w.mysql .mysqlAddress ≠ none → (Query.node (spell id)).run col w.database = [] →
      (Query.sensors (spell id)).run col w.database ≠ []) :
    ¬ Atomic col (removeNode id) w := by
  have hne := withNodeListed_ne id hon hl
  refine (ends_removeNode id).not_atomic (R := (w.withNodeListed id).registry)
    (fun hG heq => ?_) (fun _ => hne) ?_
  · have hdb := congrArg Registry.database heq.symm
    have hnodes : (w.database.apply col (.deleteNode (spell id))).nodes = w.database.nodes :=
      (congrArg Database.nodes hdb :)
    have hsensors : (w.database.apply col (.deleteSensors (spell id))).sensors =
        w.database.sensors := (congrArg Database.sensors hdb :)
    refine hrows hG.1 (apply_deleteNode_eq_iff.mp ?_) (apply_deleteSensors_eq_iff.mp ?_)
    · exact congrArg (Database.mk · w.database.sensors w.database.actuators) hnodes
    · exact congrArg (Database.mk w.database.nodes · w.database.actuators) hsensors
  simp only [removeNode, reach_bind]
  refine reach_of_wp exists_post (wp_unfailing (offline_ignoreNodeIfTicked id) ?_)
  refine wp_ignoreNodeIfTicked (fun _ h => absurd h hl) fun q _ => ?_
  simp only [deleteNode, reach_bind]
  exact reach_openStatement_refused fun q' e he => ⟨hne, e, by simp, by rw [he]; rfl⟩

omit [Jdk] in
/-- Otherwise the two `DELETE`s can come apart. -/
theorem not_atomic_removeNode_unticked (id : Option String)
    (hoff : w.checked .wsnGeneralRemoveNodeIgnoreCheck = false)
    (hmysql : w.mysql .mysqlAddress ≠ none)
    (hnodes : (Query.node (spell id)).run col w.database ≠ [])
    (hsensors : (Query.sensors (spell id)).run col w.database ≠ []) :
    ¬ Atomic col (removeNode id) w := by
  have hself : w.withNodeListed id = w := by
    rw [World.withNodeListed, listedIf, if_neg (by simp [hoff]), listing_self]
  have hne : w.registry.update col (.deleteNode (spell id)) ≠ w.registry := fun h =>
    hnodes (apply_deleteNode_eq_iff.mp (update_eq_iff.mp h))
  have hends : Ends col (removeNode id) w _ _ _ _ := ends_removeNode id
  rw [hself] at hends
  refine hends.not_atomic (R := w.registry.update col (.deleteNode (spell id)))
    (fun _ heq => ?_) (fun hG => absurd ⟨hmysql, fun hon => by simp [hoff] at hon⟩ hG) ?_
  · exact hsensors ((apply_deleteSensors_eq_iff (d := (w.registry.update col
      (.deleteNode (spell id))).database)).mp (update_eq_iff.mp heq.symm))
  obtain ⟨url, hw⟩ := Option.ne_none_iff_exists'.mp hmysql
  simp only [removeNode, reach_bind]
  refine reach_of_wp exists_post (wp_unfailing (offline_ignoreNodeIfTicked id) ?_)
  refine wp_ignoreNodeIfTicked (fun hon => by simp [hoff] at hon) fun q _ => ?_
  rw [← World.withNodeListed, hself]
  simp only [deleteNode, reach_bind]
  refine reach_through (w := w.quietly q) (R := fun _ => True)
    ((redraws_openStatement _).uses keepsAddress_of_redraws) hmysql ?_
  refine wp_openStatement (fun c q₁ hurl => ?_) fun ht => absurd ht (not_trouble hw)
  simp only [reach_bind]
  refine reach_through (w := (w.quietly q).quietly q₁) (R := fun _ => True)
    (uses_executeUpdate (by simp [Call.keepsAddress]) (by simp [Call.keepsAddress]) _ _) hmysql ?_
  refine wp_executeUpdate ?_ fun ht => absurd ht (not_trouble hw)
  simp only [Bool.not_true, Bool.false_eq_true, if_false, reach_bind]
  have hreg : (((w.quietly q).quietly q₁).update col c.url (.deleteNode (spell id))).registry =
      w.registry.update col (.deleteNode (spell id)) := registry_update (by exact hurl) _
  refine reach_executeUpdate_refused fun q₂ e he => ?_
  exact ⟨hreg ▸ hne, e, by simp, by rw [he]; exact hreg⟩

/-- A node on the list is off it before the row can be refused. -/
theorem not_atomic_manualNodeAdd (hgoes : NodeGoes col w) {l : List (Option String)}
    (hl : w.ignoreNodeList = some l) (hmem : some (w.text .wsnGeneralManualNodeAddId) ∈ l) :
    ¬ Atomic col manualNodeAdd w := by
  have hne : w.withNodeUnlisted.registry ≠ w.registry := by
    intro h
    have hlists := congrArg Registry.ignoreNodeList h
    simp only [World.withNodeUnlisted, World.registry, World.listing, hl, Option.map_some,
      Option.some_inj] at hlists
    have hlength := List.length_erase_of_mem hmem
    have hpos := List.length_pos_of_mem hmem
    rw [hlists] at hlength
    omega
  refine ends_manualNodeAdd.not_atomic (R := w.withNodeUnlisted.registry) (fun _ heq => ?_)
    (fun hG => absurd hgoes hG) ?_
  · have hrows := congrArg (fun R => R.database.nodes.length) heq
    simp [Registry.update, Database.apply] at hrows
  obtain ⟨url, hw⟩ := Option.ne_none_iff_exists'.mp hgoes.mysql
  simp only [manualNodeAdd, reach_bind]
  refine reach_through (redraws_getText _).keepsAddress hgoes.mysql ?_
  rw [wp_getText, if_neg (by simp [hgoes.id])]
  simp only [reach_bind]
  refine reach_through (redraws_openStatement _).keepsAddress hgoes.mysql ?_
  refine wp_openStatement (fun c q₁ hurl => ?_) fun ht => absurd ht (not_trouble hw)
  have hnew : (Query.node (w.text .wsnGeneralManualNodeAddId)).run col (w.servers c.url) = [] := by
    rw [← World.database_of_url hurl]
    exact hgoes.new
  simp only [reach_bind]
  refine reach_through (w := w.quietly q₁) (redraws_getText _).keepsAddress hgoes.mysql ?_
  rw [wp_getText]
  refine reach_through (w := w.quietly q₁) (redraws_executeQuery _ _ _).keepsAddress
    hgoes.mysql ?_
  refine wp_executeQuery ?_ fun ht => absurd ht (not_trouble hw)
  simp only [reach_bind]
  refine reach_through (w := w.quietly q₁) (redraws_readRows _ _ _).keepsAddress
    hgoes.mysql ?_
  refine wp_readRows (fun q₂ => ?_) fun ht => absurd ht (not_trouble hw)
  simp only [World.quietly_servers, World.quietly_text, hnew, List.map_nil, List.isEmpty_nil,
    Bool.not_true, Bool.false_eq_true, if_false, reach_bind]
  refine reach_through (w := (w.quietly q₁).quietly q₂) (redraws_getText _).keepsAddress
    hgoes.mysql ?_
  rw [wp_getText, if_neg (by simp [hgoes.address])]
  simp only [reach_bind]
  refine reach_of_wp exists_post ?_
  rw [wp_appendToOutput_failing]
  refine reach_of_wp exists_post (wp_unfailing offline_unignoreNode ?_)
  refine wp_unignoreNode (fun hnone => absurd hnone hgoes.list) fun l' q₃ hl' => ?_
  obtain rfl : l = l' := Option.some_inj.mp (hl.symm.trans hl')
  have hR : w.withNodeUnlisted.registry = (w.listing
      (some (l.erase (some (w.text .wsnGeneralManualNodeAddId)))) w.ignoreSensorList).registry := by
    rw [World.withNodeUnlisted, hl, Option.map_some]
  simp only [insertTypedNode, reach_bind]
  refine reach_refused (c := .createStatement c) (x := false) trivial rfl
    (reach_of_wp exists_post ?_)
  simp only [Bool.not_false, if_true, wp_bind, wp_appendToOutput_failing, wp_pure]
  exact ⟨hR ▸ hne, _, List.mem_append_right _ (List.mem_singleton_self _), hR.symm⟩

/-- The row is in before taking the sensor off the list, and a failure lies between. -/
theorem not_atomic_manualSensorAdd (hgoes : SensorGoes col w) {l : List SensorIgnoreIdTypeObject}
    (hl : w.ignoreSensorList = some l) (hmem : containsEntry w.typedSensor l = .ok true) :
    ¬ Atomic col manualSensorAdd w := by
  have hinserted : ∀ R : Registry, R.database = w.database.apply col w.insertTyped →
      R ≠ w.registry := by
    rintro R hR rfl
    have hrows := congrArg (fun d : Database => d.sensors.length) hR
    simp [World.registry, World.insertTyped, Database.apply] at hrows
  obtain ⟨rest, hrest, hlength⟩ := removeEntry_of_containsEntry hmem
  have hreleased : releasedFrom w.typedSensor l = rest := by rw [releasedFrom, hmem, hrest]
  refine ends_manualSensorAdd.not_atomic (R := w.registry.update col w.insertTyped)
    (fun _ heq => ?_) (fun hG => absurd hgoes hG) ?_
  · have hlists := congrArg Registry.ignoreSensorList heq
    simp only [Registry.update, World.withSensorReleased, World.registry, World.listing, hl,
      Option.map_some, hreleased, Option.some_inj] at hlists
    rw [hlists] at hlength
    omega
  obtain ⟨url, hw⟩ := Option.ne_none_iff_exists'.mp hgoes.mysql
  simp only [manualSensorAdd, reach_bind]
  refine reach_through (redraws_getText _).keepsAddress hgoes.mysql ?_
  rw [wp_getText, if_neg (by simp [hgoes.type])]
  simp only [reach_bind]
  refine reach_through (redraws_openStatement _).keepsAddress hgoes.mysql ?_
  refine wp_openStatement (fun c q₁ hurl => ?_) fun ht => absurd ht (not_trouble hw)
  have hnew : (Query.sensor (spell (w.combo .wsnSensorsNodeComboBox).selected)
      (w.text .wsnSensorsManualSensorAddType)).run col (w.servers c.url) = [] := by
    rw [← World.database_of_url hurl]
    exact hgoes.new
  simp only [reach_bind]
  refine reach_through (w := w.quietly q₁) (redraws_getSelectedItem _).keepsAddress hgoes.mysql ?_
  rw [wp_getSelectedItem]
  refine reach_through (w := w.quietly q₁) (redraws_getText _).keepsAddress hgoes.mysql ?_
  rw [wp_getText]
  refine reach_through (w := w.quietly q₁) (redraws_executeQuery _ _ _).keepsAddress
    hgoes.mysql ?_
  refine wp_executeQuery ?_ fun ht => absurd ht (not_trouble hw)
  simp only [reach_bind]
  refine reach_through (w := w.quietly q₁) (redraws_readRows _ _ _).keepsAddress
    hgoes.mysql ?_
  refine wp_readRows (fun q₂ => ?_) fun ht => absurd ht (not_trouble hw)
  simp only [World.quietly_servers, World.quietly_text, World.quietly_combo, hnew, List.map_nil,
    List.isEmpty_nil, Bool.not_true, Bool.false_eq_true, if_false, reach_bind]
  refine reach_of_wp exists_post ?_
  rw [wp_appendToOutput_failing]
  refine reach_of_wp exists_post (wp_unfailing offline_ignoreSensorListContainsString ?_)
  refine wp_ignoreSensorListContainsString (fun hnone => absurd hnone hgoes.list) fun _ => ?_
  generalize (((w.quietly q₁).quietly q₂).traffic.say .sensorUnique) = q₃
  rw [insertTypedSensor, reach_bind]
  refine reach_through (w := w.quietly q₃) (redraws_createStatement c).keepsAddress hgoes.mysql ?_
  rw [wp_createStatement]
  refine ⟨?_, fun hm => absurd trivial hm⟩
  simp only [Bool.not_true, Bool.false_eq_true, if_false]
  rw [reach_bind]
  refine reach_through (w := w.quietly q₃) (redraws_getSelectedItem _).keepsAddress hgoes.mysql ?_
  rw [wp_getSelectedItem, reach_bind]
  refine reach_through (w := w.quietly q₃) (redraws_getText _).keepsAddress hgoes.mysql ?_
  rw [wp_getText, reach_bind]
  refine reach_through (w := w.quietly q₃) (R := fun _ => True)
    (uses_executeUpdate (by simp [Call.keepsAddress]) (by simp [Call.keepsAddress]) _ _)
    hgoes.mysql ?_
  refine wp_executeUpdate ?_ fun ht => absurd ht (not_trouble hw)
  simp only [Bool.not_true, Bool.false_eq_true, if_false]
  rw [reach_bind]
  refine reach_of_wp exists_post ?_
  rw [wp_appendToOutput_failing, reach_bind, closeConnection, reach_bind]
  have hreg : ((w.quietly q₃).update col c.url w.insertTyped).registry =
      w.registry.update col w.insertTyped := registry_update (by exact hurl) _
  refine reach_refused (c := .close c) (x := false) trivial rfl ?_
  simp only [Bool.not_false, if_true, appendToOutputOf]
  refine reach_of_wp exists_post ?_
  rw [wp_appendToOutput_failing]
  -- However the rest goes, the failure is on record and the row stays.
  have hafter : ∀ (s : World × List (Event calls World)) (e : Event calls World),
      e.before.registry = w.registry.update col w.insertTyped →
      Ended w (SensorGoes col w) (· = w.registry) [w.registry.update col w.insertTyped,
        w.withSensorReleased.registry.update col w.insertTyped]
        (w.withSensorReleased.registry.update col w.insertTyped) s ∧ [] ++ [e] <+: s.2 →
      s.1.registry ≠ w.registry ∧
        ∃ e ∈ s.2, e.before.registry = w.registry.update col w.insertTyped := by
    rintro ⟨w', t'⟩ e he ⟨hend, hgrow⟩
    have hmem' : e ∈ t' := hgrow.subset (by simp)
    refine ⟨?_, e, hmem', he⟩
    cases hend with
    | idle hG _ => exact absurd hgoes hG
    | stopped hw' _ hat =>
      exact absurd (he.symm.trans ((hat e hmem').trans hw')) (hinserted _ rfl)
    | done _ hw' _ =>
      intro hback
      exact hinserted _ rfl (hw'.symm.trans hback)
  have hgoOn : ∀ (w₁ : World) (e : Event calls World), w₁.ignoreSensorList = some l →
      w₁.ignoreNodeList = w.ignoreNodeList → w₁.database = w.database.apply col w.insertTyped →
      w₁.typedSensor = w.typedSensor → e.before.registry = w.registry.update col w.insertTyped →
      reach ((under col anyFault).recording failed) (do
        unignoreSensor
        updateSensorsSelect (← getSelectedItem .wsnSensorsNodeComboBox)
        setText .wsnSensorsManualSensorAddType "" : Panel Unit)
        (fun _ s => s.1.registry ≠ w.registry ∧
          ∃ e ∈ s.2, e.before.registry = w.registry.update col w.insertTyped)
        (fun _ s => s.1.registry ≠ w.registry ∧
          ∃ e ∈ s.2, e.before.registry = w.registry.update col w.insertTyped) (w₁, [] ++ [e]) := by
    intro w₁ e hsensors hnodes hdb htyped he
    refine reach_of_wp exists_post (((wp_sensorAdded hgoes hl hsensors hnodes hdb htyped
      fun e' he' => ?_).and (wp_recording_grows (fun _ _ => trivial) _)).mono
        (fun _ s => hafter s e he) fun _ s => hafter s e he)
    obtain rfl := List.mem_singleton.mp he'
    exact he
  exact hgoOn _ _ hl rfl (congrArg Registry.database hreg) rfl hreg

end Halfway

/-- **Atomicity.** An operation leaves the registry as it was after every failure that comes
before its last change, if and only if it cannot be stopped half-way from where it starts. -/
theorem atomic_iff (op : Operation) : Atomic col op.program w ↔ op.NotHalfway col w := by
  cases op with
  | removeActuator id => exact iff_of_true (atomic_removeActuator id) trivial
  | manualActuatorAdd => exact iff_of_true atomic_manualActuatorAdd trivial
  | removeSensor id type =>
    refine ⟨fun h hon hl => ?_, atomic_removeSensor id type⟩
    by_contra hnot
    exact not_atomic_removeSensor id type hon hl (fun hmysql hrows => hnot ⟨hmysql, hrows⟩) h
  | removeNode id =>
    refine ⟨fun h => ⟨fun hon hl => ?_, fun hoff hmysql => ?_⟩, atomic_removeNode id⟩
    · by_contra hnot
      exact not_atomic_removeNode_ticked id hon hl
        (fun hmysql hnodes hsensors => hnot ⟨hmysql, hnodes, hsensors⟩) h
    · by_contra hnot
      obtain ⟨hnodes, hsensors⟩ := not_or.mp hnot
      exact not_atomic_removeNode_unticked id hoff hmysql hnodes hsensors h
  | manualNodeAdd =>
    refine ⟨fun h hgoes l hl hmem => ?_, atomic_manualNodeAdd⟩
    exact not_atomic_manualNodeAdd hgoes hl hmem h
  | manualSensorAdd =>
    refine ⟨fun h hgoes l hl hmem => ?_, atomic_manualSensorAdd⟩
    exact not_atomic_manualSensorAdd hgoes hl hmem h

end Atomicity

/-- A window over one node with one sensor. -/
def pairedWorld : World :=
  .running "jdbc:mysql://db" ⟨[⟨"1", none⟩], [⟨"1", "light", none, none⟩], []⟩

/-- The node can go without its sensor. -/
theorem not_always_atomic : ¬ ∀ (jdk : Jdk) (col : Collation) (op : Operation) (w : World),
    Atomic col (@Operation.program jdk op) w := fun h =>
  not_atomic_removeNode_unticked (some "1") rfl (Option.some_ne_none _) (by decide) (by decide)
    (h plainJdk .exact (.removeNode (some "1")) pairedWorld)

end CrossingReality
