import CrossingReality.Threads

/-!
# Sensors of a removed node

`removeNode` deletes the node and then its sensors, in two statements. A reading checks the node,
checks the sensor and inserts the sensor, each on a connection of its own. When the insert comes
after both deletes, the sensor stays behind and comes back to haunt the next node of that name.

**Theorem (`interleaving_swept`).** Nothing stays behind if, once the removal has deleted the
sensors, sensors of the node only go in while the node is registered.
-/

namespace CrossingReality

open Effects

variable {ι : Type} {col : Collation} {url id : String}

/-! ## The removal -/

section Removal

variable {A : (c : Call) → c.Ret → Prop} {t : Told}

/-- The calls of a removal write only the two deletes. -/
def Call.removes (id : String) (c : Call) : Prop :=
  c.keepsAddress ∧ ∀ u, c.update = some u → u = .deleteNode id ∨ u = .deleteSensors id

theorem removes_of_redraws (c : Call) (hc : c.redraws fun _ => True) : c.removes id := by
  refine ⟨keepsAddress_of_redraws c hc, fun u hu => ?_⟩
  cases c <;> first | exact hc.elim | cases hu

theorem uses_removeNode_removes :
    (removeNode (some id)).Uses (Call.removes id) fun _ => True := by
  have happend : ∀ m, Call.removes id (.append m) := fun m => removes_of_redraws _ trivial
  have hdelete : ∀ c, Call.removes id (.executeUpdate c (.deleteNode id)) := fun c =>
    ⟨by simp [Call.keepsAddress], fun u hu => .inl (Option.some_inj.mp hu).symm⟩
  have hsweep : ∀ c, Call.removes id (.executeUpdate c (.deleteSensors id)) := fun c =>
    ⟨by simp [Call.keepsAddress], fun u hu => .inr (Option.some_inj.mp hu).symm⟩
  refine .bind ?_ fun _ => ?_
  · simp only [ignoreNodeIfTicked, isSelected, uses_call_bind]
    refine ⟨by simp [Call.removes, Call.keepsAddress, Call.update],
      fun ticked => Program.uses_ite _ ?_ trivial⟩
    simp only [uses_call_bind]
    refine ⟨by simp [Call.removes, Call.keepsAddress, Call.update],
      fun ok => Program.uses_ite _ ?_ trivial⟩
    exact (redraws_appendToOutput _).uses removes_of_redraws
  · refine uses_bindOption ((redraws_openStatement _).uses removes_of_redraws) trivial fun c => ?_
    refine .bind (uses_executeUpdate hdelete happend _ _) fun ok => Program.uses_ite _ trivial ?_
    refine .bind (uses_executeUpdate hsweep happend _ _) fun ok => Program.uses_ite _ trivial ?_
    refine ((redraws_appendToOutput _).uses removes_of_redraws).bind fun _ => ?_
    refine ⟨by simp [Call.removes, Call.keepsAddress, Call.update], fun _ => ?_⟩
    exact (redraws_updateNodeSelects.mono fun _ _ => trivial).uses removes_of_redraws

/-- The sensors of the node have been deleted. -/
def SweptBy {σ : Type} (url id : String) (l : List (Event calls σ)) : Prop :=
  ∃ e ∈ l, Writes url (.deleteSensors id) e

/-- No delete follows that of the sensors. -/
def SweepLast (id : String) : Told → Prop :=
  Stepwise fun t e => e.call.update = some (.deleteNode id) →
    ∀ e' ∈ t, e'.call.update ≠ some (.deleteSensors id)

theorem quiet_ignoreNodeIfTicked :
    (ignoreNodeIfTicked (some id)).Uses (fun c : Call => c.isStatement = false) fun _ => True := by
  simp only [ignoreNodeIfTicked, isSelected, uses_call_bind]
  refine ⟨rfl, fun ticked => Program.uses_ite _ ?_ trivial⟩
  simp only [uses_call_bind]
  exact ⟨rfl, fun ok => Program.uses_ite _ ⟨rfl, fun _ => trivial⟩ trivial⟩

theorem update_of_redraws (c : Call) (hc : c.redraws fun _ => True) : c.update = none := by
  cases c <;> first | rfl | exact hc.elim

/-- The removal deletes the sensors last. -/
theorem wp_removeNode_sweeps (hA : ¬ Failing A)
    (hurl : ∀ c, A .getConnection (some c) → c.url = url) :
    wp (watching A) (removeNode (some id)) (fun _ s => SweepLast id s.2 ∧ SweptBy url id s.2)
      (fun _ s => SweepLast id s.2) ((), []) := by
  have hdone : ∀ {c u ok}, A (.executeUpdate c u) ok → ok = true := fun {c u ok} hok => by
    cases ok with
    | false => exact absurd ⟨_, _, hok, rfl⟩ hA
    | true => rfl
  simp only [removeNode, wp_bind]
  refine wp_quiet quiet_ignoreNodeIfTicked (fun _ => ?_) fun _ _ => stepwise_nil
  simp only [deleteNode, wp_bind]
  refine wp_openStatement_watching (fun c hc => ?_) fun h => absurd h hA
  simp only [wp_bind]
  refine wp_executeUpdate_watching fun ok hok => ?_
  obtain rfl := hdone hok
  simp only [Bool.not_true, Bool.false_eq_true, if_false, wp_bind]
  refine wp_executeUpdate_watching fun ok hok => ?_
  obtain rfl := hdone hok
  simp only [Bool.not_true, Bool.false_eq_true, if_false]
  refine (wp_keeping (P := fun c => c.update = none) (R := fun _ => True)
    (I := fun t => SweepLast id t ∧ SweptBy url id t) ?_ ?_ ⟨?_, ?_⟩).mono (fun _ _ h => h)
      fun _ _ h => h.2.1
  · refine ((redraws_appendToOutput _).uses update_of_redraws).bind fun _ => ⟨rfl, fun _ => ?_⟩
    exact (redraws_updateNodeSelects.mono fun _ _ => trivial).uses update_of_redraws
  · rintro r e he ⟨hlast, d, hd, hwrites⟩
    refine ⟨stepwise_concat.mpr ⟨hlast, fun h => ?_⟩, d, List.mem_append_left _ hd, hwrites⟩
    rw [he] at h
    cases h
  · refine stepwise_concat.mpr ⟨stepwise_concat.mpr ⟨stepwise_nil, by simp⟩, fun h => ?_⟩
    cases h
  · exact ⟨_, List.mem_append_right _ (List.mem_singleton_self _), hurl c hc, rfl, rfl⟩

end Removal

/-! ## Interleavings -/

/-- A removal of a node, and readings of its sensors, each in a thread of its own. -/
def removalAmong [Jdk] (id : String) (r : ι → String × Int32) : Option ι → Panel Unit
  | none => removeNode (some id)
  | some i => do
    let _ ← sensed id (r i).1 (r i).2

/-- Once the sensors have been deleted, sensors only go in while the node is registered. -/
def Attended (col : Collation) (url id : String) : List (Move (Option ι) calls World) → Prop :=
  Stepwise fun l m => SweptBy url id (l.map Move.toEvent) →
    ∀ type, Writes url (.insertSensor id type) m.toEvent → (m.before.servers url).hasNode col id

section Pools

variable [DecidableEq ι] [Jdk] {r : ι → String × Int32} {ps' : Option ι → Panel Unit} {w w' : World}
  {l : List (Move (Option ι) calls World)}

/-- The calls of the threads. -/
def Call.ofPool (id : String) (r : ι → String × Int32) : Option ι → Call → Prop
  | none, c => c.removes id
  | some i, c => c.ofReading (Update.ofReading id (r i).1)

omit [DecidableEq ι] in
theorem uses_removalAmong (i : Option ι) :
    (removalAmong id r i).Uses (Call.ofPool id r i) fun _ => True := by
  cases i with
  | none => exact uses_removeNode_removes
  | some i => exact (uses_sensed _).bind fun _ => trivial

omit [DecidableEq ι] [Jdk] in
theorem keepsAddress_of_pool {i : Option ι} {c : Call} (hc : c.ofPool id r i) : c.keepsAddress := by
  cases i with
  | none => exact hc.1
  | some i =>
    rintro d s rfl
    exact hc

/-- No sensor of the node is there unless the node is. -/
def Attached (col : Collation) (id : String) (d : Database) : Prop :=
  (∃ s ∈ d.sensors, col.same s.id id = true) → d.hasNode col id

omit [Jdk] in
/-- A write of a reading keeps the sensors attached, if it adds none while the node is gone. -/
theorem Attached.apply_ofReading {d : Database} {type : String} {u : Update}
    (hcol : ∀ s, col.same s s = true) (h : Attached col id d) (hu : u.ofReading id type)
    (hins : u = .insertSensor id type → d.hasNode col id) : Attached col id (d.apply col u) := by
  have hmap : ∀ f, Attached col id (d.mapBounds col id type f) := by
    rintro f ⟨s, hs, hsame⟩
    rw [Database.mapBounds_sensors] at hs
    obtain ⟨s', hs', rfl⟩ := List.mem_map.mp hs
    refine h ⟨s', hs', ?_⟩
    split at hsame <;> exact hsame
  rcases hu with rfl | hu
  · exact fun _ => ⟨⟨id, none⟩, List.mem_append_right _ (List.mem_singleton_self _), hcol id⟩
  cases u with
  | insertSensor i t =>
    obtain ⟨rfl, rfl⟩ := hu
    exact fun _ => hins rfl
  | setMin v i t =>
    obtain ⟨rfl, rfl⟩ := hu
    exact hmap fun b => { b with min := some v }
  | setMax v i t =>
    obtain ⟨rfl, rfl⟩ := hu
    exact hmap fun b => { b with max := some v }
  | setBounds v i t =>
    obtain ⟨rfl, rfl⟩ := hu
    exact hmap fun _ => ⟨some v, some v⟩
  | _ => exact hu.elim

/-- Only the removal sweeps. -/
theorem sweeper_of_interleaving
    (h : Interleaving (under col httpFault) (removalAmong id r) w l ps' w')
    (hswept : SweptBy url id (l.map Move.toEvent)) :
    ∃ e ∈ own none l, e.call.update = some (.deleteSensors id) := by
  obtain ⟨e, he, hwrites⟩ := hswept
  obtain ⟨d, hd, rfl⟩ := List.mem_map.mp he
  have huses := (h.uses uses_removalAmong).1 d hd
  cases hthread : d.thread with
  | none => exact ⟨_, mem_own.mpr ⟨d, hd, hthread, rfl⟩, hwrites.update⟩
  | some j =>
    rw [hthread] at huses
    rcases update_of_ofReading huses hwrites.update with hu | hu
    · cases hu
    · exact hu.elim

theorem answers_of_interleaving (hw : At url w)
    (h : Interleaving (under col httpFault) (removalAmong id r) w l ps' w') :
    At url w' ∧ ∀ m ∈ l, (under col httpFault).answers (At url) m.call m.ret := by
  have hat := h.invariant uses_removalAmong
    (fun _ _ _ _ _ hc hs hx => at_of_post hx (keepsAddress_of_pool hc) hs) hw
  exact ⟨hat.1, h.answers hat.2⟩

theorem sweepLast_of_interleaving (hw : At url w)
    (h : Interleaving (under col httpFault) (removalAmong id r) w l ps' w') :
    SweepLast id ((own none l).filter (·.call.isStatement)) := by
  refine of_wp_recording (exists_answer hw) (fun _ _ => Stepwise.of_append)
    (h.judged (i := none) (answers_of_interleaving hw h).2 ?_)
  exact (wp_removeNode_sweeps not_failing fun _ => url_of_answers).mono (fun _ _ h => h.1)
    fun _ _ h => h

/-- **Step.** Once the sensors have been deleted, what the threads do leaves them attached. -/
theorem attached_of_swept (hcol : ∀ s, col.same s s = true) (hw : At url w)
    (h : Interleaving (under col httpFault) (removalAmong id r) w l ps' w')
    (hl : Attended col url id l) (hswept : SweptBy url id (l.map Move.toEvent)) :
    Attached col id (w'.servers url) := by
  induction h with
  | nil => simp [SweptBy] at hswept
  | @move l ps' s' s'' i c p x h hi hx ih =>
    have hmove := Interleaving.move h hi hx
    replace ⟨hl, hnow⟩ := stepwise_concat.mp hl
    obtain ⟨e, he, hwrites⟩ := hswept
    rw [List.map_append, List.mem_append] at he
    have huses := (h.uses uses_removalAmong).2 i
    rw [hi] at huses
    rcases servers_of_post hx url with ⟨hnone, heq⟩ | ⟨u, hu, heq⟩
    · rw [heq]
      refine ih hl ⟨e, he.resolve_right fun he => ?_, hwrites⟩
      rw [List.mem_singleton.mp he] at hwrites
      exact hnone _ hwrites
    rw [heq]
    cases i with
    | none =>
      rcases huses.1.2 u hu.update with rfl | rfl
      · -- The removal has not deleted the sensors yet.
        have hlast := sweepLast_of_interleaving hw hmove
        rw [own_append, own_singleton_self, List.filter_append] at hlast
        have hkept : [(⟨(), c, x⟩ : Event calls Unit)].filter (·.call.isStatement) =
            [⟨(), c, x⟩] := by simpa using isStatement_of_update hu.update
        rw [hkept] at hlast
        rcases he with he | he
        · obtain ⟨e', he', hsweeps⟩ := sweeper_of_interleaving h ⟨e, he, hwrites⟩
          refine absurd hsweeps ((stepwise_concat.mp hlast).2 hu.update e' ?_)
          exact List.mem_filter.mpr ⟨he', isStatement_of_update hsweeps⟩
        · rw [List.mem_singleton.mp he] at hwrites
          cases hu.update.symm.trans hwrites.update
      · rintro ⟨s, hs, hsame⟩
        have := (List.mem_filter.mp hs).2
        simp [hsame] at this
    | some j =>
      have hreading := update_of_ofReading huses.1 hu.update
      have hbefore : SweptBy url id (l.map Move.toEvent) := by
        refine ⟨e, he.resolve_right fun he => ?_, hwrites⟩
        rw [List.mem_singleton.mp he] at hwrites
        obtain rfl := Option.some_inj.mp (hu.update.symm.trans hwrites.update)
        rcases hreading with hreading | hreading
        · cases hreading
        · exact hreading
      refine (ih hl hbefore).apply_ofReading hcol hreading ?_
      rintro rfl
      exact hnow hbefore _ hu

/-- **Sweeping.** In an interleaving of a removal and readings of the node in which no database
call fails and the sweep is attended, once the removal is through, a node that is gone has left no
sensor behind. -/
theorem interleaving_swept (hcol : ∀ s, col.same s s = true) (hw : At url w)
    (h : Interleaving (under col httpFault) (removalAmong id r) w l ps' w')
    (hend : ps' none = .pure ()) (hl : Attended col url id l)
    (hgone : ¬ w'.database.hasNode col id) :
    ∀ s ∈ w'.database.sensors, col.same s.id id = false := by
  obtain ⟨hat, hA⟩ := answers_of_interleaving hw h
  have hdone := h.finished (i := none) hA
    (wp_removeNode_sweeps not_failing fun _ => url_of_answers) hend
  have hswept : SweptBy url id (l.map Move.toEvent) := by
    obtain ⟨-, e, he, hwrites⟩ := hdone
    obtain ⟨m, hm, -, rfl⟩ := mem_own.mp (List.mem_filter.mp he).1
    exact ⟨_, List.mem_map_of_mem hm, writes_blind.mp hwrites⟩
  rw [World.database_of_url hat] at hgone ⊢
  intro s hs
  by_contra hsame
  exact hgone (attached_of_swept hcol hw h hl hswept ⟨s, hs, by simpa using hsame⟩)

end Pools

/-! ## A sensor that stays behind -/

/-- The call adds a sensor. -/
def Call.addsSensor : Call → Bool
  | .executeUpdate _ (.insertSensor _ _) => true
  | _ => false

/-- Sensors only go in before any are deleted. -/
theorem attended_append {l l' : List (Move (Option ι) calls World)}
    (hl : ∀ m ∈ l, m.call.update ≠ some (.deleteSensors id))
    (hl' : ∀ m ∈ l', m.call.addsSensor = false) : Attended col url id (l ++ l') := by
  rintro l₁ m l₂ heq ⟨e, he, hwrites⟩ type hins
  obtain ⟨d, hd, rfl⟩ := List.mem_map.mp he
  have hadds : m.call.addsSensor = true := by
    have hupdate := hins.update
    cases hc : m.call <;> rw [hc] at hupdate <;> cases hupdate
    rfl
  -- The insert is not in the second part, so no delete comes before it.
  rcases List.append_eq_append_iff.mp heq with ⟨l₃, rfl, hl₂⟩ | ⟨l₃, rfl, hl₂⟩
  · rw [hl' m (by simp [hl₂])] at hadds
    cases hadds
  · exact absurd hwrites.update (hl d (by simp [hd]))

/-- A window over a registry with one node, adding sensors. -/
def withNode : World :=
  { World.running "jdbc:mysql://db" ⟨[⟨"1", some "http://vw"⟩], [], []⟩ with
    checked := fun b => b = .wsnSensorsAutoAddCheck }

/-- A removal of the node and a reading of a new sensor of it, moving in the given order. -/
def removeAndSense (order : List (Option Unit)) :
    List (Move (Option Unit) calls World) × (Option Unit → Panel Unit) × World :=
  racing (@removalAmong Unit plainJdk "1" fun _ => ("light", 5)) order withNode

/-- The reading first looks for the node and its sensors. -/
def lateInsert : List (Option Unit) :=
  List.replicate 20 (some ()) ++ List.replicate 60 none ++ List.replicate 60 (some ())

/-- The sensor goes in when the removal is through, and stays. -/
theorem not_always_swept : ¬ ∀ (jdk : Jdk) (col : Collation) (url id : String)
    (r : Unit → String × Int32) (w w' : World) (ps' : Option Unit → Panel Unit)
    (l : List (Move (Option Unit) calls World)), (∀ s, col.same s s = true) → At url w →
    Interleaving (under col httpFault) (@removalAmong Unit jdk id r) w l ps' w' →
    (∀ i, ps' i = .pure ()) → ¬ w'.database.hasNode col id →
    ∀ s ∈ w'.database.sensors, col.same s.id id = false := by
  intro h
  have hdatabase : (removeAndSense lateInsert).2.2.database =
      ⟨[], [⟨"1", "light", none, none⟩], []⟩ := by decide +kernel
  have hremoved : ((removeAndSense lateInsert).2.1 none).ended = some () := by decide +kernel
  have hread : ((removeAndSense lateInsert).2.1 (some ())).ended = some () := by decide +kernel
  have hended : ∀ i, (removeAndSense lateInsert).2.1 i = .pure ()
    | none => Program.eq_pure_of_ended hremoved
    | some () => Program.eq_pure_of_ended hread
  have hswept := h plainJdk .exact "jdbc:mysql://db" "1" (fun _ => ("light", 5)) withNode
    (removeAndSense lateInsert).2.2 _ _ (by simp) rfl
    (interleaving_racing httpFault _ lateInsert withNode) hended
  rw [hdatabase] at hswept
  exact absurd (hswept (by simp [Database.hasNode]) _ List.mem_cons_self) (by simp)

/-- The sensor goes in when the node is gone, and before the sensors are deleted. -/
def earlyInsert : List (Option Unit) :=
  (List.replicate 7 [some (), none]).flatten ++ List.replicate 20 (some ()) ++
    (List.replicate 60 [none, some ()]).flatten

theorem earlyInsert_swept : (removeAndSense earlyInsert).2.2.database.nodes = [] ∧
    ∀ s ∈ (removeAndSense earlyInsert).2.2.database.sensors,
      Collation.exact.same s.id "1" = false := by
  have hrun := interleaving_racing httpFault (@removalAmong Unit plainJdk "1" fun _ => ("light", 5))
    earlyInsert withNode
  have hended : ((removeAndSense earlyInsert).2.1 none).ended = some () := by decide +kernel
  have hnodes : (removeAndSense earlyInsert).2.2.database.nodes = [] := by decide +kernel
  have hattended : Attended .exact "jdbc:mysql://db" "1" (removeAndSense earlyInsert).1 := by
    rw [← List.take_append_drop 34 (removeAndSense earlyInsert).1]
    exact attended_append (by decide +kernel) (by decide +kernel)
  refine ⟨hnodes, @interleaving_swept Unit .exact "jdbc:mysql://db" "1" _ plainJdk _ _ withNode
    _ _ (by simp) rfl hrun (Program.eq_pure_of_ended hended) hattended ?_⟩
  rintro ⟨n, hn, -⟩
  rw [hnodes] at hn
  cases hn

end CrossingReality
