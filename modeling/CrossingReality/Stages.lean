import CrossingReality.Effects.Reach
import CrossingReality.Failures

/-!
# The stages of an operation

The six operations on the registry, when a database call fails in the middle of one. An operation
goes through a few registries, one after each of its changes. A failure stops it at the one it is
at, and nothing takes a change back.

* `Ended` — how an execution of an operation can end.
* `ends_*` — how each of the six does.
-/

namespace CrossingReality

open Effects

/-! ## Registries -/

/-- What the operations work on: the tables and the two ignore lists. -/
structure Registry where
  database : Database
  ignoreNodeList : Option (List (Option String))
  ignoreSensorList : Option (List SensorIgnoreIdTypeObject)
deriving DecidableEq

namespace Registry

/-- After a statement. -/
def update (col : Collation) (R : Registry) (u : Update) : Registry :=
  { R with database := R.database.apply col u }

end Registry

/-- The registry of a world. -/
def World.registry (w : World) : Registry := ⟨w.database, w.ignoreNodeList, w.ignoreSensorList⟩

section Registries

variable {col : Collation} {w : World} {url : String}

@[simp] theorem registry_quietly (q : Traffic) : (w.quietly q).registry = w.registry := rfl

@[simp] theorem registry_redrawn (t : TextField → String) (c : ComboBox → Combo) (q : Traffic) :
    (w.redrawn t c q).registry = w.registry := rfl

theorem registry_update (hw : w.mysql .mysqlAddress = some url) (u : Update) :
    (w.update col url u).registry = w.registry.update col u :=
  congrArg (Registry.mk · w.ignoreNodeList w.ignoreSensorList) (World.update_database hw col u)

end Registries

/-! ## Operations -/

/-- The operations that change the registry. -/
inductive Operation where
  | manualNodeAdd
  | manualSensorAdd
  | manualActuatorAdd
  | removeNode (id : Option String)
  | removeSensor (id type : Option String)
  | removeActuator (id : Option String)

/-- The method of an operation. -/
def Operation.program [Jdk] : Operation → Panel Unit
  | .manualNodeAdd => CrossingReality.manualNodeAdd
  | .manualSensorAdd => CrossingReality.manualSensorAdd
  | .manualActuatorAdd => CrossingReality.manualActuatorAdd
  | .removeNode id => CrossingReality.removeNode id
  | .removeSensor id type => CrossingReality.removeSensor id type
  | .removeActuator id => CrossingReality.removeActuator id

/-- Without a failing database call, the program can end with this registry. -/
def Completes (col : Collation) (p : Panel Unit) (w : World) (R : Registry) : Prop :=
  ∃ l r w', Runs (under col anyFault) p w l r w' ∧ (∀ e ∈ l, failed e = false) ∧ w'.registry = R

/-- Whatever database calls fail: if one does before all the changes are made, there are none. -/
def Atomic (col : Collation) (p : Panel Unit) (w : World) : Prop :=
  ∀ l r w', Runs (under col anyFault) p w l r w' →
    ∀ e ∈ l, failed e = true → ¬ Completes col p w e.before.registry → w'.registry = w.registry

/-! ## How an operation ends -/

/-- How an operation started in `w` can end, beside the failures it met. It can be stopped by a
failure at one of `stages`. If `G` holds it can also be `done`, having met failures at some of
`soft`, and if not it may have done nothing at all. -/
inductive Ended (w : World) (G : Prop) (stages : Registry → Prop) (soft : List Registry)
    (final : Registry) : World × List (Event calls World) → Prop
  | idle {w' : World} {t : List (Event calls World)} (hG : ¬ G) (hw : w'.registry = w.registry) :
      Ended w G stages soft final (w', t)
  | stopped {w' : World} {t : List (Event calls World)} (hw : stages w'.registry) (ht : t ≠ [])
      (hat : ∀ e ∈ t, e.before.registry = w'.registry) : Ended w G stages soft final (w', t)
  | done {w' : World} {t : List (Event calls World)} (hG : G) (hw : w'.registry = final)
      (hat : ∀ e ∈ t, e.before.registry ∈ soft) : Ended w G stages soft final (w', t)

/-- Every execution of the program ends so. -/
def Ends (col : Collation) (p : Panel Unit) (w : World) (G : Prop) (stages : Registry → Prop)
    (soft : List Registry) (final : Registry) : Prop :=
  wp ((under col anyFault).recording failed) p (fun _ => Ended w G stages soft final)
    (fun _ => Ended w G stages soft final) (w, [])

section Ends

variable {col : Collation} {w : World} {p : Panel Unit} {G : Prop} {stages : Registry → Prop}
  {soft : List Registry} {final : Registry}

theorem not_failed_fine {c : Call} (hw : w.mysql .mysqlAddress ≠ none) :
    failed ⟨w, c, (step col c .fine w).1⟩ = false := by
  cases c with
  | getConnection =>
    cases hurl : w.mysql .mysqlAddress with
    | none => exact absurd hurl hw
    | some url => simp [step, hurl, failed, Call.threw, Fate.fine]
  | executeQuery | executeUpdate => simp [step, failed, Call.threw, Fate.fine]
  | _ => rfl

/-- A part that keeps the address can go through without a failure. -/
theorem reach_through {α : Type} {p : Panel α} {R : Exn → Prop} (hp : p.Uses Call.keepsAddress R)
    (hw : w.mysql .mysqlAddress ≠ none) {t : List (Event calls World)}
    {Q : α → World × List (Event calls World) → Prop}
    {E : Exn → World × List (Event calls World) → Prop}
    (h : wp (under col httpFault) p (fun a w' => Q a (w', t)) (fun e w' => E e (w', t)) w) :
    reach ((under col anyFault).recording failed) p Q E (w, t) := by
  induction p generalizing w with
  | pure a => exact h
  | raise e => exact h
  | call c k ih =>
    have hmysql := step_mysql hp.1 col .fine w
    refine ⟨(step col c .fine w).1, ((step col c .fine w).2, t), ⟨⟨.fine, nofun, rfl⟩, ?_⟩, ?_⟩
    · rw [List.filter_singleton, not_failed_fine hw]
      simp
    · exact ih _ (hp.2 _) (by rw [hmysql]; exact hw) (h.2 _ _ ⟨.fine, nofun, rfl⟩)

/-- How an execution without a failure ends. -/
theorem Ends.of_completes (h : Ends col p w G stages soft final) {R : Registry}
    (hR : Completes col p w R) : ¬ G ∧ R = w.registry ∨ G ∧ R = final := by
  obtain ⟨l, r, w', hrun, hl, rfl⟩ := hR
  have hnil : l.filter failed = [] := List.filter_eq_nil_iff.mpr fun e he => by simp [hl e he]
  have hend := hrun.of_recording h
  rw [List.nil_append, hnil] at hend
  cases hend with
  | idle hG hw => exact .inl ⟨hG, hw⟩
  | stopped _ ht => exact absurd rfl ht
  | done hG hw => exact .inr ⟨hG, hw⟩

/-- With an address and everything in place, the program can be done. -/
theorem Ends.completes {R : Exn → Prop} (h : Ends col p w G stages soft final)
    (hp : p.Uses Call.keepsAddress R) (hw : w.mysql .mysqlAddress ≠ none) (hG : G) :
    Completes col p w final := by
  have hclean : wp (under col httpFault) p (fun _ _ => ([] : List (Event calls World)) = [])
      (fun _ _ => ([] : List (Event calls World)) = []) w :=
    wp_of_runs (fun _ _ => trivial) fun _ r _ _ => by cases r <;> exact rfl
  obtain ⟨l, r, w', hrun, hout⟩ := exists_runs_of_reach (reach_through
    (Q := fun _ s => s.2 = []) (E := fun _ s => s.2 = []) hp hw hclean)
  have hnil : l.filter failed = [] := by
    cases r <;> exact hout
  have hl : ∀ e ∈ l, failed e = false := fun e he => by
    simpa using List.filter_eq_nil_iff.mp hnil e he
  have hR : Completes col p w w'.registry := ⟨l, r, w', hrun, hl, rfl⟩
  rcases h.of_completes hR with ⟨hnot, -⟩ | ⟨-, hfinal⟩
  · exact absurd hG hnot
  · exact hfinal ▸ hR

/-- An operation is atomic where every stage it can be stopped at is the first or the last, and it
only goes on after a failure once it is done. -/
theorem Ends.atomic {R : Exn → Prop} (h : Ends col p w G stages soft final)
    (hp : p.Uses Call.keepsAddress R) (hGw : G → w.mysql .mysqlAddress ≠ none)
    (hstages : ∀ R, stages R → R = w.registry ∨ G ∧ R = final) (hsoft : G → ∀ R ∈ soft, R = final) :
    Atomic col p w := by
  intro l r w' hrun e he hfails hearly
  have hcomp : G → e.before.registry ≠ final := fun hG heq =>
    hearly (heq ▸ h.completes hp (hGw hG) hG)
  have hmem : e ∈ l.filter failed := List.mem_filter.mpr ⟨he, hfails⟩
  have hend := hrun.of_recording h
  rw [List.nil_append] at hend
  cases hend with
  | idle _ hw => exact hw
  | stopped hw _ hat =>
    rcases hstages _ hw with hfirst | ⟨hG, hlast⟩
    · exact hfirst
    · exact absurd ((hat e hmem).trans hlast) (hcomp hG)
  | done hG _ hat => exact absurd (hsoft hG _ (hat e hmem)) (hcomp hG)

/-- It is not where it can be stopped at, or can go on after a failure at, another registry than
the last, and ends with another than the first. -/
theorem Ends.not_atomic (h : Ends col p w G stages soft final) {R : Registry}
    (hfinal : G → R ≠ final) (hfirst : ¬ G → R ≠ w.registry)
    (hreach : reach ((under col anyFault).recording failed) p
      (fun _ s => s.1.registry ≠ w.registry ∧ ∃ e ∈ s.2, e.before.registry = R)
      (fun _ s => s.1.registry ≠ w.registry ∧ ∃ e ∈ s.2, e.before.registry = R) (w, [])) :
    ¬ Atomic col p w := by
  intro hatomic
  obtain ⟨l, r, w', hrun, hout⟩ := exists_runs_of_reach hreach
  have hbad : w'.registry ≠ w.registry ∧ ∃ e ∈ l.filter failed, e.before.registry = R := by
    cases r <;> simpa [outcome] using hout
  obtain ⟨hne, e, he, hbefore⟩ := hbad
  obtain ⟨he, hfails⟩ := List.mem_filter.mp he
  refine hne (hatomic l r w' hrun e he hfails fun hcomp => ?_)
  rcases h.of_completes (hbefore ▸ hcomp) with ⟨hG, hR⟩ | ⟨hG, hR⟩
  · exact hfirst hG hR
  · exact hfinal hG hR

/-! ## The end of an operation -/

/-- The calls that keep the registry. -/
def Call.keepsRegistry : Call → Prop
  | .executeUpdate _ _ | .setMysql _ _ | .setIgnoreNodeList _ | .addIgnoreNode _
  | .removeIgnoreNode _ | .setIgnoreSensorList _ | .addIgnoreSensor _ => False
  | _ => True

theorem keepsRegistry_of_redraws (c : Call) (hc : c.redraws fun _ => True) : c.keepsRegistry := by
  cases c <;> first | exact hc.elim | trivial

theorem SameInside.registry {c : Call} {w' : World} (h : SameInside c w w')
    (hc : ∀ k u, c ≠ .executeUpdate k u) : w'.registry = w.registry := by
  simp only [World.registry, World.database, h.servers hc, h.mysql, h.ignoreNodeList,
    h.ignoreSensorList]

theorem step_registry {c : Call} (hc : c.keepsRegistry) (f : Fate) :
    (step col c f w).2.registry = w.registry := by
  cases c with
  | executeUpdate | setMysql | setIgnoreNodeList | addIgnoreNode | removeIgnoreNode
  | setIgnoreSensorList | addIgnoreSensor => exact hc.elim
  | _ => first | rfl | exact (step_outside rfl col f w).registry (by simp)

/-- Once the last change is made, the rest of an operation is harmless. -/
theorem wp_done {α : Type} {p : Panel α} {w₁ : World} {t : List (Event calls World)}
    (hp : p.Uses Call.keepsRegistry fun _ => True) (hG : G) (hw : w₁.registry = final)
    (hsoft : final ∈ soft) (ht : ∀ e ∈ t, e.before.registry ∈ soft) :
    wp ((under col anyFault).recording failed) p (fun _ => Ended w G stages soft final)
      (fun _ => Ended w G stages soft final) (w₁, t) := by
  have hkeep : ∀ c s, Call.keepsRegistry c → s.registry = final → (under col anyFault).pre c s ∧
      ∀ x s', (under col anyFault).post c s x s' → s'.registry = final := by
    intro c s hc hs
    refine ⟨trivial, fun x s' hx => ?_⟩
    obtain ⟨f, -, rfl⟩ := step_of_post hx
    exact (step_registry hc f).trans hs
  have hend : ∀ w₂ : World, w₂.registry = final → ∀ l : List (Event calls World),
      (∀ e ∈ l, failed e = true ∧ Call.keepsRegistry e.call ∧ e.before.registry = final) →
        Ended w G stages soft final (w₂, t ++ l) := by
    intro w₂ hw₂ l hl
    refine .done hG hw₂ fun e he => ?_
    rcases List.mem_append.mp he with he | he
    · exact ht e he
    · exact (hl e he).2.2 ▸ hsoft
  refine wp_recording (I := fun s => s.registry = final) hp
    (fun c s x s' hc hs hx => (hkeep c s hc hs).2 x s' hx) hw ?_
  exact (wp_of_uses hp hkeep hw).mono (fun _ w₂ h => hend w₂ h) fun _ w₂ h => hend w₂ h.2

theorem Ended.stopped_one {w₁ : World} {e : Event calls World} (hw : stages w₁.registry)
    (he : e.before.registry = w₁.registry) : Ended w G stages soft final (w₁, [e]) :=
  .stopped hw (by simp) (by simpa using he)

end Ends

/-! ## Removing -/

section Removing

/-- The world in which a node was put on the ignore list, if the box is ticked. -/
def World.withNodeListed (w : World) (id : Option String) : World :=
  w.listing (listedIf (w.checked .wsnGeneralRemoveNodeIgnoreCheck) id w.ignoreNodeList)
    w.ignoreSensorList

/-- The world in which a sensor was put on the ignore list, if the box is ticked. -/
def World.withSensorListed (w : World) (id type : Option String) : World :=
  w.listing w.ignoreNodeList (listedIf (w.checked .wsnSensorsRemoveSensorIgnoreCheck) ⟨id, type⟩
    w.ignoreSensorList)

variable {col : Collation} {w : World}

theorem offline_ignoreNodeIfTicked (i : Option String) :
    (ignoreNodeIfTicked i).Uses (fun c : Call => ¬ c.isJdbc) fun _ => True :=
  ⟨id, fun _ => Program.uses_ite _
    ⟨id, fun _ => Program.uses_ite _ ⟨id, fun _ => trivial⟩ trivial⟩ trivial⟩

theorem offline_ignoreSensorIfTicked (i type : Option String) :
    (ignoreSensorIfTicked i type).Uses (fun c : Call => ¬ c.isJdbc) fun _ => True :=
  ⟨id, fun _ => Program.uses_ite _
    ⟨id, fun _ => Program.uses_ite _ ⟨id, fun _ => trivial⟩ trivial⟩ trivial⟩

theorem ends_removeActuator (id : Option String) :
    Ends col (removeActuator id) w (w.mysql .mysqlAddress ≠ none) (· = w.registry)
      [w.registry.update col (.deleteActuator (spell id))]
      (w.registry.update col (.deleteActuator (spell id))) := by
  simp only [Ends, removeActuator, wp_bind]
  refine wp_openStatement_failing (fun c q hurl => ?_) fun q q' e he _ =>
    .stopped_one rfl (by rw [he]; rfl)
  simp only [wp_bind]
  refine wp_executeUpdate_failing ?_ fun q e he _ =>
    .stopped_one rfl (by rw [he]; rfl)
  simp only [Bool.not_true, Bool.false_eq_true, if_false]
  refine wp_done ?_ (by simp [hurl]) (registry_update hurl _) (List.mem_singleton_self _) (by simp)
  refine .bind ((redraws_appendToOutput _).uses keepsRegistry_of_redraws) fun _ => ?_
  exact tame_updateActuatorsSelects.uses keepsRegistry_of_redraws

theorem ends_removeSensor (id type : Option String) :
    Ends col (removeSensor id type) w (w.mysql .mysqlAddress ≠ none ∧
        (w.checked .wsnSensorsRemoveSensorIgnoreCheck = true → w.ignoreSensorList ≠ none))
      (· = (w.withSensorListed id type).registry)
      [(w.withSensorListed id type).registry.update col (.deleteSensor (spell id) (spell type))]
      ((w.withSensorListed id type).registry.update col
        (.deleteSensor (spell id) (spell type))) := by
  simp only [Ends, removeSensor, wp_bind]
  refine wp_unfailing (offline_ignoreSensorIfTicked id type) ?_
  refine wp_ignoreSensorIfTicked (fun hon hl => .idle (by simp [hon, hl]) rfl) fun q₁ hlist => ?_
  simp only [deleteSensor, wp_bind]
  refine wp_openStatement_failing (fun c q hurl => ?_) fun q q' e he _ =>
    .stopped_one rfl (by rw [he]; rfl)
  simp only [wp_bind]
  refine wp_executeUpdate_failing ?_ fun q e he _ =>
    .stopped_one rfl (by rw [he]; rfl)
  simp only [Bool.not_true, Bool.false_eq_true, if_false]
  refine wp_done ?_ ⟨?_, hlist⟩ (registry_update (by exact hurl) _) (List.mem_singleton_self _)
    (by simp)
  · refine .bind ((redraws_appendToOutput _).uses keepsRegistry_of_redraws) fun _ => ?_
    refine ⟨trivial, fun _ => ?_⟩
    exact (redraws_updateSensorsSelect trivial _).uses keepsRegistry_of_redraws
  · have hw : w.mysql .mysqlAddress = some c.url := hurl
    simp [hw]

theorem ends_removeNode (id : Option String) :
    Ends col (removeNode id) w (w.mysql .mysqlAddress ≠ none ∧
        (w.checked .wsnGeneralRemoveNodeIgnoreCheck = true → w.ignoreNodeList ≠ none))
      (fun R => R = (w.withNodeListed id).registry ∨ (w.mysql .mysqlAddress ≠ none ∧
          (w.checked .wsnGeneralRemoveNodeIgnoreCheck = true → w.ignoreNodeList ≠ none)) ∧
        R = (w.withNodeListed id).registry.update col (.deleteNode (spell id)))
      [((w.withNodeListed id).registry.update col (.deleteNode (spell id))).update col
        (.deleteSensors (spell id))]
      (((w.withNodeListed id).registry.update col (.deleteNode (spell id))).update col
        (.deleteSensors (spell id))) := by
  simp only [Ends, removeNode, wp_bind]
  refine wp_unfailing (offline_ignoreNodeIfTicked id) ?_
  refine wp_ignoreNodeIfTicked (fun hon hl => .idle (by simp [hon, hl]) rfl) fun q₁ hlist => ?_
  simp only [deleteNode, wp_bind]
  refine wp_openStatement_failing (fun c q hurl => ?_) fun q q' e he _ =>
    .stopped_one (.inl rfl) (by rw [he]; rfl)
  have hw : w.mysql .mysqlAddress = some c.url := hurl
  have hfirst : (((w.withNodeListed id).quietly q).update col c.url
      (.deleteNode (spell id))).registry =
        (w.withNodeListed id).registry.update col (.deleteNode (spell id)) :=
    registry_update (by exact hurl) _
  simp only [wp_bind]
  refine wp_executeUpdate_failing ?_ fun q e he _ =>
    .stopped_one (.inl rfl) (by rw [he]; rfl)
  simp only [Bool.not_true, Bool.false_eq_true, if_false, wp_bind]
  refine wp_executeUpdate_failing ?_ fun q e he _ =>
    .stopped_one (.inr ⟨⟨by simp [hw], hlist⟩, hfirst⟩) (by rw [he]; rfl)
  simp only [Bool.not_true, Bool.false_eq_true, if_false]
  refine wp_done ?_ ⟨by simp [hw], hlist⟩ ?_ (List.mem_singleton_self _) (by simp)
  · refine .bind ((redraws_appendToOutput _).uses keepsRegistry_of_redraws) fun _ => ?_
    refine ⟨trivial, fun _ => ?_⟩
    exact tame_updateNodeSelects.uses keepsRegistry_of_redraws
  · rw [← hfirst]
    exact registry_update (by exact hurl) _

end Removing

/-! ## Adding -/

section Adding

variable [Jdk] {col : Collation} {w : World}

/-- The node typed in is added, if nothing fails. -/
structure NodeGoes (col : Collation) (w : World) : Prop where
  id : (w.text .wsnGeneralManualNodeAddId).isEmpty = false
  mysql : w.mysql .mysqlAddress ≠ none
  new : (Query.node (w.text .wsnGeneralManualNodeAddId)).run col w.database = []
  address : parsesURL (some (w.text .wsnGeneralManualNodeAddAddress)) = true
  list : w.ignoreNodeList ≠ none

/-- The sensor typed in is added, if nothing fails. -/
structure SensorGoes (col : Collation) (w : World) : Prop where
  type : (w.text .wsnSensorsManualSensorAddType).isEmpty = false
  mysql : w.mysql .mysqlAddress ≠ none
  new : (Query.sensor (spell (w.combo .wsnSensorsNodeComboBox).selected)
    (w.text .wsnSensorsManualSensorAddType)).run col w.database = []
  list : w.ignoreSensorList ≠ none

/-- The actuator typed in is added, if nothing fails. -/
structure ActuatorGoes (col : Collation) (w : World) : Prop where
  id : (w.text .actuatorManualActuatorAddId).isEmpty = false
  typed : (w.text .actuatorManualActuatorAddAddress).isEmpty = false
  address : parsesURL (some (w.text .actuatorManualActuatorAddAddress)) = true
  mysql : w.mysql .mysqlAddress ≠ none
  new : (Query.actuator (w.text .actuatorManualActuatorAddId)).run col w.database = []

/-- The world in which the node typed in was taken off the ignore list. -/
def World.withNodeUnlisted (w : World) : World :=
  w.listing (w.ignoreNodeList.map (·.erase (some (w.text .wsnGeneralManualNodeAddId))))
    w.ignoreSensorList

omit [Jdk] in
theorem offline_getText (f : TextField) :
    (getText f).Uses (fun c : Call => ¬ c.isJdbc) fun _ => True := ⟨id, fun _ => trivial⟩

omit [Jdk] in
theorem offline_unignoreNode : unignoreNode.Uses (fun c : Call => ¬ c.isJdbc) fun _ => True := by
  refine ⟨id, fun i => ⟨id, fun ignored => ?_⟩⟩
  cases ignored with
  | none => trivial
  | some l => exact Program.uses_ite _ ⟨id, fun _ => ⟨id, fun _ => ⟨id, fun _ => trivial⟩⟩⟩ trivial

theorem ends_manualNodeAdd :
    Ends col manualNodeAdd w (NodeGoes col w)
      (fun R => R = w.registry ∨ NodeGoes col w ∧ R = w.withNodeUnlisted.registry)
      [w.withNodeUnlisted.registry.update col (.insertNode (w.text .wsnGeneralManualNodeAddId)
        (some (w.text .wsnGeneralManualNodeAddAddress)))]
      (w.withNodeUnlisted.registry.update col (.insertNode (w.text .wsnGeneralManualNodeAddId)
        (some (w.text .wsnGeneralManualNodeAddAddress)))) := by
  simp only [Ends, manualNodeAdd, wp_bind]
  refine wp_unfailing (offline_getText _) ?_
  rw [wp_getText, wp_ite]
  refine ⟨fun hempty => ?_, fun hid => ?_⟩
  · simp only [wp_bind, wp_appendToOutput_failing, wp_pure]
    exact .idle (fun h => by simp [h.id] at hempty) rfl
  simp only [wp_bind]
  refine wp_openStatement_failing (fun c q hurl => ?_) fun q q' e he _ =>
    .stopped_one (.inl rfl) (by rw [he]; rfl)
  have hdb : w.database = w.servers c.url := World.database_of_url hurl
  simp only [wp_bind]
  refine wp_unfailing (offline_getText _) ?_
  rw [wp_getText]
  refine wp_executeQuery_failing ?_ fun q e he _ =>
    .stopped_one (.inl rfl) (by rw [he]; rfl)
  simp only [wp_bind]
  refine wp_readRows_failing ?_ fun q e he _ =>
    .stopped_one (.inl rfl) (by rw [he]; rfl)
  simp only
  rw [wp_ite]
  refine ⟨fun hsome => ?_, fun hnone => ?_⟩
  · simp only [wp_bind, wp_appendToOutput_failing, wp_pure]
    refine .idle (fun h => ?_) rfl
    have hnew := h.new
    rw [hdb] at hnew
    simp [hnew] at hsome
  simp only [wp_bind]
  refine wp_unfailing (offline_getText _) ?_
  rw [wp_getText, wp_ite]
  refine ⟨fun hinvalid => ?_, fun hvalid => ?_⟩
  · simp only [wp_bind, wp_appendToOutput_failing, wp_pure]
    exact .idle (fun h => by simp [h.address] at hinvalid) rfl
  simp only [wp_bind, wp_appendToOutput_failing]
  refine wp_unfailing offline_unignoreNode ?_
  refine wp_unignoreNode (fun hl => .idle (fun h => h.list hl) rfl) fun l q₃ hl => ?_
  have hl' : w.ignoreNodeList = some l := hl
  have hgoes : NodeGoes col w := ⟨by simpa using hid, by simp [show _ = some c.url from hurl],
    by rw [hdb]; simpa using hnone, by simpa using hvalid, by simp [hl']⟩
  have hR : w.withNodeUnlisted.registry = (w.listing
      (some (l.erase (some (w.text .wsnGeneralManualNodeAddId)))) w.ignoreSensorList).registry := by
    rw [World.withNodeUnlisted, hl', Option.map_some]
  simp only [insertTypedNode, wp_bind]
  refine wp_createStatement_failing ?_ fun e he _ => ?_
  · simp only [Bool.not_true, Bool.false_eq_true, if_false, wp_bind]
    refine wp_unfailing (offline_getText _) ?_
    rw [wp_getText]
    refine wp_unfailing (offline_getText _) ?_
    rw [wp_getText]
    refine wp_executeUpdate_failing ?_ fun q e he _ =>
      .stopped_one (.inr ⟨hgoes, hR.symm⟩) (by rw [he]; rfl)
    simp only [Bool.not_true, Bool.false_eq_true, if_false]
    refine wp_done ?_ hgoes (hR ▸ registry_update (by exact hurl) _) (List.mem_singleton_self _)
      (by simp)
    refine .bind ((redraws_appendToOutput _).uses keepsRegistry_of_redraws) fun _ => ?_
    refine .bind ((redraws_closeConnection _).uses keepsRegistry_of_redraws) fun _ => ?_
    refine .bind (tame_updateNodeSelects.uses keepsRegistry_of_redraws) fun _ => ?_
    exact ⟨trivial, fun _ => ⟨trivial, fun _ => trivial⟩⟩
  · simp only [Bool.not_false, if_true, wp_bind, wp_appendToOutput_failing, wp_pure]
    exact .stopped_one (.inr ⟨hgoes, hR.symm⟩) (by rw [he]; rfl)

/-- An ignore list without the entry that a search finds. -/
def releasedFrom (o : SensorIgnoreIdTypeObject) (l : List SensorIgnoreIdTypeObject) :
    List SensorIgnoreIdTypeObject :=
  match containsEntry o l, removeEntry o l with
  | .ok true, .ok rest => rest
  | _, _ => l

/-- The entry of the sensor typed in. -/
def World.typedSensor (w : World) : SensorIgnoreIdTypeObject :=
  ⟨(w.combo .wsnSensorsNodeComboBox).selected, some (w.text .wsnSensorsManualSensorAddType)⟩

/-- The world in which the sensor typed in was taken off the ignore list. -/
def World.withSensorReleased (w : World) : World :=
  w.listing w.ignoreNodeList (w.ignoreSensorList.map (releasedFrom w.typedSensor))

/-- The row of the sensor typed in goes in. -/
def World.insertTyped (w : World) : Update :=
  .insertSensor (spell (w.combo .wsnSensorsNodeComboBox).selected)
    (w.text .wsnSensorsManualSensorAddType)

theorem offline_unignoreSensor :
    unignoreSensor.Uses (fun c : Call => ¬ c.isJdbc) fun _ => True := by
  refine ⟨id, fun i => ⟨id, fun type => ?_⟩⟩
  refine (uses_ignoreSensorListContains _ id).bind fun listed => Program.uses_ite _ ?_ trivial
  simp only [uses_call_bind]
  refine ⟨id, fun ignored => ?_⟩
  cases ignored with
  | none => trivial
  | some l =>
    simp only
    cases removeEntry ⟨i, some type⟩ l with
    | error e => trivial
    | ok rest => exact ⟨id, fun _ => ⟨id, fun _ => trivial⟩⟩

omit [Jdk] in
theorem offline_getSelectedItem (b : ComboBox) :
    (getSelectedItem b).Uses (fun c : Call => ¬ c.isJdbc) fun _ => True := ⟨id, fun _ => trivial⟩

/-- The end of adding a sensor: taking it off the list is the last change. -/
theorem wp_sensorAdded {w₁ : World} {l : List SensorIgnoreIdTypeObject}
    {t : List (Event calls World)} (hgoes : SensorGoes col w) (hl : w.ignoreSensorList = some l)
    (hlist : w₁.ignoreSensorList = some l) (hnodes : w₁.ignoreNodeList = w.ignoreNodeList)
    (hdb : w₁.database = w.database.apply col w.insertTyped)
    (htyped : w₁.typedSensor = w.typedSensor)
    (ht : ∀ e ∈ t, e.before.registry = w.registry.update col w.insertTyped) :
    wp ((under col anyFault).recording failed) (do
      unignoreSensor
      updateSensorsSelect (← getSelectedItem .wsnSensorsNodeComboBox)
      setText .wsnSensorsManualSensorAddType "" : Panel Unit)
      (fun _ => Ended w (SensorGoes col w) (· = w.registry)
        [w.registry.update col w.insertTyped,
          w.withSensorReleased.registry.update col w.insertTyped]
        (w.withSensorReleased.registry.update col w.insertTyped))
      (fun _ => Ended w (SensorGoes col w) (· = w.registry)
        [w.registry.update col w.insertTyped,
          w.withSensorReleased.registry.update col w.insertTyped]
        (w.withSensorReleased.registry.update col w.insertTyped)) (w₁, t) := by
  have hsoft : ∀ e ∈ t, e.before.registry ∈ [w.registry.update col w.insertTyped,
      w.withSensorReleased.registry.update col w.insertTyped] := fun e he => by simp [ht e he]
  have hfinal : ∀ w₂ : World, w₂.database = w₁.database → w₂.ignoreNodeList = w₁.ignoreNodeList →
      w₂.ignoreSensorList = some (releasedFrom w.typedSensor l) →
      w₂.registry = w.withSensorReleased.registry.update col w.insertTyped := by
    intro w₂ hd hn hs
    simp only [World.registry, World.withSensorReleased, World.listing, Registry.update]
    rw [hd, hn, hs, hdb, hnodes, hl]
    rfl
  have htail : (do
      updateSensorsSelect (← getSelectedItem .wsnSensorsNodeComboBox)
      setText .wsnSensorsManualSensorAddType "" : Panel Unit).Uses Call.keepsRegistry
        fun _ => True := by
    refine .bind ((redraws_getSelectedItem _).uses keepsRegistry_of_redraws) fun i => ?_
    refine .bind ((redraws_updateSensorsSelect trivial _).uses keepsRegistry_of_redraws) fun _ => ?_
    exact ⟨trivial, fun _ => trivial⟩
  rw [wp_bind]
  refine wp_unfailing offline_unignoreSensor ?_
  refine wp_unignoreSensor hlist (fun e he => ?_) (fun hout => ?_) fun rest q hin hrest => ?_
  · have hreleased : releasedFrom w.typedSensor l = l := by
      rw [releasedFrom, ← htyped, World.typedSensor, he]
    exact .done hgoes (hfinal w₁ rfl rfl (hlist.trans (by rw [hreleased]))) hsoft
  · have hreleased : releasedFrom w.typedSensor l = l := by
      rw [releasedFrom, ← htyped, World.typedSensor, hout]
    exact wp_done htail hgoes (hfinal w₁ rfl rfl (hlist.trans (by rw [hreleased]))) (by simp) hsoft
  · have hreleased : releasedFrom w.typedSensor l = rest := by
      rw [releasedFrom, ← htyped, World.typedSensor, hin, hrest]
    exact wp_done htail hgoes (hfinal _ rfl rfl (by rw [hreleased]; rfl)) (by simp) hsoft

omit [Jdk] in
theorem offline_ignoreSensorListContainsString :
    ignoreSensorListContainsString.Uses (fun c : Call => ¬ c.isJdbc) fun _ => True :=
  ⟨id, fun l => by cases l <;> trivial⟩

theorem ends_manualSensorAdd :
    Ends col manualSensorAdd w (SensorGoes col w) (· = w.registry)
      [w.registry.update col w.insertTyped,
          w.withSensorReleased.registry.update col w.insertTyped]
      (w.withSensorReleased.registry.update col w.insertTyped) := by
  simp only [Ends, manualSensorAdd, wp_bind]
  refine wp_unfailing (offline_getText _) ?_
  rw [wp_getText, wp_ite]
  refine ⟨fun hempty => ?_, fun htype => ?_⟩
  · simp only [wp_bind, wp_appendToOutput_failing, wp_pure]
    exact .idle (fun h => by simp [h.type] at hempty) rfl
  simp only [wp_bind]
  refine wp_openStatement_failing (fun c q hurl => ?_) fun q q' e he _ =>
    .stopped_one rfl (by rw [he]; rfl)
  have hdb : w.database = w.servers c.url := World.database_of_url hurl
  simp only [wp_bind]
  refine wp_unfailing (offline_getSelectedItem _) ?_
  rw [wp_getSelectedItem]
  refine wp_unfailing (offline_getText _) ?_
  rw [wp_getText]
  refine wp_executeQuery_failing ?_ fun q e he _ =>
    .stopped_one rfl (by rw [he]; rfl)
  simp only [wp_bind]
  refine wp_readRows_failing ?_ fun q e he _ =>
    .stopped_one rfl (by rw [he]; rfl)
  simp only
  rw [wp_ite]
  refine ⟨fun hsome => ?_, fun hnone => ?_⟩
  · simp only [wp_bind, wp_appendToOutput_failing, wp_pure]
    refine .idle (fun h => ?_) rfl
    have hnew := h.new
    rw [hdb] at hnew
    simp [hnew] at hsome
  simp only [wp_bind, wp_appendToOutput_failing]
  refine wp_unfailing offline_ignoreSensorListContainsString ?_
  refine wp_ignoreSensorListContainsString (fun hl => .idle (fun h => h.list hl) rfl)
    fun hlist => ?_
  have hgoes : SensorGoes col w := ⟨by simpa using htype, by simp [show _ = some c.url from hurl],
    by rw [hdb]; simpa using hnone, hlist⟩
  obtain ⟨l, hl⟩ := Option.ne_none_iff_exists'.mp hlist
  simp only [insertTypedSensor, wp_bind]
  refine wp_createStatement_failing ?_ fun e he _ => ?_
  · simp only [Bool.not_true, Bool.false_eq_true, if_false, wp_bind]
    refine wp_unfailing (offline_getSelectedItem _) ?_
    rw [wp_getSelectedItem]
    refine wp_unfailing (offline_getText _) ?_
    rw [wp_getText]
    refine wp_executeUpdate_failing ?_ fun q e he _ =>
      .stopped_one rfl (by rw [he]; rfl)
    simp only [Bool.not_true, Bool.false_eq_true, if_false]
    rw [wp_bind, wp_appendToOutput_failing, wp_bind]
    -- A failing `close` does not stop the method here.
    have hreg : (((w.quietly q).quietly ((w.quietly q).traffic.say .sensorUnique)).update col c.url
        w.insertTyped).registry = w.registry.update col w.insertTyped :=
      registry_update (by exact hurl) _
    refine wp_recording (I := fun s => s.registry = w.registry.update col w.insertTyped)
      (redraws_closeConnection (S := fun _ => True) c) (fun k s x s' hk hs hx => ?_) hreg ?_
    · obtain ⟨f, -, rfl⟩ := step_of_post hx
      exact (step_registry (keepsRegistry_of_redraws k hk) f).trans hs
    refine wp_closeConnection fun q₄ => fun l' hl' => ?_
    exact wp_sensorAdded hgoes hl hl rfl (congrArg Registry.database hreg) rfl
      fun e he => (hl' e (by simpa using he)).2.2
  · simp only [Bool.not_false, if_true, wp_bind, wp_appendToOutput_failing, wp_pure]
    exact .stopped_one rfl (by rw [he]; rfl)

theorem ends_manualActuatorAdd :
    Ends col manualActuatorAdd w (ActuatorGoes col w) (· = w.registry)
      [w.registry.update col (.insertActuator (w.text .actuatorManualActuatorAddId)
        (w.text .actuatorManualActuatorAddAddress))]
      (w.registry.update col (.insertActuator (w.text .actuatorManualActuatorAddId)
        (w.text .actuatorManualActuatorAddAddress))) := by
  simp only [Ends, manualActuatorAdd, wp_bind]
  refine wp_unfailing (offline_getText _) ?_
  rw [wp_getText, wp_ite]
  refine ⟨fun hempty => ?_, fun hid => ?_⟩
  · simp only [wp_bind, wp_appendToOutput_failing, wp_pure]
    exact .idle (fun h => by simp [h.id] at hempty) rfl
  rw [wp_bind]
  refine wp_unfailing (offline_getText _) ?_
  rw [wp_getText, wp_ite]
  refine ⟨fun hempty => ?_, fun htyped => ?_⟩
  · simp only [wp_bind, wp_appendToOutput_failing, wp_pure]
    exact .idle (fun h => by simp [h.typed] at hempty) rfl
  rw [wp_bind]
  refine wp_unfailing (offline_getText _) ?_
  rw [wp_getText, wp_ite]
  refine ⟨fun hinvalid => ?_, fun hvalid => ?_⟩
  · simp only [wp_bind, wp_appendToOutput_failing, wp_pure]
    exact .idle (fun h => by simp [h.address] at hinvalid) rfl
  simp only [wp_bind]
  refine wp_openStatement_failing (fun c q hurl => ?_) fun q q' e he _ =>
    .stopped_one rfl (by rw [he]; rfl)
  have hdb : w.database = w.servers c.url := World.database_of_url hurl
  simp only [wp_bind]
  refine wp_unfailing (offline_getText _) ?_
  rw [wp_getText]
  refine wp_executeQuery_failing ?_ fun q e he _ =>
    .stopped_one rfl (by rw [he]; rfl)
  simp only [wp_bind]
  refine wp_readRows_failing ?_ fun q e he _ =>
    .stopped_one rfl (by rw [he]; rfl)
  simp only
  rw [wp_ite]
  refine ⟨fun hsome => ?_, fun hnone => ?_⟩
  · simp only [wp_bind, wp_appendToOutput_failing, wp_pure]
    refine .idle (fun h => ?_) rfl
    have hnew := h.new
    rw [hdb] at hnew
    simp [hnew] at hsome
  have hgoes : ActuatorGoes col w := ⟨by simpa using hid, by simpa using htyped,
    by simpa using hvalid, by simp [show _ = some c.url from hurl], by rw [hdb]; simpa using hnone⟩
  simp only [insertTypedActuator, wp_bind, wp_appendToOutput_failing]
  refine wp_createStatement_failing ?_ fun e he _ => ?_
  · simp only [Bool.not_true, Bool.false_eq_true, if_false, wp_bind]
    refine wp_unfailing (offline_getText _) ?_
    rw [wp_getText]
    refine wp_unfailing (offline_getText _) ?_
    rw [wp_getText]
    refine wp_executeUpdate_failing ?_ fun q e he _ =>
      .stopped_one rfl (by rw [he]; rfl)
    simp only [Bool.not_true, Bool.false_eq_true, if_false]
    refine wp_done ?_ hgoes (registry_update (by exact hurl) _) (List.mem_singleton_self _)
      (by simp)
    refine .bind ((redraws_appendToOutput _).uses keepsRegistry_of_redraws) fun _ => ?_
    refine .bind ((redraws_closeConnection _).uses keepsRegistry_of_redraws) fun _ => ?_
    refine ⟨trivial, fun _ => ⟨trivial, fun _ => ?_⟩⟩
    exact tame_updateActuatorsSelects.uses keepsRegistry_of_redraws
  · simp only [Bool.not_false, if_true, wp_bind, wp_appendToOutput_failing, wp_pure]
    exact .stopped_one rfl (by rw [he]; rfl)

end Adding

end CrossingReality
