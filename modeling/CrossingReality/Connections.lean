import CrossingReality.Borrowers
import CrossingReality.Ownership

/-!
# Connections

An operation gives back what it has opened if no statement throws in it and its plan, with the
answers its attempts to connect got, keeps nothing. Otherwise at least one connection is left open,
and nothing that runs later closes it.

* `Method.plan` — the plan of every method.
* `session_givesBack_iff` — which operations of a run give back what they opened.
-/

namespace CrossingReality

open Effects

/-! ## Methods -/

/-- What runs: an action of a reader or the operator, or one method by itself. -/
inductive Method where
  | act (a : Action)
  | register (o : Operation)
  | HTTPPOSTForward (id type : String) (value : Int32) (address : String)
  | updateNodeSelect (b : ComboBox)
  | updateSensorsSelect (id : Option String)
  | updateActuatorsSelect (b : ComboBox)
  | itemStateChanged (b : ComboBox)
  | handle (ex : HttpExchange)

section Methods

variable [Jdk]

/-- The program of a method. -/
def Method.program : Method → Panel Unit
  | .act a => a.program
  | .register o => o.program
  | .HTTPPOSTForward id type value address => do
    let _ ← CrossingReality.HTTPPOSTForward id type value address
  | .updateNodeSelect b => CrossingReality.updateNodeSelect b
  | .updateSensorsSelect id => CrossingReality.updateSensorsSelect id
  | .updateActuatorsSelect b => CrossingReality.updateActuatorsSelect b
  | .itemStateChanged b => CrossingReality.itemStateChanged b
  | .handle ex => CrossingReality.handle ex

variable (col : Collation) (w : World)

/-- The plan of a press. *Update* for the MySQL details connects to the database typed in. -/
def Button.plan : Button → Plan Selection
  | .wsnGeneralUpdateNodeAddressButton =>
    if parsesURL (some (w.text .wsnGeneralNodeAddressField)) then closedPlan w.selection
    else .done w.selection
  | .wsnGeneralUpdateMysqlAddressButton =>
    nodesPlan col (w.servers ("jdbc:mysql://" ++ w.text .wsnGeneralMysqlAddressField)) w.selection
  | .wsnGeneralSaveMysqlDetailsButton => .done w.selection
  | .wsnGeneralManualNodeAddButton => manualNodeAddPlan col w
  | .wsnGeneralRemoveNodeButton => leftPlan w.selection
  | .wsnSensorsManualAddSensorButton => manualSensorAddPlan col w
  | .wsnSensorsRemoveSensorButton => leftPlan w.selection
  | .wsnSensorsCalibrateResetButton => closedPlan w.selection
  | .wsnGeneralRefreshNodeAddressButton =>
    lookUpPlan col w.database (.node (spell (w.selection .wsnGeneralNodeComboBox))) w.selection
  | .actuatorManualActuatorAddButton => manualActuatorAddPlan col w
  | .actuatorUpdateActuatorAddressButton =>
    if parsesURL (some (w.text .actuatorAddressField)) then closedPlan w.selection
    else .done w.selection
  | .actuatorRefreshActuatorAddressButton =>
    lookUpPlan col w.database (.actuator (spell (w.selection .actuatorActuatorComboBox)))
      w.selection
  | .actuatorRemoveActuatorButton => leftPlan w.selection

/-- A listener run a number of times. -/
def firePlan {α : Type} (listener : α → Plan α) : Nat → α → Plan α
  | 0, s => .done s
  | n + 1, s => (listener s).bind (firePlan listener n)

/-- The plan of an action. -/
def Action.plan : Action → Plan Selection
  | .reading id _ _ => sensedPlan col w id
  | .press b => b.plan col w
  | .tick _ _ | .typeText _ _ => .done w.selection
  | .select b s =>
    firePlan (itemPlan col w.database b)
      (Combo.itemEvents (w.combo b).selected ((w.combo b).setSelectedItem s).selected)
      (Function.update w.selection b ((w.combo b).setSelectedItem s).selected)

/-- The plan of adding or removing by hand. -/
def Operation.plan : Operation → Plan Selection
  | .manualNodeAdd => manualNodeAddPlan col w
  | .manualSensorAdd => manualSensorAddPlan col w
  | .manualActuatorAdd => manualActuatorAddPlan col w
  | .removeNode _ | .removeSensor _ _ | .removeActuator _ => leftPlan w.selection

/-- The plan of a method. -/
def Method.plan : Method → Plan Selection
  | .act a => a.plan col w
  | .register o => o.plan col w
  | .HTTPPOSTForward _ _ _ _ => closedPlan w.selection
  | .updateNodeSelect b => refillNodes col w.database b w.selection
  | .updateSensorsSelect id => refillSensors col w.database id w.selection
  | .updateActuatorsSelect b => refillActuators col w.database b w.selection
  | .itemStateChanged b => itemPlan col w.database b w.selection
  | .handle ex =>
    match askedFor ex with
    | some id => lookUpPlan col w.database (.actuator id) w.selection
    | none => .done w.selection

end Methods

/-! ## Every method is tidy and follows its plan -/

section Plans

variable {col : Collation} {w : World} {base : List Nat}

theorem offline_takeMysqlFields :
    takeMysqlFields.Uses (fun c : Call => ¬ c.isJdbc) fun _ => True :=
  ⟨id, fun _ => ⟨id, fun _ => ⟨id, fun _ => ⟨id, fun _ => ⟨id, fun _ => ⟨id, fun _ => trivial⟩⟩⟩⟩⟩⟩

theorem offline_saveMysqlDetails :
    saveMysqlDetails.Uses (fun c : Call => ¬ c.isJdbc) fun _ => True := by
  refine ⟨id, fun _ => ⟨id, fun _ => ⟨id, fun _ => ⟨id, fun ok => ?_⟩⟩⟩⟩
  exact Program.uses_ite _ ⟨id, fun _ => trivial⟩ ⟨id, fun _ => trivial⟩

/-- The database of the typed address is the one connected to. -/
theorem leases_takeMysqlFields (hh : w.openHandles = base) :
    Leases col base takeMysqlFields w (.done w.selection) fun _ s w' => s = w.selection ∧
      w'.selection = s ∧ w'.database =
        w.servers ("jdbc:mysql://" ++ w.text .wsnGeneralMysqlAddressField) := by
  intro t
  refine wp_lending_offline offline_takeMysqlFields ?_
  have hset : ∀ d s {R : Unit → World → Prop} {E : Exn → World → Prop} {w' : World},
      wp (α := Unit) (under col connecting) (call (.setMysql d s)) R E w' ↔
        R () (w'.setMysql d s) :=
    fun d s {R E w'} => wp_call_steady (c := .setMysql d s) fun _ => rfl
  simp only [takeMysqlFields, wp_bind, wp_getText, hset]
  refine ⟨[], by simp, .inl ⟨hh, _, .refl _, w.selection, rfl, rfl, rfl, ?_⟩⟩
  exact World.database_of_url (by simp [World.setMysql, Function.update])

theorem leases_fire {listener : Panel Unit} (plan : Selection → Plan Selection)
    (htl : Tidy listener) (hrl : Redraws (fun _ => True) listener) (n : Nat) (hw : w.Issued)
    (hh : w.openHandles = base) (hl : ∀ w', w'.Issued → w'.openHandles = base →
      w'.database = w.database → Leases col base listener w' (plan w'.selection) EndsShowing) :
    Leases col base (fire listener n) w (firePlan plan n w.selection) EndsShowing := by
  induction n generalizing w with
  | zero => exact .pure hh rfl
  | succ n ih =>
    refine .bind_redraws hh hw htl (tidy_fire htl n) hrl (hl w hw hh rfl)
      fun w' hw' hh' hd' => ?_
    exact ih hw' hh' fun w₂ hw₂ hh₂ hd₂ => hl w₂ hw₂ hh₂ (hd₂.trans hd')

variable [Jdk]

theorem tidy_press (b : Button) : Tidy (actionPerformed b) := by
  cases b with
  | wsnGeneralUpdateNodeAddressButton => exact tidy_updateNodeAddress
  | wsnGeneralUpdateMysqlAddressButton =>
    exact (tidy_offline offline_takeMysqlFields).bind fun _ => tidy_updateNodeSelects
  | wsnGeneralSaveMysqlDetailsButton =>
    exact tidy_offline (offline_takeMysqlFields.bind fun _ => offline_saveMysqlDetails)
  | wsnGeneralManualNodeAddButton => exact tidy_manualNodeAdd
  | wsnGeneralRemoveNodeButton => exact (tidy_getSelectedItem _).bind fun id => tidy_removeNode id
  | wsnSensorsManualAddSensorButton => exact tidy_manualSensorAdd
  | wsnSensorsRemoveSensorButton =>
    exact (tidy_getSelectedItem _).bind fun id => (tidy_getSelectedItem _).bind fun type =>
      tidy_removeSensor id type
  | wsnSensorsCalibrateResetButton => exact tidy_calibrateReset
  | wsnGeneralRefreshNodeAddressButton => exact tidy_refreshNodeAddress
  | actuatorManualActuatorAddButton => exact tidy_manualActuatorAdd
  | actuatorUpdateActuatorAddressButton => exact tidy_updateActuatorAddress
  | actuatorRefreshActuatorAddressButton => exact tidy_refreshActuatorAddress
  | actuatorRemoveActuatorButton =>
    exact (tidy_getSelectedItem _).bind fun id => tidy_removeActuator id

theorem tidy_act (a : Action) : Tidy a.program := by
  cases a with
  | reading id type value => exact (tidy_sensed id type value).bind fun _ => tidy_pure _
  | press b => exact tidy_press b
  | tick b v => exact tidy_setSelected b v
  | typeText f s => exact tidy_ite _ (tidy_pure _) (tidy_setText f s)
  | select b s =>
    exact (tidy_call (c := .setSelectedItem b s) id).bind fun n =>
      tidy_fire (tidy_itemStateChanged b) n

theorem tidy_register (o : Operation) : Tidy o.program := by
  cases o with
  | manualNodeAdd => exact tidy_manualNodeAdd
  | manualSensorAdd => exact tidy_manualSensorAdd
  | manualActuatorAdd => exact tidy_manualActuatorAdd
  | removeNode id => exact tidy_removeNode id
  | removeSensor id type => exact tidy_removeSensor id type
  | removeActuator id => exact tidy_removeActuator id

theorem tidy_method (m : Method) : Tidy m.program := by
  cases m with
  | act a => exact tidy_act a
  | register o => exact tidy_register o
  | HTTPPOSTForward id type value address =>
    exact (tidy_HTTPPOSTForward id type value address).bind fun _ => tidy_pure _
  | updateNodeSelect b => exact tidy_updateSelect _ _ _ _ _
  | updateSensorsSelect id => exact tidy_updateSensorsSelect id
  | updateActuatorsSelect b => exact tidy_updateSelect _ _ _ _ _
  | itemStateChanged b => exact tidy_itemStateChanged b
  | handle ex => exact tidy_handle ex

theorem leases_press (b : Button) (hw : w.Issued) (hh : w.openHandles = base) :
    Leases col base (actionPerformed b) w (b.plan col w) Anyhow := by
  cases b with
  | wsnGeneralUpdateNodeAddressButton => exact leases_updateNodeAddress _ hh
  | wsnGeneralUpdateMysqlAddressButton =>
    refine .bind (P := .done w.selection) (Q := nodesPlan col _) hh hw
      (tidy_offline offline_takeMysqlFields) (fun _ => tidy_updateNodeSelects)
      (leases_takeMysqlFields hh) ?_
    rintro - _ w' ⟨rfl, hs, hd⟩ hh' hw' -
    have hrefills : Leases col base updateNodeSelects w' (nodesPlan col w'.database w'.selection)
        EndsShowing := leases_updateNodeSelects hw' hh'
    rw [hs, hd] at hrefills
    exact hrefills.anyhow
  | wsnGeneralSaveMysqlDetailsButton =>
    exact leases_offline _ hh (offline_takeMysqlFields.bind fun _ => offline_saveMysqlDetails)
  | wsnGeneralManualNodeAddButton => exact leases_manualNodeAdd hw hh
  | wsnGeneralRemoveNodeButton => exact .getSelectedItem (leases_removeNode _ _ hw hh)
  | wsnSensorsManualAddSensorButton => exact leases_manualSensorAdd hw hh
  | wsnSensorsRemoveSensorButton =>
    exact .getSelectedItem (.getSelectedItem (leases_removeSensor _ _ _ hw hh))
  | wsnSensorsCalibrateResetButton => exact leases_calibrateReset _ hh
  | wsnGeneralRefreshNodeAddressButton => exact leases_refreshNodeAddress _ hh
  | actuatorManualActuatorAddButton => exact leases_manualActuatorAdd hw hh
  | actuatorUpdateActuatorAddressButton => exact leases_updateActuatorAddress _ hh
  | actuatorRefreshActuatorAddressButton => exact leases_refreshActuatorAddress _ hh
  | actuatorRemoveActuatorButton => exact .getSelectedItem (leases_removeActuator _ _ hw hh)

theorem leases_act (a : Action) (hw : w.Issued) (hh : w.openHandles = base) :
    Leases col base a.program w (a.plan col w) Anyhow := by
  cases a with
  | reading id type value =>
    exact .bind_offline hh hw (tidy_sensed id type value) (leases_sensed id type value hw hh)
      fun _ => trivial
  | press b => exact leases_press b hw hh
  | tick b v => exact leases_offline (R := fun _ => True) _ hh ⟨id, fun _ => trivial⟩
  | typeText f s =>
    exact leases_offline (R := fun _ => True) _ hh
      (Program.uses_ite _ trivial ⟨id, fun _ => trivial⟩)
  | select b s =>
    intro t
    have hselection := selection_setCombo w b ((w.combo b).setSelectedItem s)
    have hfire := leases_fire (w := w.setCombo b ((w.combo b).setSelectedItem s))
      (itemPlan col w.database b) (tidy_itemStateChanged b)
      (redraws_itemStateChanged b fun _ => trivial)
      (Combo.itemEvents (w.combo b).selected ((w.combo b).setSelectedItem s).selected) hw hh
      fun w' hw' hh' hd' => hd' ▸ leases_itemStateChanged b hw' hh'
    rw [hselection] at hfire
    rw [Action.program, selectItem, wp_bind,
      wp_lending_steady (c := .setSelectedItem b s) (fun _ => rfl) fun h => h]
    exact hfire.anyhow t

theorem leases_register (o : Operation) (hw : w.Issued) (hh : w.openHandles = base) :
    Leases col base o.program w (o.plan col w) Anyhow := by
  cases o with
  | manualNodeAdd => exact leases_manualNodeAdd hw hh
  | manualSensorAdd => exact leases_manualSensorAdd hw hh
  | manualActuatorAdd => exact leases_manualActuatorAdd hw hh
  | removeNode id => exact leases_removeNode id _ hw hh
  | removeSensor id type => exact leases_removeSensor id type _ hw hh
  | removeActuator id => exact leases_removeActuator id _ hw hh

theorem leases_method (m : Method) (hw : w.Issued) (hh : w.openHandles = base) :
    Leases col base m.program w (m.plan col w) Anyhow := by
  cases m with
  | act a => exact leases_act a hw hh
  | register o => exact leases_register o hw hh
  | HTTPPOSTForward id type value address =>
    exact .bind_offline hh hw (tidy_HTTPPOSTForward id type value address)
      (leases_HTTPPOSTForward id type value address _ hw hh) fun _ => trivial
  | updateNodeSelect b => exact (leases_updateNodeSelect b hw hh).anyhow
  | updateSensorsSelect id => exact (leases_updateSensorsSelect id hw hh).anyhow
  | updateActuatorsSelect b => exact (leases_updateActuatorsSelect b hw hh).anyhow
  | itemStateChanged b => exact (leases_itemStateChanged b hw hh).anyhow
  | handle ex => exact leases_handle ex _ hh

end Plans

/-! ## What a run leaves open -/

/-- One method that has run to its end. -/
abbrev MethodTurn := Turn calls World Exn Unit Method

/-- Every connection opened has been closed. -/
def GivesBack (t : MethodTurn) : Prop := t.after.openHandles ⊆ t.before.openHandles

/-- No statement threw, and with the answers to its attempts to connect the method keeps none. -/
def Returned [Jdk] (col : Collation) (t : MethodTurn) : Prop :=
  (∀ e ∈ t.trace, broken e = false) ∧
    (t.action.plan col t.before).keeps (answers t.trace) = false

instance [Jdk] (col : Collation) (t : MethodTurn) : Decidable (Returned col t) :=
  inferInstanceAs (Decidable (_ ∧ _))

section Runs

variable {col : Collation} {w w' : World} {l : List (Event calls World)} {r : Except Exn Unit}

theorem any_broken_noted (l : List (Event calls World)) :
    (l.filter noted).any broken = l.any broken := by
  rw [List.any_filter]
  refine congrArg (l.any ·) (funext fun e => ?_)
  cases h : broken e <;> simp [noted, h]

theorem answers_noted (l : List (Event calls World)) : answers (l.filter noted) = answers l := by
  induction l with
  | nil => rfl
  | cons e l ih =>
    cases h : noted e with
    | true => rw [List.filter_cons_of_pos h, answers, List.filterMap_cons, ← answers, ih]; rfl
    | false =>
      have hanswer : Call.answer e.call e.ret = none := by
        rw [noted, Bool.or_eq_false_iff] at h
        simpa using h.2
      rw [List.filter_cons_of_neg (by simp [h]), ih]
      exact (List.filterMap_cons_none (by exact hanswer)).symm

/-- An execution in which no statement threw is one in which none could. -/
theorem runs_connecting {α : Type} {p : Panel α} {r : Except Exn α}
    (h : Runs (under col anyFault) p w l r w') (hl : ∀ e ∈ l, broken e = false) :
    Runs (under col connecting) p w l r w' := by
  induction h with
  | pure a s => exact .pure a s
  | raise e s => exact .raise e s
  | @call c k s s₁ s' x l r hpost _ ih =>
    obtain ⟨f, -, hstep⟩ := hpost
    refine .call ⟨f, fun hf => ?_, hstep⟩ (ih fun e he => hl e (List.mem_cons_of_mem _ he))
    have hx : (step col c f s).1 = x := congrArg Prod.fst hstep
    have hnot := hl ⟨s, c, x⟩ List.mem_cons_self
    subst hx
    cases c with
    | createStatement | executeQuery | fetch | executeUpdate =>
      simp [broken, Call.broke, step, hf] at hnot
    | _ => trivial

variable [Jdk] {m : Method}

/-- An execution leaves the open connections open. -/
theorem openHandles_of_runs (hw : w.Issued)
    (h : Runs (under col anyFault) m.program w l r w') :
    ∃ kept, w'.openHandles = kept ++ w.openHandles ∧ (∀ n ∈ kept, w.nextHandle ≤ n) ∧ w'.Issued ∧
      (l.any broken = true → kept ≠ []) := by
  have hwp : wp ((under col anyFault).recording noted) m.program
      (fun _ s => (ledgerOf (w, [])).Leaves (ledgerOf s))
      (fun _ s => (ledgerOf (w, [])).Leaves (ledgerOf s)) (w, []) := (tidy_method m).wp hw
  have hleaves := h.of_recording hwp
  have hissued := hleaves.issued hw
  obtain ⟨kept, hkept, hfresh, -, hbroken⟩ := hleaves
  refine ⟨kept, hkept, fun n hn => (hfresh n hn).1, hissued, fun hb => ?_⟩
  refine (hbroken ?_).resolve_left (by simp [ledgerOf])
  exact (any_broken_noted l).trans hb

/-- When no statement throws, the plan says whether connections are left open. -/
theorem openHandles_of_plan (hw : w.Issued) (h : Runs (under col anyFault) m.program w l r w')
    (hl : ∀ e ∈ l, broken e = false) :
    (w'.openHandles = w.openHandles ∧ (m.plan col w).keeps (answers l) = false) ∨
      ((∃ kept, kept ≠ [] ∧ w'.openHandles = kept ++ w.openHandles) ∧
        (m.plan col w).keeps (answers l) = true) := by
  have hfrom : ∀ {Rest : Plan Selection → World → Prop} s,
      Follows (m.plan col w) w.openHandles [] Rest s →
        Follows (m.plan col w) w.openHandles [] (fun _ _ => True) s := by
    rintro Rest s ⟨l, hs, h⟩
    exact ⟨l, hs, h.imp (fun ⟨hh, P', hlead, _⟩ => ⟨hh, P', hlead, trivial⟩) id⟩
  have hleases : Leases col w.openHandles m.program w (m.plan col w) Anyhow :=
    leases_method m hw rfl
  have hwp := (hleases []).mono (fun _ => hfrom) fun _ => hfrom
  obtain ⟨l', hl', h⟩ := (runs_connecting h hl).of_recording hwp
  obtain rfl : l.filter noted = l' := hl'
  rw [answers_noted] at h
  exact h.imp (fun ⟨hh, _, hlead, _⟩ => ⟨hh, hlead.keeps⟩) id

/-- One method gives back what it opened exactly under the condition. -/
theorem givesBack_iff_returned {t : MethodTurn} (hw : t.before.Issued)
    (h : Runs (under col anyFault) t.action.program t.before t.trace t.outcome t.after) :
    GivesBack t ↔ Returned col t := by
  obtain ⟨kept, hkept, hfresh, -, hbroken⟩ := openHandles_of_runs hw h
  have hgives : GivesBack t ↔ kept = [] := by
    constructor
    · intro hsub
      refine List.eq_nil_iff_forall_not_mem.mpr fun n hn => ?_
      have hopen : n ∈ t.before.openHandles := hsub (by rw [hkept]; exact List.mem_append_left _ hn)
      exact absurd (hfresh n hn) (hw n hopen).not_ge
    · rintro rfl
      rw [GivesBack, hkept]
      exact List.Subset.refl _
  rw [hgives]
  cases hany : t.trace.any broken with
  | true =>
    refine ⟨fun hnil => absurd hnil (hbroken hany), fun hreturned => ?_⟩
    obtain ⟨e, he, hb⟩ := List.any_eq_true.mp hany
    rw [hreturned.1 e he] at hb
    cases hb
  | false =>
    have hl : ∀ e ∈ t.trace, broken e = false := by simpa using hany
    rcases openHandles_of_plan hw h hl with ⟨hh, hk⟩ | ⟨⟨kept', hne, hh⟩, hk⟩
    · have hnil : kept = [] := List.append_left_eq_self.mp (hkept.symm.trans hh)
      exact ⟨fun _ => ⟨hl, hk⟩, fun _ => hnil⟩
    · obtain rfl := List.append_cancel_right (hh.symm.trans hkept)
      refine ⟨fun hnil => absurd hnil hne, fun hreturned => ?_⟩
      rw [hreturned.2] at hk
      cases hk

variable {ts : List MethodTurn}

/-- The handles in use stay some that were given out, over any run. -/
theorem session_issued (hw : w.Issued)
    (h : Session (under col anyFault) Method.program w ts w') : w'.Issued :=
  h.invariant (I := fun _ w' => w'.Issued) (C := fun _ => True) (fun _ _ => trivial) hw
    fun _ _ hbefore _ hrun => (openHandles_of_runs hbefore hrun).choose_spec.2.2.1

/-- **Connections given back.** Take any run of methods, whatever fails in it. A method gives back
every connection it opens if and only if no statement throws in it and its plan, with the answers
it got, keeps none. If all of them do, as many connections are open at the end as at the start. -/
theorem session_givesBack_iff (hw : w.Issued)
    (h : Session (under col anyFault) Method.program w ts w') :
    (∀ t ∈ ts, GivesBack t ↔ Returned col t) ∧
      ((∀ t ∈ ts, Returned col t) → w'.openHandles = w.openHandles) := by
  constructor
  · intro t ht
    obtain ⟨ts₁, ts₂, rfl⟩ := List.append_of_mem ht
    obtain ⟨hbefore, hrun⟩ := h.split
    exact givesBack_iff_returned (session_issued hw hbefore) hrun
  · intro hall
    have hinv : w'.Issued ∧ w'.openHandles = w.openHandles := by
      refine h.invariant (I := fun _ w' => w'.Issued ∧ w'.openHandles = w.openHandles)
        (C := Returned col) hall ⟨hw, rfl⟩ ?_
      rintro ts t ⟨hissued, hopen⟩ hreturned hrun
      refine ⟨(openHandles_of_runs hissued hrun).choose_spec.2.2.1, ?_⟩
      rcases openHandles_of_plan hissued hrun hreturned.1 with ⟨hh, -⟩ | ⟨-, hk⟩
      · exact hh.trans hopen
      · rw [hreturned.2] at hk
        cases hk
    exact hinv.2

/-- **Nothing is closed later.** Over any run of methods, whatever fails in it, the connections open
at the start stay open, and each method that does not give back what it opened adds to them. -/
theorem session_openHandles (hw : w.Issued)
    (h : Session (under col anyFault) Method.program w ts w') :
    ∃ kept, w'.openHandles = kept ++ w.openHandles ∧
      (ts.filter fun t => ¬ Returned col t).length ≤ kept.length := by
  have hinv : w'.Issued ∧ ∃ kept, w'.openHandles = kept ++ w.openHandles ∧
      (ts.filter fun t => ¬ Returned col t).length ≤ kept.length := by
    refine h.invariant (I := fun ts w' => w'.Issued ∧ ∃ kept, w'.openHandles =
      kept ++ w.openHandles ∧ (ts.filter fun t => ¬ Returned col t).length ≤ kept.length)
      (C := fun _ => True) (fun _ _ => trivial) ⟨hw, [], rfl, le_rfl⟩ ?_
    rintro ts t ⟨hissued, kept, hopen, hlen⟩ - hrun
    have hiff := givesBack_iff_returned hissued hrun
    obtain ⟨kept', hkept', -, hissued', -⟩ := openHandles_of_runs hissued hrun
    refine ⟨hissued', kept' ++ kept, by rw [hkept', hopen, List.append_assoc], ?_⟩
    rw [List.filter_append, List.length_append, List.length_append]
    have hone : ([t].filter fun t => ¬ Returned col t).length ≤ kept'.length := by
      by_cases hreturned : Returned col t
      · simp [hreturned]
      · -- a turn that does not give back has kept something
        have hne : kept' ≠ [] := by
          rintro rfl
          refine hreturned (hiff.mp ?_)
          rw [GivesBack, hkept']
          exact List.Subset.refl _
        have hpos := List.length_pos_iff.mpr hne
        rw [List.filter_cons_of_pos (by simpa using hreturned)]
        exact hpos
    omega
  exact hinv.2

end Runs

/-! ## A reading leaves a connection open -/

/-- The window over a registry with one sensor. -/
def sensorWorld : World :=
  .running "jdbc:mysql://db" ⟨[⟨"1", some "http://vw"⟩], [⟨"1", "light", none, none⟩], []⟩

/-- The turns of some methods on that window, nothing failing. -/
def sensorTurns (ms : List Method) : List MethodTurn :=
  (machine .exact).turns .fine (@Method.program plainJdk) (ms.map fun m => (m, [])) sensorWorld

theorem session_sensorTurns (ms : List Method) :
    Session (under .exact anyFault) (@Method.program plainJdk) sensorWorld (sensorTurns ms)
      ((machine .exact).endOf .fine (@Method.program plainJdk) (ms.map fun m => (m, []))
        sensorWorld) :=
  Machine.session_turns (fun _ _ _ => by trivial) (fun _ _ _ _ _ _ => by exact fun _ => trivial)
    .nil

/-- A reading of a registered sensor that is forwarded leaves the second of its three connections
open. -/
theorem not_always_givesBack : ¬ ∀ (jdk : Jdk) (col : Collation) (w w' : World)
    (ts : List MethodTurn), w.Issued → Session (under col anyFault) (@Method.program jdk) w ts w' →
    ∀ t ∈ ts, GivesBack t := by
  intro h
  have hopen : ∃ t ∈ sensorTurns [.act (.reading "1" "light" 5)],
      t.before.openHandles = [] ∧ t.after.openHandles = [1] := by decide +kernel
  obtain ⟨t, ht, hbefore, hafter⟩ := hopen
  have hback := h plainJdk .exact sensorWorld _ _ (by simp [World.Issued, sensorWorld,
    World.running, World.launched]) (session_sensorTurns _) t ht
  rw [GivesBack, hbefore, hafter] at hback
  exact absurd (hback List.mem_cons_self) (by simp)

/-- A reset of the bounds and a refill of the actuators leave none. -/
theorem resetAndRefill_givesBack : (sensorTurns [.act (.press .wsnSensorsCalibrateResetButton),
      .updateActuatorsSelect .actuatorActuatorComboBox]).length = 2 ∧
    ((machine .exact).endOf .fine (@Method.program plainJdk) ([.act
      (.press .wsnSensorsCalibrateResetButton), .updateActuatorsSelect
        .actuatorActuatorComboBox].map fun m => (m, [])) sensorWorld).openHandles =
      sensorWorld.openHandles :=
  ⟨rfl, (@session_givesBack_iff .exact _ _ plainJdk _ (by simp [World.Issued, sensorWorld,
    World.running, World.launched]) (session_sensorTurns _)).2 (by decide +kernel)⟩

/-- Three readings leave three connections open. -/
theorem threeReadings_open : ∃ kept, ((machine .exact).endOf .fine (@Method.program plainJdk)
      ((List.replicate 3 (.act (.reading "1" "light" 5))).map fun m => (m, []))
      sensorWorld).openHandles = kept ++ [] ∧ 3 ≤ kept.length := by
  obtain ⟨kept, hkept, hlen⟩ := @session_openHandles .exact _ _ plainJdk _ (by simp [World.Issued,
    sensorWorld, World.running, World.launched])
    (session_sensorTurns (List.replicate 3 (.act (.reading "1" "light" 5))))
  refine ⟨kept, hkept, le_trans ?_ hlen⟩
  decide +kernel

end CrossingReality
