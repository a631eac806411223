import CrossingReality.Recognition
import Mathlib.Data.List.Perm.Basic

/-!
# Readings of different sensors

What a reading leads to is a function of the settings and of what its own queries find
(`Reading.decide`): an outcome, some updates and at most one POST. The updates of a reading leave
alone what the queries of a reading of another sensor find, and the updates of the two commute up
to the order of rows.

**Theorem (`sensed_independent`).** Two readings of different sensors can be processed in either
order.
-/

namespace CrossingReality

open Effects

/-! ## What a reading decides -/

/-- A reading of a sensor. -/
structure Reading where
  id : String
  type : String
  value : Int32

/-- What the queries of a reading find: the rows of its node and the bounds of its sensor. -/
structure Sight where
  nodes : List NodeRow
  bounds : List Bounds

def Reading.sees (r : Reading) (d : Database) : Sight :=
  ⟨(Query.node r.id).run .exact d, (Query.bounds r.id r.type).run .exact d⟩

/-- What stays the same while readings are processed. -/
structure Settings where
  configured : Bool
  checked : CheckBox → Bool
  ignoreNodeList : Option (List (Option String))
  ignoreSensorList : Option (List SensorIgnoreIdTypeObject)

def World.settings (w : World) : Settings :=
  ⟨(w.mysql .mysqlAddress).isSome, w.checked, w.ignoreNodeList, w.ignoreSensorList⟩

/-- What a reading leads to. -/
structure Decision where
  outcome : Except Exn Bool
  updates : List Update
  posts : List Post

/-- A reading that is dropped. -/
def Decision.drop : Decision := ⟨.ok false, [], []⟩

/-- A virtual world whose answers depend only on the payload: which calls on the connection of its
POST go well. -/
abbrev Answers := Payload → HttpCall → Bool

/-- The POST of a payload goes well. -/
def Answers.answered (answers : Answers) (p : Payload) : Bool :=
  postCalls.all fun c => answers p c.1

/-- A reading of a node that is not registered. -/
def Reading.decideNode (r : Reading) (s : Settings) : Decision :=
  if s.checked .wsnGeneralAutoAddCheck then
    match s.ignoreNodeList with
    | none => ⟨.error .nullPointer, [], []⟩
    | some l => ⟨.ok false, if some r.id ∈ l then [] else [.insertNode r.id none], []⟩
  else .drop

/-- The updates of a registered sensor's reading, and the bounds they leave it with. -/
def Reading.learns (r : Reading) (s : Settings) (b : Bounds) : List Update × Bounds :=
  if s.checked .wsnSensorsCalibrateCheck then
    (calibration r.id r.type r.value b, calibrated r.value b)
  else ([], b)

section Deciding

variable [Jdk]

/-- A reading of a sensor that is not registered. -/
def Reading.decideSensor (r : Reading) (s : Settings) : Decision :=
  if s.checked .wsnSensorsAutoAddCheck then
    match s.ignoreSensorList with
    | none => ⟨.error .nullPointer, [], []⟩
    | some l =>
      match containsEntry ⟨some r.id, some r.type⟩ l with
      | .error e => ⟨.error e, [], []⟩
      | .ok ignored => ⟨.ok false, if ignored then [] else [.insertSensor r.id r.type], []⟩
  else .drop

/-- Where a reading is forwarded to, if it is. -/
def Settings.recipient (s : Settings) (rows : List NodeRow) : Option String :=
  if s.checked .wsnGeneralPauseWsnToVwCheck then none else (rows.filterMap parsedAddress).head?

/-- A reading of a registered sensor. -/
def Reading.decideForward (answers : Answers) (r : Reading) (s : Settings) (rows : List NodeRow)
    (b : Bounds) : Decision :=
  let learnt := r.learns s b
  match s.recipient rows with
  | none => ⟨.ok false, learnt.1, []⟩
  | some address =>
    let payload : Payload := ⟨r.id, r.type, scaled r.value learnt.2⟩
    ⟨.ok (answers.answered payload), learnt.1, [⟨address, payload⟩]⟩

/-- What a reading leads to, by what it sees. -/
def Reading.decide (answers : Answers) (r : Reading) (s : Settings) (sight : Sight) : Decision :=
  if s.configured then
    match sight.nodes, sight.bounds with
    | [], _ => r.decideNode s
    | _ :: _, [] => r.decideSensor s
    | row :: rows, b :: _ => r.decideForward answers s (row :: rows) b
  else .drop

end Deciding

/-! ## What a reading changes -/

/-- The key of a row. -/
def SensorRow.key (r : SensorRow) : String × String := (r.id, r.type)

/-- A change of the tables by one reading: new nodes, other bounds, new sensors. -/
structure Change where
  nodes : List NodeRow
  rebound : SensorRow → SensorRow
  sensors : List SensorRow

namespace Change

def apply (c : Change) (d : Database) : Database :=
  ⟨d.nodes ++ c.nodes, d.sensors.map c.rebound ++ c.sensors, d.actuators⟩

/-- Nothing. -/
def none : Change := ⟨[], id, []⟩

/-- First `c`, then `c'`. -/
def andThen (c c' : Change) : Change :=
  ⟨c.nodes ++ c'.nodes, c'.rebound ∘ c.rebound, c.sensors.map c'.rebound ++ c'.sensors⟩

theorem none_apply (d : Database) : none.apply d = d := by
  simp [none, apply]

theorem andThen_apply (c c' : Change) (d : Database) :
    (c.andThen c').apply d = c'.apply (c.apply d) := by
  simp [andThen, apply]

/-- The change is about one sensor and its node. -/
structure Of (c : Change) (r : Reading) : Prop where
  nodes : ∀ n ∈ c.nodes, n.id = r.id
  other : ∀ s : SensorRow, s.key ≠ (r.id, r.type) → c.rebound s = s
  key : ∀ s, (c.rebound s).key = s.key
  sensors : ∀ s ∈ c.sensors, s.key = (r.id, r.type)

variable {c c' : Change} {r r' : Reading} {d : Database}

theorem Of.none (r : Reading) : none.Of r := ⟨nofun, fun _ _ => rfl, fun _ => rfl, nofun⟩

theorem Of.andThen (h : c.Of r) (h' : c'.Of r) : (c.andThen c').Of r where
  nodes n hn := by
    rcases List.mem_append.mp hn with hn | hn
    · exact h.nodes n hn
    · exact h'.nodes n hn
  other s hs := by
    show c'.rebound (c.rebound s) = s
    rw [h.other s hs, h'.other s hs]
  key s := (h'.key _).trans (h.key s)
  sensors s hs := by
    rcases List.mem_append.mp hs with hs | hs
    · obtain ⟨s₀, hs₀, rfl⟩ := List.mem_map.mp hs
      exact (h'.key s₀).trans (h.sensors s₀ hs₀)
    · exact h'.sensors s hs

/-- Changes about two sensors rebound a row in either order. -/
theorem Of.rebound_comm (h : c.Of r) (h' : c'.Of r') (hne : (r.id, r.type) ≠ (r'.id, r'.type))
    (s : SensorRow) : c'.rebound (c.rebound s) = c.rebound (c'.rebound s) := by
  by_cases hs : s.key = (r.id, r.type)
  · rw [h'.other s (hs ▸ hne), h'.other (c.rebound s) ((h.key s).trans hs ▸ hne)]
  · rw [h.other s hs, h.other (c'.rebound s) ((h'.key s).trans_ne hs)]

theorem Of.map_rebound_sensors (h : c.Of r) (h' : c'.Of r')
    (hne : (r.id, r.type) ≠ (r'.id, r'.type)) : c.sensors.map c'.rebound = c.sensors := by
  rw [List.map_congr_left fun s hs => h'.other s (h.sensors s hs ▸ hne), List.map_id']

/-- Changes about two sensors commute, up to the order of rows. -/
theorem Of.comm (h : c.Of r) (h' : c'.Of r') (hne : (r.id, r.type) ≠ (r'.id, r'.type)) :
    (c'.apply (c.apply d)).nodes.Perm (c.apply (c'.apply d)).nodes ∧
      (c'.apply (c.apply d)).sensors.Perm (c.apply (c'.apply d)).sensors := by
  have hrebound : c'.rebound ∘ c.rebound = c.rebound ∘ c'.rebound :=
    funext fun s => h.rebound_comm h' hne s
  simp only [apply, List.map_append, List.map_map, List.append_assoc]
  constructor
  · exact List.perm_append_comm.append_left _
  · rw [h.map_rebound_sensors h' hne, h'.map_rebound_sensors h hne.symm, hrebound]
    exact List.perm_append_comm.append_left _

/-- The rows of other sensors are found as they were. -/
theorem Of.filter_rebound (h : c.Of r) {p : SensorRow → Bool}
    (hkey : ∀ s s', s.key = s'.key → p s = p s')
    (hother : ∀ s, p s = true → s.key ≠ (r.id, r.type)) (ss : List SensorRow) :
    (ss.map c.rebound).filter p = ss.filter p := by
  have hsame : p ∘ c.rebound = p := funext fun s => hkey _ _ (h.key s)
  rw [List.filter_map, hsame, List.map_congr_left fun s hs =>
    h.other s (hother s (List.mem_filter.mp hs).2), List.map_id']

/-- A change leaves alone what the queries of a reading of another sensor find. -/
theorem Of.sees (h : c.Of r) (hne : (r.id, r.type) ≠ (r'.id, r'.type))
    (hnodes : r.id = r'.id → c.nodes = []) : r'.sees (c.apply d) = r'.sees d := by
  have hnew : c.nodes.filter (fun n => n.id == r'.id) = [] := by
    refine List.filter_eq_nil_iff.mpr fun n hn => ?_
    by_cases hid : r.id = r'.id
    · simp [hnodes hid] at hn
    · simpa [h.nodes n hn] using hid
  have hkey : ∀ s : SensorRow, (s.id == r'.id && s.type == r'.type) = true →
      s.key = (r'.id, r'.type) := by simp [SensorRow.key]
  have hadded : c.sensors.filter (fun s => s.id == r'.id && s.type == r'.type) = [] :=
    List.filter_eq_nil_iff.mpr fun s hs hp => hne ((h.sensors s hs).symm.trans (hkey s hp))
  have hold := h.filter_rebound (p := fun s => s.id == r'.id && s.type == r'.type)
    (fun s s' hs => by simp_all [SensorRow.key]) (fun s hp => (hkey s hp).trans_ne hne.symm)
    d.sensors
  simp only [Reading.sees, Query.run, apply, Collation.exact_same, List.filter_append, hnew,
    hadded, hold, List.append_nil]

end Change

/-- The updates amount to a change about the reading's sensor. -/
structure Amounts (us : List Update) (r : Reading) (c : Change) : Prop where
  foldl : ∀ d, us.foldl (Database.apply .exact) d = c.apply d
  of : c.Of r

namespace Amounts

variable {us us' : List Update} {r : Reading} {c c' : Change}

theorem nil (r : Reading) : Amounts [] r .none := ⟨fun d => (Change.none_apply d).symm, .none r⟩

theorem append (h : Amounts us r c) (h' : Amounts us' r c') :
    Amounts (us ++ us') r (c.andThen c') :=
  ⟨fun d => by rw [List.foldl_append, h.foldl, h'.foldl, Change.andThen_apply], h.of.andThen h'.of⟩

theorem insertNode (r : Reading) (address : Option String) :
    Amounts [.insertNode r.id address] r ⟨[⟨r.id, address⟩], id, []⟩ where
  foldl d := by simp [Database.apply, Change.apply]
  of := ⟨by simp, fun _ _ => rfl, fun _ => rfl, nofun⟩

theorem insertSensor (r : Reading) :
    Amounts [.insertSensor r.id r.type] r ⟨[], id, [⟨r.id, r.type, none, none⟩]⟩ where
  foldl d := by simp [Database.apply, Change.apply]
  of := ⟨nofun, fun _ _ => rfl, fun _ => rfl, by simp [SensorRow.key]⟩

/-- An update of the bounds. -/
theorem mapBounds {u : Update} {f : Bounds → Bounds}
    (hu : ∀ d : Database, d.apply .exact u = d.mapBounds .exact r.id r.type f) :
    Amounts [u] r ⟨[], fun s => if s.key = (r.id, r.type) then s.withBounds (f s.bounds) else s,
      []⟩ where
  foldl d := by
    simp [hu, Change.apply, Database.mapBounds, Database.mapSensors, SensorRow.key]
  of := by
    refine ⟨by simp, fun s hs => if_neg hs, fun s => ?_, by simp⟩
    dsimp only
    split <;> rfl

theorem calibration (r : Reading) (b : Bounds) :
    ∃ c, Amounts (calibration r.id r.type r.value b) r c ∧ c.nodes = [] := by
  obtain ⟨max, min⟩ := b
  have hmin := mapBounds fun d => @Database.apply_setMin .exact d r.id r.type r.value
  have hmax := mapBounds fun d => @Database.apply_setMax .exact d r.id r.type r.value
  have hboth := mapBounds fun d => @Database.apply_setBounds .exact d r.id r.type r.value
  cases min with
  | none =>
    cases max with
    | none => exact ⟨_, hboth, rfl⟩
    | some max => exact ⟨_, nil r, rfl⟩
  | some min =>
    cases max with
    | none => exact ⟨_, nil r, rfl⟩
    | some max =>
      simp only [CrossingReality.calibration]
      split <;> split
      · exact ⟨_, hmin.append hmax, rfl⟩
      · exact ⟨_, hmin.append (nil r), rfl⟩
      · exact ⟨_, (nil r).append hmax, rfl⟩
      · exact ⟨_, (nil r).append (nil r), rfl⟩

end Amounts

section Sensing

variable [Jdk] {answers : Answers} {r r₁ r₂ : Reading} {w w' : World} {d : Database}

/-- What a reading changes; its node is added only if no row of it was found. -/
theorem amounts_decide (answers : Answers) (r : Reading) (s : Settings) (sight : Sight) :
    ∃ c, Amounts (r.decide answers s sight).updates r c ∧ (sight.nodes ≠ [] → c.nodes = []) := by
  have hdrop : ∃ c, Amounts [] r c ∧ (sight.nodes ≠ [] → c.nodes = []) :=
    ⟨_, .nil r, fun _ => rfl⟩
  unfold Reading.decide
  split
  · split
    · unfold Reading.decideNode
      split
      · cases s.ignoreNodeList with
        | none => exact hdrop
        | some l =>
          simp only
          split
          · exact hdrop
          · rename_i hnodes _ _
            exact ⟨_, .insertNode r none, fun h => absurd hnodes h⟩
      · exact hdrop
    · unfold Reading.decideSensor
      split
      · cases s.ignoreSensorList with
        | none => exact hdrop
        | some l =>
          simp only
          cases containsEntry ⟨some r.id, some r.type⟩ l with
          | error e => exact hdrop
          | ok ignored =>
            cases ignored with
            | true => exact hdrop
            | false => exact ⟨_, .insertSensor r, fun _ => rfl⟩
      · exact hdrop
    · rename_i row rows b bs hnodes hbounds
      have hlearns : ∃ c, Amounts (r.learns s b).1 r c ∧ (sight.nodes ≠ [] → c.nodes = []) := by
        unfold Reading.learns
        split
        · obtain ⟨c, hc, hnone⟩ := Amounts.calibration r b
          exact ⟨c, hc, fun _ => hnone⟩
        · exact hdrop
      unfold Reading.decideForward
      split <;> exact hlearns
  · exact hdrop

/-! ## Two decisions -/

/-- The readings are of different sensors; where the node is the same, it is registered. -/
def Different (d : Database) (r₁ r₂ : Reading) : Prop :=
  r₁.id ≠ r₂.id ∨ r₁.id = r₂.id ∧ r₁.id ∈ d.nodeIds ∧ r₁.type ≠ r₂.type

omit [Jdk] in
theorem Different.symm (h : Different d r₁ r₂) : Different d r₂ r₁ :=
  h.imp Ne.symm fun ⟨hid, hnode, htype⟩ => ⟨hid.symm, hid ▸ hnode, htype.symm⟩

omit [Jdk] in
theorem Different.key_ne (h : Different d r₁ r₂) : (r₁.id, r₁.type) ≠ (r₂.id, r₂.type) := by
  rintro heq
  obtain ⟨hid, htype⟩ := Prod.mk.inj heq
  rcases h with h | ⟨-, -, h⟩
  · exact h hid
  · exact h htype

/-- What a reading makes of the tables. -/
def Reading.leaves (answers : Answers) (r : Reading) (s : Settings) (d : Database) : Database :=
  (r.decide answers s (r.sees d)).updates.foldl (Database.apply .exact) d

/-- What a reading changes in a database is a change that a reading of another sensor does not
see. -/
theorem exists_change (answers : Answers) (s : Settings) (h : Different d r₁ r₂) :
    ∃ c, Amounts (r₁.decide answers s (r₁.sees d)).updates r₁ c ∧
      r₂.sees (c.apply d) = r₂.sees d := by
  obtain ⟨c, hc, hnodes⟩ := amounts_decide answers r₁ s (r₁.sees d)
  refine ⟨c, hc, hc.of.sees h.key_ne fun hid => hnodes fun hnone => ?_⟩
  rcases h with h | ⟨-, hnode, -⟩
  · exact h hid
  · exact (Database.run_node_eq_nil.mp hnone) (Database.hasNode_exact.mpr hnode)

theorem sees_leaves (answers : Answers) (s : Settings) (h : Different d r₁ r₂) :
    r₂.sees (r₁.leaves answers s d) = r₂.sees d := by
  obtain ⟨c, hc, hsees⟩ := exists_change answers s h
  rw [Reading.leaves, hc.foldl, hsees]

/-- **Two orders.** The tables after two readings of different sensors. -/
theorem leaves_comm (answers : Answers) (s : Settings) (h : Different d r₁ r₂) :
    (r₂.leaves answers s (r₁.leaves answers s d)).nodes.Perm
        (r₁.leaves answers s (r₂.leaves answers s d)).nodes ∧
      (r₂.leaves answers s (r₁.leaves answers s d)).sensors.Perm
        (r₁.leaves answers s (r₂.leaves answers s d)).sensors := by
  obtain ⟨c₁, hc₁, -⟩ := exists_change answers s h
  obtain ⟨c₂, hc₂, -⟩ := exists_change answers s h.symm
  have h₁ := sees_leaves answers s h
  have h₂ := sees_leaves answers s h.symm
  unfold Reading.leaves at h₁ h₂ ⊢
  rw [h₁, h₂, hc₁.foldl, hc₂.foldl, hc₁.foldl, hc₂.foldl]
  exact hc₁.of.comm hc₂.of h.key_ne

/-! ## `sensed` decides so -/

/-- No database call fails, and the virtual world answers by the payload. -/
def answering (answers : Answers) : Contract calls World :=
  (machine .exact).contract fun c f _ => f.fails =
    match c with
    | .http h p => !answers p.payload h
    | _ => false

variable {E : Exn → World → Prop}

omit [Jdk] in
theorem wp_answering {α : Type} {p : Panel α} {Q : α → World → Prop}
    (h : wp (under .exact httpFault) p Q E w) : wp (answering answers) p Q E w := by
  refine Machine.contract_mono (fun c f _ hf hfails => ?_) h
  cases c <;> first | exact not_false | exact absurd (hf.symm.trans hfails) Bool.false_ne_true

omit [Jdk] in
/-- A POST goes through if all its calls do. -/
theorem wp_sendPost_answered {p : Post} {Q : Bool → World → Prop}
    (h : ∀ q, Q (answers.answered p.payload)
      ((w.posting p (answers.answered p.payload)).quietly q)) :
    wp (answering answers) (sendPost p postCalls) Q E w := by
  have hok : ∀ (cs : List (HttpCall × Message)) (w' : World),
      wp (answering answers) (sendPost p cs) (fun ok _ => ok = cs.all fun c =>
        answers p.payload c.1) (fun _ _ => False) w' := by
    intro cs
    induction cs with
    | nil => exact fun _ => rfl
    | cons c cs ih =>
      intro w'
      obtain ⟨c, m⟩ := c
      rw [sendPost, wp_bind]
      refine (Machine.wp_lift_contract (S := calls) (.http c p)).mpr fun f hf => ?_
      have hret : (step .exact (.http c p) f w').1 = answers p.payload c := by
        cases c <;> simpa [step] using congrArg (!·) hf
      rw [show ((machine .exact).step (.http c p) f w').1 = _ from hret]
      cases hc : answers p.payload c with
      | false =>
        refine (wp_bind _ _).mpr (wp_answering ((wp_appendToOutput m).mpr ?_))
        simp [hc]
      | true => simpa [hc] using ih _
  have hboth := (hok postCalls w).and (wp_answering (wp_sendPost (w := w) (p := p)
    (E := fun _ _ => False) (Q := fun ok w' => ∃ q, w' = (w.posting p ok).quietly q)
    fun ok q => ⟨q, rfl⟩))
  refine hboth.mono ?_ fun _ _ h => h.1.elim
  rintro ok _ ⟨rfl, q, rfl⟩
  exact h q

/-- From `w` to `w'`, a decision was carried out. -/
structure Carried (w : World) (decision : Decision) (o : Except Exn Bool) (w' : World) :
    Prop where
  settings : w'.settings = w.settings
  outcome : o = decision.outcome
  database : w'.database = decision.updates.foldl (Database.apply .exact) w.database
  posts : w'.posts = w.posts ++ decision.posts

theorem wp_HTTPPOSTForward_answered {id type address : String} {value : Int32} {b : Bounds}
    {p : Payload} {Q : Bool → World → Prop} (hw : (w.mysql .mysqlAddress).isSome)
    (hb : ((Query.bounds id type).run .exact w.database).head? = some b)
    (hp : p = ⟨id, type, scaled value b⟩)
    (h : ∀ q, Q (answers.answered p) ((w.posting ⟨address, p⟩ (answers.answered p)).quietly q)) :
    wp (answering answers) (HTTPPOSTForward id type value address) Q E w := by
  subst hp
  have ht : ¬ Trouble httpFault w := by
    obtain ⟨url, hurl⟩ := Option.isSome_iff_exists.mp hw
    exact not_trouble hurl
  rw [HTTPPOSTForward, wp_bind]
  refine wp_answering (wp_readBounds (fun q₁ => ?_) fun h => absurd h ht)
  simp only [hb, wp_bind]
  refine wp_answering (wp_scaleValue_under fun q₂ => ?_)
  refine wp_sendPost_answered fun q₃ => ?_
  cases hok : answers.answered ⟨id, type, scaled value b⟩ with
  | false => simpa [hok] using h q₃
  | true =>
    simp only [Bool.not_true, Bool.false_eq_true, if_false, wp_bind]
    refine wp_answering ((wp_appendToOutput _).mpr ?_)
    simpa [hok] using h _

/-- Forwarding, after the reading was calibrated with. -/
theorem wp_forwardReading_carried {w₀ : World} {rows : List NodeRow} {b : Bounds}
    (hw : (w.mysql .mysqlAddress).isSome) (hsettings : w.settings = w₀.settings)
    (hposts : w.posts = w₀.posts)
    (hdb : w.database = (r.learns w₀.settings b).1.foldl (Database.apply .exact) w₀.database)
    (hb : ((Query.bounds r.id r.type).run .exact w.database).head? =
      some (r.learns w₀.settings b).2) :
    wp (answering answers) (forwardReading r.id r.type r.value (rows.filterMap parsedAddress))
      (fun ok => Carried w₀ (r.decideForward answers w₀.settings rows b) (.ok ok)) E w := by
  have hchecked : w₀.checked = w.checked := congrArg Settings.checked hsettings.symm
  have hstop : ∀ q, w₀.settings.recipient rows = none →
      Carried w₀ (r.decideForward answers w₀.settings rows b) (.ok false) (w.quietly q) := by
    intro q hnone
    have hdecision : r.decideForward answers w₀.settings rows b =
        ⟨.ok false, (r.learns w₀.settings b).1, []⟩ := by
      simp only [Reading.decideForward, hnone]
    rw [hdecision]
    exact ⟨hsettings, rfl, hdb, by simp [hposts]⟩
  rw [forwardReading, wp_bind]
  refine wp_answering ((wp_appendToOutput _).mpr ?_)
  rw [wp_bind]
  refine wp_answering ((wp_isSelected _).mpr ?_)
  rw [World.quietly_checked, ← hchecked]
  cases hpaused : w₀.checked .wsnGeneralPauseWsnToVwCheck with
  | true =>
    rw [if_pos rfl, wp_bind]
    refine wp_answering ((wp_appendToOutput _).mpr ?_)
    exact hstop _ (if_pos hpaused)
  | false =>
    rw [if_neg Bool.false_ne_true]
    have hrecipient : w₀.settings.recipient rows = (rows.filterMap parsedAddress).head? :=
      if_neg (by simp [World.settings, hpaused])
    cases haddress : (rows.filterMap parsedAddress).head? with
    | none =>
      simp only [wp_bind]
      refine wp_answering ((wp_appendToOutput _).mpr ?_)
      exact hstop _ (hrecipient.trans haddress)
    | some address =>
      simp only [wp_bind]
      refine wp_answering ((wp_appendToOutput _).mpr ?_)
      refine wp_HTTPPOSTForward_answered (b := (r.learns w₀.settings b).2) (by exact hw)
        (by exact hb) rfl fun q => ?_
      have hdecision : r.decideForward answers w₀.settings rows b =
          ⟨.ok (answers.answered ⟨r.id, r.type, scaled r.value (r.learns w₀.settings b).2⟩),
            (r.learns w₀.settings b).1,
            [⟨address, ⟨r.id, r.type, scaled r.value (r.learns w₀.settings b).2⟩⟩]⟩ := by
        simp only [Reading.decideForward, hrecipient, haddress]
      rw [hdecision]
      exact ⟨hsettings, rfl, hdb, by simp [World.posting, hposts]⟩

theorem wp_recognisedSensor_carried {rows : List NodeRow} {b : Bounds} {url : String}
    (hw : w.mysql .mysqlAddress = some url)
    (hb : ((Query.bounds r.id r.type).run .exact w.database).head? = some b) :
    wp (answering answers) (recognisedSensor r.id r.type r.value (rows.filterMap parsedAddress))
      (fun ok => Carried w (r.decideForward answers w.settings rows b) (.ok ok)) E w := by
  rw [recognisedSensor, calibrateIfTicked, wp_bind, wp_bind]
  refine wp_answering ((wp_isSelected _).mpr ?_)
  cases hon : w.checked .wsnSensorsCalibrateCheck with
  | true =>
    have hlearns : r.learns w.settings b =
        (calibration r.id r.type r.value b, calibrated r.value b) := if_pos hon
    refine wp_answering (wp_calibrate (fun h => absurd h (not_trouble hw)) hw hb fun t q hf => ?_)
    refine wp_forwardReading_carried (b := b) (by simp [hw]) rfl rfl ?_ ?_
    · rw [hlearns]
      exact World.withDatabase_database hw
    · obtain ⟨f, hf, hfb⟩ := foldl_calibration .exact r.id r.type w.database r.value b
      rw [World.redrawn_database, World.withDatabase_database hw, hf,
        Database.run_bounds_mapBounds, List.head?_map, hb, hlearns, ← hfb]
      rfl
  | false =>
    have hlearns : r.learns w.settings b = ([], b) := if_neg (by simp [World.settings, hon])
    refine wp_forwardReading_carried (b := b) (by simp [hw]) rfl rfl ?_ ?_
    · rw [hlearns]
      rfl
    · rw [hlearns]
      exact hb

omit [Jdk] in
theorem hasSensor_of_run_bounds {id type : String}
    (h : (Query.bounds id type).run .exact d ≠ []) : d.hasSensor .exact id type := by
  obtain ⟨b, hb⟩ := List.exists_mem_of_ne_nil _ h
  obtain ⟨s, hs, -⟩ := List.mem_map.mp hb
  obtain ⟨hs, hkey⟩ := List.mem_filter.mp hs
  exact ⟨s, hs, by simpa using hkey⟩

omit [Jdk] in
theorem decideNode_skipped {s : Settings} (h : s.checked .wsnGeneralAutoAddCheck = true →
    ∃ l, s.ignoreNodeList = some l ∧ some r.id ∈ l) : r.decideNode s = .drop := by
  unfold Reading.decideNode
  split
  · obtain ⟨l, hl, hid⟩ := h ‹_›
    rw [hl]
    exact congrArg (Decision.mk _ · _) (if_pos hid)
  · rfl

omit [Jdk] in
theorem decideNode_crashed {s : Settings} (hauto : s.checked .wsnGeneralAutoAddCheck = true)
    (hl : s.ignoreNodeList = none) : r.decideNode s = ⟨.error .nullPointer, [], []⟩ := by
  rw [Reading.decideNode, if_pos hauto, hl]

omit [Jdk] in
theorem decideNode_added {s : Settings} {l : List (Option String)}
    (hauto : s.checked .wsnGeneralAutoAddCheck = true) (hl : s.ignoreNodeList = some l)
    (hid : some r.id ∉ l) : r.decideNode s = ⟨.ok false, [.insertNode r.id none], []⟩ := by
  rw [Reading.decideNode, if_pos hauto, hl]
  exact congrArg (Decision.mk _ · _) (if_neg hid)

theorem decideSensor_skipped {s : Settings} (h : s.checked .wsnSensorsAutoAddCheck = true →
    ∃ l, s.ignoreSensorList = some l ∧ containsEntry ⟨some r.id, some r.type⟩ l = .ok true) :
    r.decideSensor s = .drop := by
  unfold Reading.decideSensor
  split
  · obtain ⟨l, hl, hc⟩ := h ‹_›
    simp only [hl, hc, if_true]
    rfl
  · rfl

theorem decideSensor_added {s : Settings} {l : List SensorIgnoreIdTypeObject}
    (hauto : s.checked .wsnSensorsAutoAddCheck = true) (hl : s.ignoreSensorList = some l)
    (hc : containsEntry ⟨some r.id, some r.type⟩ l = .ok false) :
    r.decideSensor s = ⟨.ok false, [.insertSensor r.id r.type], []⟩ := by
  simp only [Reading.decideSensor, if_pos hauto, hl, hc, Bool.false_eq_true, if_false]

/-- Looking a pair up in the ignore list, and adding it if it is not there. -/
theorem wp_unrecognisedSensor_carried {url : String} (hw : w.mysql .mysqlAddress = some url)
    (hauto : w.checked .wsnSensorsAutoAddCheck = true) :
    wp (under .exact httpFault) (unrecognisedSensor r.id r.type)
      (fun _ => Carried w (r.decideSensor w.settings) (.ok false))
      (fun e => Carried w (r.decideSensor w.settings) (.error e)) w := by
  simp only [unrecognisedSensor, ignoreSensorListContains, wp_bind, wp_getIgnoreSensorList]
  cases hl : w.ignoreSensorList with
  | none =>
    have hdecision : r.decideSensor w.settings = ⟨.error .nullPointer, [], []⟩ := by
      simp only [Reading.decideSensor, World.settings, hauto, if_true, hl]
    rw [hdecision]
    exact ⟨rfl, rfl, rfl, (List.append_nil _).symm⟩
  | some l =>
    simp only
    cases hc : containsEntry ⟨some r.id, some r.type⟩ l with
    | error e =>
      have hdecision : r.decideSensor w.settings = ⟨.error e, [], []⟩ := by
        simp only [Reading.decideSensor, World.settings, hauto, if_true, hl, hc]
      rw [hdecision]
      exact ⟨rfl, rfl, rfl, (List.append_nil _).symm⟩
    | ok ignored =>
      cases ignored with
      | true =>
        rw [decideSensor_skipped fun _ => ⟨l, hl, hc⟩]
        simp only [wp_pure, if_true, wp_bind, wp_appendToOutput]
        exact ⟨rfl, rfl, rfl, (List.append_nil _).symm⟩
      | false =>
        rw [decideSensor_added hauto hl hc]
        refine wp_addUnrecognisedSensor (not_trouble hw) hw fun q => wp_redraws
          (S := (· = .wsnSensorsSensorsComboBox)) (redraws_updateSensorsSelect (by rfl) _)
            fun _ t b _ hf q' => ?_
        exact ⟨rfl, rfl, World.withDatabase_database hw, (List.append_nil _).symm⟩

omit [Jdk] in
theorem Carried.of_quietly {decision : Decision} {o : Except Exn Bool} {q : Traffic}
    (h : Carried (w.quietly q) decision o w') : Carried w decision o w' :=
  ⟨h.settings, h.outcome, h.database, h.posts⟩

/-- A reading of a registered node. -/
theorem wp_recognisedNode_carried {url : String} {c : Connection} {row : NodeRow}
    {rows : List NodeRow} (hw : w.mysql .mysqlAddress = some url)
    (hrows : (Query.node r.id).run .exact w.database = row :: rows) :
    wp (answering answers) (recognisedNode r.id r.type r.value c
        ((row :: rows).filterMap parsedAddress))
      (fun ok => Carried w (r.decide answers w.settings (r.sees w.database)) (.ok ok))
      (fun e => Carried w (r.decide answers w.settings (r.sees w.database)) (.error e)) w := by
  have hconfigured : w.settings.configured = true := by simp [World.settings, hw]
  have hmem : (((Query.sensors r.id).run .exact w.database).map SensorRow.type).contains
      r.type = true ↔ (Query.bounds r.id r.type).run .exact w.database ≠ [] := by
    rw [List.contains_iff_mem, Database.mem_run_sensors]
    refine ⟨fun h hnil => ?_, fun h => hasSensor_of_run_bounds h⟩
    obtain ⟨b, hb⟩ := Database.head_run_bounds (by simp) h
    simp [hnil] at hb
  rw [recognisedNode, wp_bind]
  refine wp_answering ((wp_appendToOutput _).mpr ?_)
  rw [wp_bind]
  refine wp_answering (wp_lookUpTypes (not_trouble (show _ = some url from hw)) fun q₁ => ?_)
  simp only [wp_bind]
  refine wp_answering (wp_closeConnection fun q₂ => ?_)
  rw [wp_ite]
  refine ⟨fun hin => ?_, fun hout => ?_⟩
  · obtain ⟨b, bs, hbounds⟩ := List.exists_cons_of_ne_nil (hmem.mp hin)
    have hdecision : r.decide answers w.settings (r.sees w.database) =
        r.decideForward answers w.settings (row :: rows) b := by
      simp only [Reading.decide, hconfigured, if_true, Reading.sees, hrows, hbounds]
    rw [hdecision]
    exact (wp_recognisedSensor_carried (w := w.quietly q₂) (E := fun _ _ => False) hw
      (congrArg List.head? hbounds :)).mono (fun _ _ h => h.of_quietly) fun _ _ h => h.elim
  · have hbounds := not_not.mp (mt hmem.mpr hout)
    have hdecision : r.decide answers w.settings (r.sees w.database) =
        r.decideSensor w.settings := by
      simp only [Reading.decide, hconfigured, if_true, Reading.sees, hrows, hbounds]
    rw [hdecision]
    refine wp_answering ?_
    simp only [wp_bind, wp_isSelected]
    rw [wp_ite]
    refine ⟨fun hoff => ?_, fun hon => ?_⟩
    · rw [decideSensor_skipped fun h => absurd h (by simpa [World.settings] using hoff)]
      simp only [wp_bind, wp_appendToOutput, wp_pure]
      exact ⟨rfl, rfl, rfl, (List.append_nil _).symm⟩
    have hauto : w.checked .wsnSensorsAutoAddCheck = true := by simpa using hon
    simp only [wp_bind, wp_isSelected]
    rw [wp_ite]
    refine ⟨fun _ => ?_, fun h => absurd hauto h⟩
    rw [wp_bind]
    exact (wp_unrecognisedSensor_carried (w := w.quietly q₂) hw hauto).mono
      (fun _ _ h => h.of_quietly) fun _ _ h => h.of_quietly

/-- **Deciding.** A reading carries out what is decided from what it sees. -/
theorem wp_sensed_carried :
    wp (answering answers) (sensed r.id r.type r.value)
      (fun ok => Carried w (r.decide answers w.settings (r.sees w.database)) (.ok ok))
      (fun e => Carried w (r.decide answers w.settings (r.sees w.database)) (.error e)) w := by
  rw [sensed, wp_bind]
  cases hw : w.mysql .mysqlAddress with
  | none =>
    have hdrop : r.decide answers w.settings (r.sees w.database) = .drop :=
      if_neg (by simp [World.settings, hw])
    refine wp_answering ?_
    rw [lookUpNode, wp_bind]
    refine wp_openStatement (fun c q hurl => by simp [hw] at hurl) fun _ q => ?_
    rw [hdrop]
    exact ⟨rfl, rfl, rfl, (List.append_nil _).symm⟩
  | some url =>
    have ht := not_trouble hw
    refine wp_answering (wp_lookUpNode ht fun c q₁ hc => ?_)
    simp only [nodeLookup, List.isEmpty_iff]
    cases hrows : (Query.node r.id).run .exact w.database with
    | nil =>
      have hdecision : r.decide answers w.settings (r.sees w.database) =
          r.decideNode w.settings := by
        simp only [Reading.decide, World.settings, hw, Option.isSome_some, if_true, Reading.sees,
          hrows]
      rw [hdecision, List.map_nil, if_pos rfl, wp_bind]
      refine wp_answering (wp_unrecognisedNode ht hc (fun q h => ?_) (fun q hauto hl => ?_)
        fun l q hauto hl hid => wp_redraws redraws_updateNodeSelects fun _ t b q' hf => ?_)
      · rw [decideNode_skipped h]
        exact ⟨rfl, rfl, rfl, (List.append_nil _).symm⟩
      · rw [decideNode_crashed hauto hl]
        exact ⟨rfl, rfl, rfl, (List.append_nil _).symm⟩
      · rw [decideNode_added hauto hl hid]
        exact ⟨rfl, rfl, World.withDatabase_database hc, (List.append_nil _).symm⟩
    | cons row rows =>
      rw [if_neg (by simp)]
      exact (wp_recognisedNode_carried (w := w.quietly q₁) hw hrows).mono
        (fun _ _ h => h.of_quietly) fun _ _ h => h.of_quietly

theorem carried_of_runs {l : List (Event calls World)} {o : Except Exn Bool}
    (h : Runs (answering answers) (sensed r.id r.type r.value) w l o w') :
    Carried w (r.decide answers w.settings (r.sees w.database)) o w' := by
  have := h.outcome_of_wp wp_sensed_carried
  cases o <;> exact this

/-- **Independence.** Two readings of different sensors leave the same tables and send the same
payloads, and each is given the same answer, in whichever order they are processed. -/
theorem sensed_independent {w₁ w₁₂ w₂ w₂₁ : World} {l₁ l₁₂ l₂ l₂₁ : List (Event calls World)}
    {o₁ o₁' o₂ o₂' : Except Exn Bool} (hdiff : Different w.database r₁ r₂)
    (h₁ : Runs (answering answers) (sensed r₁.id r₁.type r₁.value) w l₁ o₁ w₁)
    (h₁₂ : Runs (answering answers) (sensed r₂.id r₂.type r₂.value) w₁ l₁₂ o₂ w₁₂)
    (h₂ : Runs (answering answers) (sensed r₂.id r₂.type r₂.value) w l₂ o₂' w₂)
    (h₂₁ : Runs (answering answers) (sensed r₁.id r₁.type r₁.value) w₂ l₂₁ o₁' w₂₁) :
    w₁₂.database.nodes.Perm w₂₁.database.nodes ∧
      w₁₂.database.sensors.Perm w₂₁.database.sensors ∧ o₁ = o₁' ∧ o₂ = o₂' ∧
      ∃ p₁ p₂, w₁.posts = w.posts ++ p₁ ∧ w₁₂.posts = w₁.posts ++ p₂ ∧
        w₂.posts = w.posts ++ p₂ ∧ w₂₁.posts = w₂.posts ++ p₁ := by
  have c₁ := carried_of_runs h₁
  have c₂ := carried_of_runs h₂
  have c₁₂ := carried_of_runs h₁₂
  have c₂₁ := carried_of_runs h₂₁
  have hd₁ : w₁.database = r₁.leaves answers w.settings w.database := c₁.database
  have hd₂ : w₂.database = r₂.leaves answers w.settings w.database := c₂.database
  -- Each reading sees the same after the other as before it, and so decides the same.
  rw [c₁.settings, hd₁, sees_leaves answers _ hdiff] at c₁₂
  rw [c₂.settings, hd₂, sees_leaves answers _ hdiff.symm] at c₂₁
  have hd₁₂ : w₁₂.database = r₂.leaves answers w.settings w₁.database := by
    rw [c₁₂.database, Reading.leaves, hd₁, sees_leaves answers _ hdiff]
  have hd₂₁ : w₂₁.database = r₁.leaves answers w.settings w₂.database := by
    rw [c₂₁.database, Reading.leaves, hd₂, sees_leaves answers _ hdiff.symm]
  have hcomm := leaves_comm answers w.settings hdiff
  rw [← hd₁, ← hd₂, ← hd₁₂, ← hd₂₁] at hcomm
  exact ⟨hcomm.1, hcomm.2, c₁.outcome.trans c₂₁.outcome.symm, c₁₂.outcome.trans c₂.outcome.symm,
    _, _, c₁.posts, c₁₂.posts, c₂.posts, c₂₁.posts⟩

end Sensing

/-! ## Two readings of a registry -/

/-- A node that is not registered, and a sensor that is. -/
def strangerReading : Reading := ⟨"2", "light", 3⟩

def lightReading : Reading := ⟨"1", "light", 25⟩

/-- A window over the calibrated registry that adds nodes and calibrates. -/
def learningWorld : World :=
  { calibratedWorld with
    checked := fun b => b = .wsnGeneralAutoAddCheck || b = .wsnSensorsCalibrateCheck }

/-- Process a reading, nothing failing. -/
def processed (r : Reading) (w : World) : List (Event calls World) × Except Exn Bool × World :=
  (machine .exact).play .fine (@sensed plainJdk r.id r.type r.value) [] w

/-- A virtual world to which every POST goes through. -/
def willing : Answers := fun _ _ => true

theorem runs_processed (r : Reading) (w : World) :
    Runs (answering willing) (@sensed plainJdk r.id r.type r.value) w (processed r w).1
      (processed r w).2.1 (processed r w).2.2 :=
  Machine.runs_play (fun c _ => by cases c <;> rfl) (by simp)

/-- Adding node 2 and calibrating sensor (1, light), either way round. -/
theorem processed_independent :
    let w₁ := (processed strangerReading learningWorld).2.2
    let w₂ := (processed lightReading learningWorld).2.2
    (processed lightReading w₁).2.2.database.sensors.Perm
      (processed strangerReading w₂).2.2.database.sensors ∧
    (processed strangerReading learningWorld).2.1 = (processed strangerReading w₂).2.1 ∧
    (processed lightReading w₁).2.1 = (processed lightReading learningWorld).2.1 := by
  have h := @sensed_independent plainJdk willing strangerReading lightReading learningWorld
    _ _ _ _ _ _ _ _ _ _ _ _ (.inl (by decide)) (runs_processed strangerReading learningWorld)
    (runs_processed lightReading _) (runs_processed lightReading learningWorld)
    (runs_processed strangerReading _)
  exact ⟨h.2.1, h.2.2.1, h.2.2.2.1⟩

end CrossingReality
