import CrossingReality.Console
import CrossingReality.Handler

/-!
# Rules for the program's calls

The programs are judged against the machine, with a set `may` of calls that may fail. Under
`anyFault` every call that can throw may; under `httpFault` the database calls succeed and only
the connection to the virtual world and the details file may fail.

* `step_outside` — what the calls to the database, the file and the network leave alone.
* `wp_*` — one rule a call, and one for each JDBC step that the methods repeat.
* `World.redrawn` — what reading the database and refilling the window can change.
* `Call.redraws` — the calls that change no more than that.
-/

namespace CrossingReality

open Effects

/-! ## Faults -/

/-- The calls that go to the database. -/
def Call.isJdbc : Call → Prop
  | .forName | .getConnection | .createStatement _ | .executeQuery _ _ | .fetch _
  | .executeUpdate _ _ | .close _ => True
  | _ => False

/-- Every call that can throw may. -/
def anyFault : Call → Prop := fun _ => True

/-- No database call throws. -/
def httpFault : Call → Prop := fun c => ¬ c.isJdbc

/-- A database operation can go wrong: there is no address to connect to, or some call may
throw. -/
def Trouble (may : Call → Prop) (w : World) : Prop :=
  w.mysql .mysqlAddress = none ∨ ∃ c, may c ∧ c.isJdbc

theorem not_trouble {w : World} {url : String} (hw : w.mysql .mysqlAddress = some url) :
    ¬ Trouble httpFault w := by
  simp [Trouble, httpFault, hw]

/-- The machine, where only the calls in `may` can fail. -/
def under (col : Collation) (may : Call → Prop) : Contract calls World :=
  (machine col).contract fun c f _ => f.fails = true → may c

variable {col : Collation} {may : Call → Prop} {w : World} {E : Exn → World → Prop}

/-- A run of the evaluator is an execution. -/
theorem runs_play_under {α : Type} (p : Panel α) (fates : List Fate) (w : World)
    (h : ∀ f ∈ fates, f.fails = false) (may : Call → Prop) :
    Runs (under col may) p w ((machine col).play .fine p fates w).1
      ((machine col).play .fine p fates w).2.1 ((machine col).play .fine p fates w).2.2 :=
  Machine.runs_play (fun _ _ hf => by cases hf) fun f hf _ _ hfails => by
    rw [h f hf] at hfails
    cases hfails

theorem runs_play_anyFault {α : Type} (p : Panel α) (fates : List Fate) (w : World) :
    Runs (under col anyFault) p w ((machine col).play .fine p fates w).1
      ((machine col).play .fine p fates w).2.1 ((machine col).play .fine p fates w).2.2 :=
  Machine.runs_play (fun _ _ _ => trivial) fun _ _ _ _ _ => trivial

/-! ## What stays when the window is redrawn -/

/-- The terminals and the connections. -/
structure Traffic where
  output : TextArea → List Message
  openHandles : List Nat
  nextHandle : Nat

namespace Traffic

def say (q : Traffic) (m : Message) : Traffic := { q with output := fun a => q.output a ++ [m] }

def sayOn (q : Traffic) (a : TextArea) (m : Message) : Traffic :=
  { q with output := Function.update q.output a (q.output a ++ [m]) }

def opened (q : Traffic) : Traffic :=
  { q with openHandles := q.nextHandle :: q.openHandles, nextHandle := q.nextHandle + 1 }

def closed (q : Traffic) (c : Connection) : Traffic :=
  { q with openHandles := q.openHandles.erase c.handle }

end Traffic

namespace World

/-- The same world with other lines on the terminals and other connections. -/
def quietly (w : World) (q : Traffic) : World :=
  { w with output := q.output, openHandles := q.openHandles, nextHandle := q.nextHandle }

/-- The same world with other texts and combo boxes as well. -/
def redrawn (w : World) (t : TextField → String) (c : ComboBox → Combo) (q : Traffic) : World :=
  { w with
    text := t, combo := c
    output := q.output, openHandles := q.openHandles, nextHandle := q.nextHandle }

theorem database_of_url {w : World} {url : String} (h : w.mysql .mysqlAddress = some url) :
    w.database = w.servers url := by
  simp [database, h]

/-- The same world with another database at an address. -/
def withDatabase (w : World) (url : String) (d : Database) : World :=
  { w with servers := Function.update w.servers url d }

/-- The terminals and the connections of a world. -/
def traffic (w : World) : Traffic := ⟨w.output, w.openHandles, w.nextHandle⟩

section Fields

variable (q : Traffic) (t : TextField → String) (c : ComboBox → Combo)

@[simp] theorem quietly_servers : (w.quietly q).servers = w.servers := rfl
@[simp] theorem quietly_mysql : (w.quietly q).mysql = w.mysql := rfl
@[simp] theorem quietly_text : (w.quietly q).text = w.text := rfl
@[simp] theorem quietly_checked : (w.quietly q).checked = w.checked := rfl
@[simp] theorem quietly_combo : (w.quietly q).combo = w.combo := rfl
@[simp] theorem quietly_ignoreNodeList : (w.quietly q).ignoreNodeList = w.ignoreNodeList := rfl
@[simp] theorem quietly_ignoreSensorList :
    (w.quietly q).ignoreSensorList = w.ignoreSensorList := rfl
@[simp] theorem quietly_posts : (w.quietly q).posts = w.posts := rfl
@[simp] theorem quietly_delivered : (w.quietly q).delivered = w.delivered := rfl
@[simp] theorem quietly_commands : (w.quietly q).commands = w.commands := rfl
@[simp] theorem quietly_responses : (w.quietly q).responses = w.responses := rfl
@[simp] theorem quietly_database : (w.quietly q).database = w.database := rfl

@[simp] theorem redrawn_servers : (w.redrawn t c q).servers = w.servers := rfl
@[simp] theorem redrawn_mysql : (w.redrawn t c q).mysql = w.mysql := rfl
@[simp] theorem redrawn_text : (w.redrawn t c q).text = t := rfl
@[simp] theorem redrawn_checked : (w.redrawn t c q).checked = w.checked := rfl
@[simp] theorem redrawn_combo : (w.redrawn t c q).combo = c := rfl
@[simp] theorem redrawn_ignoreNodeList :
    (w.redrawn t c q).ignoreNodeList = w.ignoreNodeList := rfl
@[simp] theorem redrawn_ignoreSensorList :
    (w.redrawn t c q).ignoreSensorList = w.ignoreSensorList := rfl
@[simp] theorem redrawn_posts : (w.redrawn t c q).posts = w.posts := rfl
@[simp] theorem redrawn_delivered : (w.redrawn t c q).delivered = w.delivered := rfl
@[simp] theorem redrawn_commands : (w.redrawn t c q).commands = w.commands := rfl
@[simp] theorem redrawn_responses : (w.redrawn t c q).responses = w.responses := rfl
@[simp] theorem redrawn_database : (w.redrawn t c q).database = w.database := rfl

@[simp] theorem quietly_traffic : (w.quietly q).traffic = q := rfl
@[simp] theorem quietly_quietly (q' : Traffic) : (w.quietly q).quietly q' = w.quietly q' := rfl
@[simp] theorem quietly_redrawn (q' : Traffic) :
    (w.quietly q).redrawn t c q' = w.redrawn t c q' := rfl
@[simp] theorem redrawn_quietly (q' : Traffic) :
    (w.redrawn t c q).quietly q' = w.redrawn t c q' := rfl
@[simp] theorem redrawn_redrawn (t' : TextField → String) (c' : ComboBox → Combo)
    (q' : Traffic) : (w.redrawn t c q).redrawn t' c' q' = w.redrawn t' c' q' := rfl

@[simp] theorem withDatabase_quietly (url : String) (d : Database) :
    (w.quietly q).withDatabase url d = (w.withDatabase url d).quietly q := rfl
@[simp] theorem withDatabase_redrawn (url : String) (d : Database) :
    (w.redrawn t c q).withDatabase url d = (w.withDatabase url d).redrawn t c q := rfl
@[simp] theorem update_quietly (col : Collation) (url : String) (u : Update) :
    (w.quietly q).update col url u = (w.update col url u).quietly q := rfl
@[simp] theorem update_redrawn (col : Collation) (url : String) (u : Update) :
    (w.redrawn t c q).update col url u = (w.update col url u).redrawn t c q := rfl
@[simp] theorem quietly_self : w.quietly w.traffic = w := rfl

@[simp] theorem redrawn_self : w.redrawn w.text w.combo w.traffic = w := rfl

end Fields

section Database

variable {url : String} (d d' : Database)

@[simp] theorem withDatabase_mysql : (w.withDatabase url d).mysql = w.mysql := rfl
@[simp] theorem withDatabase_text : (w.withDatabase url d).text = w.text := rfl
@[simp] theorem withDatabase_checked : (w.withDatabase url d).checked = w.checked := rfl
@[simp] theorem withDatabase_combo : (w.withDatabase url d).combo = w.combo := rfl
@[simp] theorem withDatabase_ignoreNodeList :
    (w.withDatabase url d).ignoreNodeList = w.ignoreNodeList := rfl
@[simp] theorem withDatabase_ignoreSensorList :
    (w.withDatabase url d).ignoreSensorList = w.ignoreSensorList := rfl
@[simp] theorem withDatabase_posts : (w.withDatabase url d).posts = w.posts := rfl
@[simp] theorem withDatabase_delivered : (w.withDatabase url d).delivered = w.delivered := rfl
@[simp] theorem withDatabase_servers_self : (w.withDatabase url d).servers url = d :=
  Function.update_self ..
@[simp] theorem withDatabase_withDatabase :
    (w.withDatabase url d).withDatabase url d' = w.withDatabase url d' := by
  simp [withDatabase]

variable {d}

theorem withDatabase_database (h : w.mysql .mysqlAddress = some url) :
    (w.withDatabase url d).database = d := by
  simp [database, withDatabase, h]

theorem withDatabase_self (h : w.mysql .mysqlAddress = some url) :
    w.withDatabase url w.database = w := by
  simp [database, withDatabase, h]

theorem update_eq_withDatabase {col : Collation} {u : Update}
    (h : w.mysql .mysqlAddress = some url) :
    w.update col url u = w.withDatabase url (w.database.apply col u) := by
  rw [database_of_url h]
  rfl

theorem update_database (h : w.mysql .mysqlAddress = some url) (col : Collation) (u : Update) :
    (w.update col url u).database = w.database.apply col u := by
  rw [update_eq_withDatabase h, withDatabase_database h]

end Database

end World

/-! ## Steps -/

/-- A call is one step. -/
theorem step_of_post {c : Call} {x : c.Ret} {w' : World} (h : (under col may).post c w x w') :
    ∃ f, (step col c f w).1 = x ∧ (step col c f w).2 = w' := by
  obtain ⟨f, -, hstep⟩ := h
  exact ⟨f, Prod.mk.inj hstep⟩

/-- What the steps of its calls keep, a program keeps. -/
theorem wp_of_steps {α : Type} {p : Panel α} {P : Call → Prop} {R : Exn → Prop}
    {I : World → Prop} (hp : p.Uses P R) (hI : ∀ c f w, P c → I w → I (step col c f w).2)
    (hw : I w) : wp (under col may) p (fun _ => I) (fun e w' => R e ∧ I w') w := by
  refine wp_of_uses hp (fun c w hc hw => ⟨trivial, ?_⟩) hw
  intro x w' hx
  obtain ⟨f, -, rfl⟩ := step_of_post hx
  exact hI c f w hc hw

/-- The calls that leave the program: to the database, the details file and the network. -/
def Call.isOutside : Call → Bool
  | .forName | .getConnection | .createStatement _ | .executeQuery _ _ | .fetch _
  | .executeUpdate _ _ | .close _ | .readMysqldetails | .writeMysqldetails _ | .http _ _
  | .execute _ _ _ | .respond _ => true
  | _ => false

/-- What such a call leaves as it was: everything inside, and without an update the databases. -/
structure SameInside (c : Call) (w w' : World) : Prop where
  servers : (∀ k u, c ≠ .executeUpdate k u) → w'.servers = w.servers
  mysql : w'.mysql = w.mysql
  text : w'.text = w.text
  checked : w'.checked = w.checked
  combo : w'.combo = w.combo
  ignoreNodeList : w'.ignoreNodeList = w.ignoreNodeList
  ignoreSensorList : w'.ignoreSensorList = w.ignoreSensorList
  output : w'.output = w.output

/-- **Frame.** -/
theorem step_outside {c : Call} (hc : c.isOutside = true) (col : Collation) (f : Fate)
    (w : World) : SameInside c w (step col c f w).2 := by
  cases c with
  | getConnection =>
    simp only [step]
    split
    · exact ⟨fun _ => rfl, rfl, rfl, rfl, rfl, rfl, rfl, rfl⟩
    · split <;> exact ⟨fun _ => rfl, rfl, rfl, rfl, rfl, rfl, rfl, rfl⟩
  | executeUpdate k u =>
    simp only [step]
    split
    · exact ⟨fun _ => rfl, rfl, rfl, rfl, rfl, rfl, rfl, rfl⟩
    · exact ⟨fun h => absurd rfl (h k u), rfl, rfl, rfl, rfl, rfl, rfl, rfl⟩
  | executeQuery | writeMysqldetails =>
    simp only [step]
    split <;> exact ⟨fun _ => rfl, rfl, rfl, rfl, rfl, rfl, rfl, rfl⟩
  | http c p =>
    cases c with
    | close =>
      simp only [step]
      split <;> exact ⟨fun _ => rfl, rfl, rfl, rfl, rfl, rfl, rfl, rfl⟩
    | _ => exact ⟨fun _ => rfl, rfl, rfl, rfl, rfl, rfl, rfl, rfl⟩
  | forName | createStatement | fetch | close | readMysqldetails | execute | respond =>
    exact ⟨fun _ => rfl, rfl, rfl, rfl, rfl, rfl, rfl, rfl⟩
  | _ => cases hc

/-! ## Single calls -/

theorem wp_call (c : Call) {Q : c.Ret → World → Prop} :
    wp (under col may) (call c) Q E w ↔
      ∀ f : Fate, (f.fails = true → may c) → Q (step col c f w).1 (step col c f w).2 :=
  Machine.wp_lift_contract (S := calls) c

/-- A call whose fate does not matter. -/
theorem wp_call_steady {c : Call} {x : c.Ret} {w' : World} {Q : c.Ret → World → Prop}
    (h : ∀ f, step col c f w = (x, w')) : wp (under col may) (call c) Q E w ↔ Q x w' := by
  rw [wp_call]
  constructor
  · intro hq
    simpa [h] using hq .fine (by simp [Fate.fine])
  · intro hq f _
    simpa [h] using hq

instance : Nonempty XmlRpcReply := ⟨.fault⟩

/-- A call that goes through or fails. -/
theorem wp_call_faulty (c : Call) {Q : c.Ret → World → Prop} :
    wp (under col may) (call c) Q E w ↔
      (∀ r, Q (step col c ⟨false, r⟩ w).1 (step col c ⟨false, r⟩ w).2) ∧
      (may c → ∀ r, Q (step col c ⟨true, r⟩ w).1 (step col c ⟨true, r⟩ w).2) := by
  rw [wp_call]
  constructor
  · exact fun h => ⟨fun r => h ⟨false, r⟩ (by simp), fun hc r => h ⟨true, r⟩ fun _ => hc⟩
  · rintro ⟨hok, hbad⟩ ⟨fails, r⟩ hf
    cases fails with
    | false => exact hok r
    | true => exact hbad (hf rfl) r

/-- A call that goes through in one way or fails in one way. -/
theorem wp_call_either {c : Call} {x y : c.Ret} {w₁ w₂ : World} {Q : c.Ret → World → Prop}
    (hok : ∀ r, step col c ⟨false, r⟩ w = (x, w₁)) (hbad : ∀ r, step col c ⟨true, r⟩ w = (y, w₂)) :
    wp (under col may) (call c) Q E w ↔ Q x w₁ ∧ (may c → Q y w₂) := by
  rw [wp_call_faulty]
  simp only [hok, hbad, forall_const]

@[simp] theorem wp_throwExn {α : Type} (e : Exn) {Q : α → World → Prop} :
    wp (under col may) (throwExn e : Panel α) Q E w ↔ E e w := Iff.rfl

section Window

@[simp] theorem wp_appendToOutput (m : Message) {Q : Unit → World → Prop} :
    wp (under col may) (appendToOutput m) Q E w ↔
      Q () (w.quietly (w.traffic.say m)) :=
  wp_call_steady fun _ => rfl

@[simp] theorem wp_appendArea (a : TextArea) (m : Message) {Q : Unit → World → Prop} :
    wp (α := Unit) (under col may) (call (.appendArea a m)) Q E w ↔
      Q () (w.quietly (w.traffic.sayOn a m)) :=
  wp_call_steady fun _ => rfl

@[simp] theorem wp_getText (f : TextField) {Q : String → World → Prop} :
    wp (under col may) (getText f) Q E w ↔ Q (w.text f) w := wp_call_steady fun _ => rfl

@[simp] theorem wp_setText (f : TextField) (s : String) {Q : Unit → World → Prop} :
    wp (under col may) (setText f s) Q E w ↔
      Q () (w.redrawn (Function.update w.text f s) w.combo w.traffic) :=
  wp_call_steady fun _ => rfl

@[simp] theorem wp_isSelected (b : CheckBox) {Q : Bool → World → Prop} :
    wp (under col may) (isSelected b) Q E w ↔ Q (w.checked b) w := wp_call_steady fun _ => rfl

@[simp] theorem wp_setSelected (b : CheckBox) (v : Bool) {Q : Unit → World → Prop} :
    wp (under col may) (setSelected b v) Q E w ↔ Q () (w.setSelected b v) :=
  wp_call_steady fun _ => rfl

@[simp] theorem wp_getSelectedItem (b : ComboBox) {Q : Option String → World → Prop} :
    wp (under col may) (getSelectedItem b) Q E w ↔ Q (w.combo b).selected w :=
  wp_call_steady fun _ => rfl

@[simp] theorem wp_getIgnoreNodeList {Q : Option (List (Option String)) → World → Prop} :
    wp (α := Option (List (Option String))) (under col may) (call .getIgnoreNodeList) Q E w ↔
      Q w.ignoreNodeList w :=
  wp_call_steady (c := .getIgnoreNodeList) fun _ => rfl

@[simp] theorem wp_getIgnoreSensorList
    {Q : Option (List SensorIgnoreIdTypeObject) → World → Prop} :
    wp (α := Option (List SensorIgnoreIdTypeObject)) (under col may) (call .getIgnoreSensorList)
      Q E w ↔ Q w.ignoreSensorList w :=
  wp_call_steady (c := .getIgnoreSensorList) fun _ => rfl

end Window

/-! ## JDBC -/

section Jdbc

theorem wp_forName {Q : Bool → World → Prop} :
    wp (α := Bool) (under col may) (call .forName) Q E w ↔
      Q true w ∧ (may .forName → Q false w) :=
  wp_call_either (c := .forName) (fun _ => rfl) fun _ => rfl

theorem wp_getConnection {Q : Option Connection → World → Prop} :
    wp (α := Option Connection) (under col may) (call .getConnection) Q E w ↔
      (∀ url, w.mysql .mysqlAddress = some url → Q (some ⟨w.traffic.nextHandle, url⟩)
        (w.quietly w.traffic.opened)) ∧
      ((w.mysql .mysqlAddress = none ∨ may .getConnection) → Q none w) := by
  refine (wp_call_faulty .getConnection).trans ?_
  cases hw : w.mysql .mysqlAddress with
  | none => simp +contextual [step, hw]
  | some url => simp [step, hw, World.quietly, World.traffic, Traffic.opened]

theorem wp_createStatement (c : Connection) {Q : Bool → World → Prop} :
    wp (α := Bool) (under col may) (call (.createStatement c)) Q E w ↔
      Q true w ∧ (may (.createStatement c) → Q false w) :=
  wp_call_either (c := .createStatement c) (fun _ => rfl) fun _ => rfl

theorem wp_fetch (c : Connection) {Q : Bool → World → Prop} :
    wp (α := Bool) (under col may) (call (.fetch c)) Q E w ↔
      Q true w ∧ (may (.fetch c) → Q false w) :=
  wp_call_either (c := .fetch c) (fun _ => rfl) fun _ => rfl

theorem wp_close (c : Connection) {Q : Bool → World → Prop} :
    wp (α := Bool) (under col may) (call (.close c)) Q E w ↔
      Q true (w.quietly (w.traffic.closed c)) ∧
      (may (.close c) → Q false (w.quietly (w.traffic.closed c))) :=
  wp_call_either (c := .close c) (fun _ => rfl) fun _ => rfl

theorem wp_callExecuteQuery (c : Connection) (q : Query)
    {Q : Option (List q.Row) → World → Prop} :
    wp (α := Option (List q.Row)) (under col may) (call (.executeQuery c q)) Q E w ↔
      Q (some (q.run col (w.servers c.url))) w ∧ (may (.executeQuery c q) → Q none w) :=
  wp_call_either (c := .executeQuery c q) (fun _ => rfl) fun _ => rfl

theorem wp_callExecuteUpdate (c : Connection) (u : Update) {Q : Bool → World → Prop} :
    wp (α := Bool) (under col may) (call (.executeUpdate c u)) Q E w ↔
      Q true (w.update col c.url u) ∧ (may (.executeUpdate c u) → Q false w) :=
  wp_call_either (c := .executeUpdate c u) (fun _ => rfl) fun _ => rfl

/-- Only the address decides whether a call's failing spells trouble. -/
theorem Trouble.of_may {c : Call} (hc : c.isJdbc) (h : may c) : Trouble may w := .inr ⟨c, h, hc⟩

theorem wp_openStatement {m : Message} {Q : Option Connection → World → Prop}
    (hok : ∀ c q, w.mysql .mysqlAddress = some c.url → Q (some c) (w.quietly q))
    (hbad : Trouble may w → ∀ q, Q none (w.quietly q)) :
    wp (under col may) (openStatement m) Q E w := by
  simp only [openStatement, wp_bind, wp_forName]
  simp only [Bool.not_true, Bool.not_false, Bool.false_eq_true, if_true, if_false, wp_bind,
    wp_appendToOutput, wp_getConnection, wp_createStatement, wp_pure]
  refine ⟨⟨fun url hurl => ⟨hok _ _ hurl, fun h => ?_⟩, fun h => ?_⟩, fun h => ?_⟩
  · exact hbad (.of_may (c := .createStatement _) trivial h) _
  · exact hbad (h.imp_right fun h => ⟨.getConnection, h, trivial⟩) _
  · exact hbad (.of_may (c := .forName) trivial h) _

theorem wp_executeQuery {c : Connection} {q : Query} {m : Message}
    {Q : Option (List q.Row) → World → Prop}
    (hok : Q (some (q.run col (w.servers c.url))) w)
    (hbad : Trouble may w → ∀ q, Q none (w.quietly q)) :
    wp (under col may) (executeQuery c q m) Q E w := by
  simp only [executeQuery, wp_bind, wp_callExecuteQuery, wp_appendToOutput, wp_pure]
  exact ⟨hok, fun h => hbad (.of_may (c := .executeQuery c q) trivial h) _⟩

theorem wp_executeUpdate {c : Connection} {u : Update} {m : Message}
    {Q : Bool → World → Prop} (hok : Q true (w.update col c.url u))
    (hbad : Trouble may w → ∀ q, Q false (w.quietly q)) :
    wp (under col may) (executeUpdate c u m) Q E w := by
  simp only [executeUpdate, wp_bind, wp_callExecuteUpdate]
  simpa using ⟨hok, fun h => hbad (.of_may (c := .executeUpdate c u) trivial h) _⟩

/-- Reading rows one by one, where each leaves at most lines on the terminal. -/
theorem wp_whileNext {ρ β : Type} {c : Connection} {body : β → ρ → Panel β} {g : β → ρ → β}
    {Q : Option β → World → Prop}
    (hbody : ∀ acc row q {R : β → World → Prop}, (∀ q', R (g acc row) (w.quietly q')) →
      wp (under col may) (body acc row) R E (w.quietly q))
    (rows : List ρ) (acc : β) (q : Traffic) (hok : ∀ q, Q (some (rows.foldl g acc)) (w.quietly q))
    (hbad : Trouble may w → ∀ q, Q none (w.quietly q)) :
    wp (under col may) (whileNext c body rows acc) Q E (w.quietly q) := by
  have hfetch : may (.fetch c) → ∀ q, Q none (w.quietly q) :=
    fun h => hbad (.of_may (c := .fetch c) trivial h)
  induction rows generalizing acc q with
  | nil =>
    simp only [whileNext, wp_bind, wp_fetch]
    simpa using ⟨hok q, fun h => hfetch h q⟩
  | cons row rows ih =>
    simp only [whileNext, wp_bind, wp_fetch]
    refine ⟨?_, fun h => by simpa using hfetch h q⟩
    simpa using hbody acc row q fun q' => ih _ q' hok

theorem wp_readRows {ρ β : Type} {c : Connection} {column : ρ → β} {rows : List ρ}
    {Q : Option (List β) → World → Prop} (hok : ∀ q, Q (some (rows.map column)) (w.quietly q))
    (hbad : Trouble may w → ∀ q, Q none (w.quietly q)) :
    wp (under col may) (readRows c column rows) Q E w := by
  simp only [readRows, wp_bind]
  refine wp_whileNext (w := w) (g := fun acc row => acc ++ [column row]) ?_ rows [] w.traffic ?_ ?_
  · intro acc row q R hR
    exact hR q
  · intro q
    simpa [List.foldl_append_eq_append, ← List.flatMap_def, ← List.map_eq_flatMap] using hok q
  · intro h q
    simpa using hbad h _

theorem wp_firstRow {ρ : Type} {c : Connection} {rows : List ρ} {Q : Option ρ → World → Prop}
    (hok : Q rows.head? w) (hbad : Trouble may w → Q none w) :
    wp (under col may) (firstRow c rows) Q E w := by
  simp only [firstRow, wp_bind, wp_fetch]
  simpa using ⟨hok, fun h => hbad (.of_may (c := .fetch c) trivial h)⟩

theorem wp_closeConnection {c : Connection} {Q : Unit → World → Prop}
    (hok : ∀ q, Q () (w.quietly q)) : wp (under col may) (closeConnection .cp c) Q E w := by
  simp only [closeConnection, wp_bind, wp_close]
  simpa [appendToOutputOf] using ⟨hok _, fun _ => hok _⟩

/-- On an object of its own request, the line about a `close` that fails reaches the general tab,
and an exception is thrown. -/
theorem wp_closeConnection_perRequest {c : Connection} {Q : Unit → World → Prop}
    (hok : ∀ q, Q () (w.quietly q)) (hbad : may (.close c) → ∀ q, E .nullPointer (w.quietly q)) :
    wp (under col may) (closeConnection .perRequest c) Q E w := by
  simp only [closeConnection, wp_bind, wp_close]
  simpa [appendToOutputOf] using ⟨hok _, fun h => hbad h _⟩

end Jdbc

/-! ## Redrawing -/

/-- The fields that show what is selected; the program fills them, whatever the operator does. -/
def TextField.shows : TextField → Prop
  | .wsnGeneralNodeAddressField | .wsnSensorsNodeAddressField | .wsnSensorsCalibrationMinField
  | .wsnSensorsCalibrationMaxField | .actuatorAddressField => True
  | _ => False

/-- The calls that change nothing but the terminal, the connections, the fields that show what is
selected and the combo boxes in `S`. Redrawing asks no check box. -/
@[simp] def Call.redraws (S : ComboBox → Prop) : Call → Prop
  | .forName | .getConnection | .createStatement _ | .executeQuery _ _ | .fetch _ | .close _
  | .append _ | .getText _ | .getSelectedItem _ => True
  | .setText f _ => f.shows
  | .removeAllItems b | .addItem b _ => S b
  | _ => False

/-- A program that only redraws, and does not throw. -/
abbrev Redraws (S : ComboBox → Prop) {α : Type} (p : Panel α) : Prop :=
  p.Uses (Call.redraws S) fun _ => False

theorem Call.redraws_mono {S S' : ComboBox → Prop} (h : ∀ b, S b → S' b) {c : Call}
    (hc : c.redraws S) : c.redraws S' := by
  cases c <;> first | exact hc | exact h _ hc

theorem Redraws.mono {S S' : ComboBox → Prop} {α : Type} {p : Panel α} (hp : Redraws S p)
    (h : ∀ b, S b → S' b) : Redraws S' p :=
  Program.Uses.mono hp (fun _ => Call.redraws_mono h) fun _ h => h

/-- What redrawing the boxes in `S` leaves alone. -/
structure Frame (S : ComboBox → Prop) (w : World) (t : TextField → String)
    (c : ComboBox → Combo) : Prop where
  text : ∀ f, ¬ f.shows → t f = w.text f
  combo : ∀ b, ¬ S b → c b = w.combo b

theorem Frame.refl (S : ComboBox → Prop) (w : World) : Frame S w w.text w.combo :=
  ⟨fun _ _ => rfl, fun _ _ => rfl⟩

/-- `w'` is `w` redrawn, in the boxes of `S`. -/
def Redrawn (S : ComboBox → Prop) (w w' : World) : Prop :=
  ∃ t b q, w' = w.redrawn t b q ∧ Frame S w t b

namespace Redrawn

variable {S : ComboBox → Prop} {w w' w'' : World}

theorem quietly (S : ComboBox → Prop) (w : World) (q : Traffic) : Redrawn S w (w.quietly q) :=
  ⟨w.text, w.combo, q, rfl, .refl S w⟩

theorem refl (S : ComboBox → Prop) (w : World) : Redrawn S w w := quietly S w w.traffic

theorem trans (h : Redrawn S w w') (h' : Redrawn S w' w'') : Redrawn S w w'' := by
  obtain ⟨t, b, q, rfl, hf⟩ := h
  obtain ⟨t', b', q', rfl, hf'⟩ := h'
  exact ⟨t', b', q', rfl, fun f hs => (hf'.text f hs).trans (hf.text f hs),
    fun c hc => (hf'.combo c hc).trans (hf.combo c hc)⟩

theorem setText {f : TextField} (hf : f.shows) (s : String) : Redrawn S w (w.setText f s) := by
  refine ⟨_, w.combo, w.traffic, rfl, ?_, fun _ _ => rfl⟩
  rintro g hg
  exact Function.update_of_ne (by rintro rfl; exact hg hf) _ _

theorem setCombo {b : ComboBox} (hb : S b) (v : Combo) : Redrawn S w (w.setCombo b v) := by
  refine ⟨w.text, _, w.traffic, rfl, fun _ _ => rfl, ?_⟩
  rintro c hc
  exact Function.update_of_ne (by rintro rfl; exact hc hb) _ _

end Redrawn

/-- One call that redraws. -/
theorem step_redraws {S : ComboBox → Prop} {c : Call} (hc : c.redraws S) (f : Fate) :
    Redrawn S w (step col c f w).2 := by
  cases c with
  | getConnection =>
    cases hw : w.mysql .mysqlAddress with
    | none => simpa [step, hw] using Redrawn.refl S w
    | some url =>
      cases hf : f.fails with
      | true => simpa [step, hw, hf] using Redrawn.refl S w
      | false =>
        have : (step col .getConnection f w).2 = w.quietly w.traffic.opened := by
          simp [step, hw, hf, World.quietly, World.traffic, Traffic.opened]
        exact this ▸ Redrawn.quietly S w w.traffic.opened
  | executeQuery c q =>
    cases hf : f.fails <;> simpa [step, hf] using Redrawn.refl S w
  | close c => exact Redrawn.quietly S w (w.traffic.closed c)
  | append m => exact Redrawn.quietly S w (w.traffic.say m)
  | setText g s => exact Redrawn.setText hc s
  | removeAllItems b => exact Redrawn.setCombo hc _
  | addItem b s => exact Redrawn.setCombo hc _
  | forName | createStatement | fetch | getText | getSelectedItem =>
    exact Redrawn.refl S w
  | _ => exact hc.elim

/-- **Redrawing.** A program that only redraws does just that, whatever fails. -/
theorem wp_redraws {S : ComboBox → Prop} {α : Type} {p : Panel α} (hp : Redraws S p)
    {Q : α → World → Prop} (h : ∀ a t b q, Frame S w t b → Q a (w.redrawn t b q)) :
    wp (under col may) p Q E w := by
  refine (wp_of_steps (I := Redrawn S w) hp (fun c f w' hc hw' => hw'.trans (step_redraws hc f))
    (.refl S w)).mono ?_ fun e _ h => h.1.elim
  intro a w' hw'
  obtain ⟨t, b, q, rfl, hf⟩ := hw'
  exact h a t b q hf

end CrossingReality
