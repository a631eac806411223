import Mathlib.Data.List.Basic
import Mathlib.Data.List.Nodup
import Mathlib.Logic.Function.Basic

/-!
# The registry database

The three tables and the statements the program sends. The repository declares no schema, so the
tables are plain lists of rows: nothing but the program keeps two rows of one key apart. A
statement stands for the SQL text the program splices, with the strings taken verbatim.

String comparison in a `WHERE` clause is the database's own (`Collation`).
-/

namespace CrossingReality

/-! ## Rows -/

/-- A row of `nodes (id, address)`. -/
structure NodeRow where
  id : String
  address : Option String
deriving DecidableEq, Repr

/-- A row of `sensors (id, type, min, max)`. -/
structure SensorRow where
  id : String
  type : String
  min : Option Int32
  max : Option Int32
deriving DecidableEq

/-- A row of `actuators (id, address)`. -/
structure ActuatorRow where
  id : String
  address : Option String
deriving DecidableEq, Repr

/-- The tables, each in the order a `SELECT` returns its rows. -/
structure Database where
  nodes : List NodeRow
  sensors : List SensorRow
  actuators : List ActuatorRow
deriving DecidableEq

namespace Database

/-- A database whose tables have no rows. -/
def empty : Database := ⟨[], [], []⟩

/-- The ids of the `nodes` table. -/
def nodeIds (d : Database) : List String := d.nodes.map NodeRow.id

/-- The keys of the `sensors` table. -/
def sensorKeys (d : Database) : List (String × String) := d.sensors.map fun r => (r.id, r.type)

@[simp] theorem mem_nodeIds {d : Database} {id : String} :
    id ∈ d.nodeIds ↔ ∃ r ∈ d.nodes, r.id = id := List.mem_map

@[simp] theorem mem_sensorKeys {d : Database} {k : String × String} :
    k ∈ d.sensorKeys ↔ ∃ r ∈ d.sensors, (r.id, r.type) = k := List.mem_map

end Database

/-- How the database compares a column with a literal in a `WHERE` clause. -/
structure Collation where
  /-- Whether the two strings are the same to the database. -/
  same : String → String → Bool

namespace Collation

/-- Byte for byte. -/
def exact : Collation := ⟨fun s t => s == t⟩

@[simp] theorem exact_same (s t : String) : exact.same s t = (s == t) := rfl

end Collation

/-! ## Queries -/

/-- The `SELECT` statements. -/
inductive Query where
  /-- `SELECT * FROM nodes` -/
  | nodes
  /-- `SELECT * FROM nodes WHERE id = '..'` -/
  | node (id : String)
  /-- `SELECT * FROM sensors WHERE id = '..'` -/
  | sensors (id : String)
  /-- `SELECT * FROM sensors WHERE id = '..' AND type = '..'` -/
  | sensor (id type : String)
  /-- `SELECT max, min FROM sensors WHERE id = '..' AND type = '..'` -/
  | bounds (id type : String)
  /-- `SELECT * FROM actuators` -/
  | actuators
  /-- `SELECT * FROM actuators WHERE id = '..'` -/
  | actuator (id : String)
deriving DecidableEq

/-- The two columns of a bounds query. -/
structure Bounds where
  max : Option Int32
  min : Option Int32
deriving DecidableEq

/-- The rows a query returns. -/
abbrev Query.Row : Query → Type
  | .nodes | .node _ => NodeRow
  | .sensors _ | .sensor _ _ => SensorRow
  | .bounds _ _ => Bounds
  | .actuators | .actuator _ => ActuatorRow

/-- The result set of a query. -/
def Query.run (col : Collation) (d : Database) : (q : Query) → List q.Row
  | .nodes => d.nodes
  | .node id => d.nodes.filter fun r => col.same r.id id
  | .sensors id => d.sensors.filter fun r => col.same r.id id
  | .sensor id type => d.sensors.filter fun r => col.same r.id id && col.same r.type type
  | .bounds id type =>
    (d.sensors.filter fun r => col.same r.id id && col.same r.type type).map
      fun r => ⟨r.max, r.min⟩
  | .actuators => d.actuators
  | .actuator id => d.actuators.filter fun r => col.same r.id id

/-- The node is registered. -/
def Database.hasNode (col : Collation) (d : Database) (id : String) : Prop :=
  ∃ r ∈ d.nodes, col.same r.id id = true

/-- The type is registered for the node. -/
def Database.hasSensor (col : Collation) (d : Database) (id type : String) : Prop :=
  ∃ r ∈ d.sensors, col.same r.id id = true ∧ r.type = type

/-! ## Updates -/

/-- The statements that write. -/
inductive Update where
  /-- `INSERT INTO nodes VALUES ('..', ..)` -/
  | insertNode (id : String) (address : Option String)
  /-- `INSERT INTO sensors VALUES ('..', '..', null, null)` -/
  | insertSensor (id type : String)
  /-- `INSERT INTO actuators VALUES ('..', '..')` -/
  | insertActuator (id address : String)
  /-- `DELETE FROM nodes WHERE id = '..'` -/
  | deleteNode (id : String)
  /-- `DELETE FROM sensors WHERE id = '..'` -/
  | deleteSensors (id : String)
  /-- `DELETE FROM sensors WHERE id = '..' AND type = '..'` -/
  | deleteSensor (id type : String)
  /-- `DELETE FROM actuators WHERE id = '..'` -/
  | deleteActuator (id : String)
  /-- `UPDATE nodes SET address = '..' WHERE id = '..'` -/
  | setNodeAddress (address id : String)
  /-- `UPDATE actuators SET address = '..' WHERE id = '..'` -/
  | setActuatorAddress (address id : String)
  /-- `UPDATE sensors SET min = v WHERE id = '..' AND type = '..'` -/
  | setMin (v : Int32) (id type : String)
  /-- `UPDATE sensors SET max = v WHERE id = '..' AND type = '..'` -/
  | setMax (v : Int32) (id type : String)
  /-- `UPDATE sensors SET min = v, max = v WHERE id = '..' AND type = '..'` -/
  | setBounds (v : Int32) (id type : String)
  /-- `UPDATE sensors SET max = null, min = null WHERE id = '..' AND type = '..'` -/
  | resetBounds (id type : String)
deriving DecidableEq

namespace Database

/-- Change the rows of the `sensors` table that match a pair. -/
def mapSensors (col : Collation) (id type : String) (f : SensorRow → SensorRow) (d : Database) :
    Database :=
  { d with sensors := d.sensors.map fun r =>
      if col.same r.id id && col.same r.type type then f r else r }

/-- What a statement does to the tables. -/
def apply (col : Collation) (d : Database) : Update → Database
  | .insertNode id address => { d with nodes := d.nodes ++ [⟨id, address⟩] }
  | .insertSensor id type => { d with sensors := d.sensors ++ [⟨id, type, none, none⟩] }
  | .insertActuator id address => { d with actuators := d.actuators ++ [⟨id, some address⟩] }
  | .deleteNode id => { d with nodes := d.nodes.filter fun r => !col.same r.id id }
  | .deleteSensors id => { d with sensors := d.sensors.filter fun r => !col.same r.id id }
  | .deleteSensor id type =>
    { d with sensors := d.sensors.filter fun r => !(col.same r.id id && col.same r.type type) }
  | .deleteActuator id => { d with actuators := d.actuators.filter fun r => !col.same r.id id }
  | .setNodeAddress address id =>
    { d with nodes := d.nodes.map fun r =>
        if col.same r.id id then { r with address := some address } else r }
  | .setActuatorAddress address id =>
    { d with actuators := d.actuators.map fun r =>
        if col.same r.id id then { r with address := some address } else r }
  | .setMin v id type => d.mapSensors col id type fun r => { r with min := some v }
  | .setMax v id type => d.mapSensors col id type fun r => { r with max := some v }
  | .setBounds v id type =>
    d.mapSensors col id type fun r => { r with min := some v, max := some v }
  | .resetBounds id type => d.mapSensors col id type fun r => { r with max := none, min := none }

end Database

/-! ## Bounds -/

namespace SensorRow

/-- The bounds of a row. -/
def bounds (r : SensorRow) : Bounds := ⟨r.max, r.min⟩

/-- The same sensor with other bounds. -/
def withBounds (r : SensorRow) (b : Bounds) : SensorRow := { r with max := b.max, min := b.min }

end SensorRow

namespace Database

variable {col : Collation} {d : Database} {id type : String}

/-- Change the bounds of the rows that match a pair. -/
def mapBounds (col : Collation) (id type : String) (f : Bounds → Bounds) (d : Database) :
    Database :=
  d.mapSensors col id type fun r => r.withBounds (f r.bounds)

@[simp] theorem mapBounds_nodes (f : Bounds → Bounds) :
    (d.mapBounds col id type f).nodes = d.nodes := rfl

@[simp] theorem mapBounds_actuators (f : Bounds → Bounds) :
    (d.mapBounds col id type f).actuators = d.actuators := rfl

theorem mapBounds_sensors (f : Bounds → Bounds) : (d.mapBounds col id type f).sensors =
    d.sensors.map fun r => if col.same r.id id && col.same r.type type then
      r.withBounds (f r.bounds) else r := rfl

@[simp] theorem mapBounds_sensorKeys (f : Bounds → Bounds) :
    (d.mapBounds col id type f).sensorKeys = d.sensorKeys := by
  rw [sensorKeys, sensorKeys, mapBounds_sensors, List.map_map]
  refine List.map_congr_left fun r _ => ?_
  simp only [Function.comp]
  split <;> rfl

theorem mapBounds_mapBounds (f g : Bounds → Bounds) :
    (d.mapBounds col id type f).mapBounds col id type g =
      d.mapBounds col id type fun b => g (f b) := by
  simp only [mapBounds, mapSensors, List.map_map]
  congr 1
  refine List.map_congr_left fun r _ => ?_
  simp only [Function.comp]
  split <;> simp_all [SensorRow.withBounds, SensorRow.bounds]

theorem run_bounds_mapBounds (f : Bounds → Bounds) :
    (Query.bounds id type).run col (d.mapBounds col id type f) =
      ((Query.bounds id type).run col d).map f := by
  have hkey : ((fun r : SensorRow => col.same r.id id && col.same r.type type) ∘ fun r =>
      if col.same r.id id && col.same r.type type then r.withBounds (f r.bounds) else r) =
      fun r => col.same r.id id && col.same r.type type := by
    funext r
    simp only [Function.comp]
    split <;> rfl
  simp only [Query.run, mapBounds_sensors, List.filter_map, hkey, List.map_map]
  refine List.map_congr_left fun r hr => ?_
  simp only [Function.comp, (List.mem_filter.mp hr).2, if_true]
  rfl

theorem mapBounds_congr {f g : Bounds → Bounds} (h : ∀ r ∈ d.sensors,
    (col.same r.id id && col.same r.type type) = true → f r.bounds = g r.bounds) :
    d.mapBounds col id type f = d.mapBounds col id type g := by
  simp only [mapBounds, mapSensors]
  congr 1
  refine List.map_congr_left fun r hr => ?_
  split
  · rename_i hm
    rw [h r hr hm]
  · rfl

theorem mapBounds_id : d.mapBounds col id type (fun b => b) = d := by
  simp only [mapBounds, mapSensors, SensorRow.withBounds, SensorRow.bounds, ite_self, List.map_id']

theorem apply_setMin (v : Int32) :
    d.apply col (.setMin v id type) = d.mapBounds col id type fun b => { b with min := some v } :=
  rfl

theorem apply_setMax (v : Int32) :
    d.apply col (.setMax v id type) = d.mapBounds col id type fun b => { b with max := some v } :=
  rfl

theorem apply_setBounds (v : Int32) :
    d.apply col (.setBounds v id type) = d.mapBounds col id type fun _ => ⟨some v, some v⟩ := rfl

theorem apply_resetBounds :
    d.apply col (.resetBounds id type) = d.mapBounds col id type fun _ => ⟨none, none⟩ := rfl

/-! ## What the queries find -/

theorem run_node_eq_nil : (Query.node id).run col d = [] ↔ ¬ d.hasNode col id := by
  simp [Query.run, List.filter_eq_nil_iff, hasNode]

theorem mem_run_sensors {t : String} :
    t ∈ ((Query.sensors id).run col d).map SensorRow.type ↔ d.hasSensor col id t := by
  simp [Query.run, hasSensor, and_assoc]

theorem head_run_bounds (hcol : col.same type type = true) (h : d.hasSensor col id type) :
    ∃ b, ((Query.bounds id type).run col d).head? = some b := by
  obtain ⟨r, hr, hid, rfl⟩ := h
  have hmem : (⟨r.max, r.min⟩ : Bounds) ∈ (Query.bounds id r.type).run col d :=
    List.mem_map.mpr ⟨r, List.mem_filter.mpr ⟨hr, by simp [hid, hcol]⟩, rfl⟩
  exact ⟨_, List.head?_eq_some_head (List.ne_nil_of_mem hmem)⟩

/-! ## Exact comparison -/

@[simp] theorem hasNode_exact : d.hasNode .exact id ↔ id ∈ d.nodeIds := by
  simp [hasNode]

@[simp] theorem hasSensor_exact : d.hasSensor .exact id type ↔ (id, type) ∈ d.sensorKeys := by
  simp [hasSensor]

theorem exact_matches {r : SensorRow} :
    (Collation.exact.same r.id id && Collation.exact.same r.type type) = true ↔
      (r.id, r.type) = (id, type) := by
  simp

/-- A registered pair has one row, and its bounds are what a query finds. -/
theorem bounds_of_mem (hd : d.sensorKeys.Nodup) (h : (id, type) ∈ d.sensorKeys) :
    ∃ b, ((Query.bounds id type).run .exact d).head? = some b ∧ ∀ r ∈ d.sensors,
      (Collation.exact.same r.id id && Collation.exact.same r.type type) = true → r.bounds = b := by
  obtain ⟨r, hr, hkey⟩ := mem_sensorKeys.mp h
  have hsame : ∀ r' ∈ d.sensors, (Collation.exact.same r'.id id &&
      Collation.exact.same r'.type type) = true → r' = r := fun r' hr' hm =>
    List.inj_on_of_nodup_map hd hr' hr ((exact_matches.mp hm).trans hkey.symm)
  refine ⟨r.bounds, ?_, fun r' hr' hm => by rw [hsame r' hr' hm]⟩
  have hfilter : ∀ r' ∈ d.sensors.filter (fun r => Collation.exact.same r.id id &&
      Collation.exact.same r.type type), r' = r := fun r' hr' =>
    hsame r' (List.mem_filter.mp hr').1 (List.mem_filter.mp hr').2
  have hmem : r ∈ d.sensors.filter (fun r => Collation.exact.same r.id id &&
      Collation.exact.same r.type type) := List.mem_filter.mpr ⟨hr, exact_matches.mpr hkey⟩
  rw [Query.run]
  cases hrows : d.sensors.filter (fun r => Collation.exact.same r.id id &&
      Collation.exact.same r.type type) with
  | nil =>
    rw [hrows] at hmem
    cases hmem
  | cons r' rs =>
    rw [hfilter r' (hrows ▸ List.mem_cons_self)]
    rfl

end Database

end CrossingReality
