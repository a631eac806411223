import CrossingReality.Bodies
import CrossingReality.Formats.QuotedLiteral

/-!
# The texts of the statements

A statement is put together by splicing strings between single quotes as they are. The database
reads it as it was meant if and only if every string is plain; the ids and types of readings, and
the ids the virtual world posts, are spliced unchecked.

* `Spliced.intended_iff` — one statement.
* `remote_intended_iff` — the statements of a reading and of a command.
-/

namespace CrossingReality

open Effects Formats QuotedLiteral

/-- A statement with the strings spliced into it. -/
structure Spliced where
  template : Template
  strings : List (List Char)
  fits : template.after.length = strings.length

namespace Spliced

/-- The text that is sent. -/
def text (s : Spliced) : List Char := s.template.fill s.strings

/-- The text is read as one statement of the intended shape, with these strings as literals. -/
def Intended (s : Spliced) : Prop := lex none s.text = some (s.template.tokens s.strings)

instance (s : Spliced) : Decidable s.Intended := inferInstanceAs (Decidable (_ = _))

/-- **Splicing.** A statement is read as it was meant if and only if its strings are plain. -/
theorem intended_iff (s : Spliced) : s.Intended ↔ ∀ x ∈ s.strings, plain x = true :=
  Template.lex_fill_iff s.fits

end Spliced

/-! ## Numbers -/

theorem not_quote_of_isDigit {c : Char} (h : c.isDigit = true) : c ≠ '\'' := by
  rintro rfl
  cases h

theorem quote_not_mem_natRepr (n : Nat) : '\'' ∉ n.repr.toList := by
  rw [Nat.toList_repr]
  exact fun h => not_quote_of_isDigit (Nat.isDigit_of_mem_toDigits (by decide) (by decide) h) rfl

/-- A number is spliced without quotes, and has none. -/
@[simp] theorem quote_not_mem_repr (n : Int) : '\'' ∉ n.repr.toList := by
  cases n with
  | ofNat n => exact quote_not_mem_natRepr n
  | negSucc n =>
    change '\'' ∉ ("-" ++ (n + 1).repr).toList
    simpa using quote_not_mem_natRepr (n + 1)

/-! ## The statements -/

/-- The text before the first slot and the texts after each hold no quote, and slots do not meet. -/
def Unquoted (before : String) (after : List String) : Prop :=
  '\'' ∉ before.toList ∧ (∀ t ∈ after, '\'' ∉ t.toList) ∧ ∀ t ∈ after.dropLast, t ≠ ""

instance (before : String) (after : List String) : Decidable (Unquoted before after) :=
  inferInstanceAs (Decidable (_ ∧ _ ∧ _))

/-- A statement written with slots. -/
def slots (before : String) (after : List String) (h : Unquoted before after := by decide) :
    Template where
  first := before.toList
  after := after.map String.toList
  first_unquoted := h.1
  after_unquoted := by simpa using h.2.1
  apart := by simpa [← List.map_dropLast] using h.2.2

/-- The text of a query, as `sensed` and the handler write it. Elsewhere some of the keywords are
in the other case. -/
def Query.sql : Query → Spliced
  | .nodes => ⟨slots "SELECT * FROM nodes" [], [], rfl⟩
  | .node id => ⟨slots "SELECT * FROM nodes WHERE id = " [""], [id.toList], rfl⟩
  | .sensors id => ⟨slots "SELECT * FROM sensors where id = " [""], [id.toList], rfl⟩
  | .sensor id type =>
    ⟨slots "SELECT * FROM sensors WHERE id = " [" AND type = ", ""], [id.toList, type.toList], rfl⟩
  | .bounds id type =>
    ⟨slots "SELECT max, min FROM sensors WHERE id = " [" and type = ", ""],
      [id.toList, type.toList], rfl⟩
  | .actuators => ⟨slots "SELECT * FROM actuators" [], [], rfl⟩
  | .actuator id => ⟨slots "SELECT * FROM actuators where id = " [""], [id.toList], rfl⟩

/-- An assignment of numbers for the rows of a sensor. -/
def updateSensors (assignment : String) (h : '\'' ∉ assignment.toList) (id type : String) :
    Spliced :=
  ⟨slots ("UPDATE sensors SET " ++ assignment ++ " WHERE id = ") [" AND type = ", ""]
    ⟨by simpa using h, by decide, by decide⟩, [id.toList, type.toList], rfl⟩

/-- The text of a statement that writes. -/
def Update.sql : Update → Spliced
  | .insertNode id none => ⟨slots "INSERT INTO nodes VALUES (" [", null)"], [id.toList], rfl⟩
  | .insertNode id (some address) =>
    ⟨slots "INSERT INTO nodes VALUES (" [",", ")"], [id.toList, address.toList], rfl⟩
  | .insertSensor id type =>
    ⟨slots "INSERT INTO sensors VALUES (" [", ", ", null, null)"], [id.toList, type.toList], rfl⟩
  | .insertActuator id address =>
    ⟨slots "INSERT INTO actuators VALUES (" [", ", ")"], [id.toList, address.toList], rfl⟩
  | .deleteNode id => ⟨slots "DELETE FROM nodes WHERE id = " [""], [id.toList], rfl⟩
  | .deleteSensors id => ⟨slots "DELETE FROM sensors WHERE id = " [""], [id.toList], rfl⟩
  | .deleteSensor id type =>
    ⟨slots "DELETE FROM sensors WHERE id = " [" AND type = ", ""], [id.toList, type.toList], rfl⟩
  | .deleteActuator id => ⟨slots "DELETE FROM actuators WHERE id = " [""], [id.toList], rfl⟩
  | .setNodeAddress address id =>
    ⟨slots "UPDATE nodes SET address = " [" WHERE id = ", ""], [address.toList, id.toList], rfl⟩
  | .setActuatorAddress address id =>
    ⟨slots "UPDATE actuators SET address = " [" WHERE id = ", ""], [address.toList, id.toList],
      rfl⟩
  | .setMin v id type =>
    updateSensors ("min = " ++ toString v.toInt) (by simp) id type
  | .setMax v id type =>
    updateSensors ("max = " ++ toString v.toInt) (by simp) id type
  | .setBounds v id type =>
    updateSensors ("min = " ++ toString v.toInt ++ ", max = " ++ toString v.toInt)
      (by simp) id type
  | .resetBounds id type =>
    ⟨slots "UPDATE sensors SET max = null, min = null where id = " [" and type = ", ""],
      [id.toList, type.toList], rfl⟩

example : (Query.node "a'b").sql.text = "SELECT * FROM nodes WHERE id = 'a'b'".toList := by decide

/-- The text of a call that sends a statement. -/
def Call.sql : Call → Option Spliced
  | .executeQuery _ q => some q.sql
  | .executeUpdate _ u => some u.sql
  | _ => none

/-! ## Remote strings -/

/-- **Remote strings.** Take the id and the type of a reading, and an id posted by the virtual
world. Every statement the program can make from them is read as it was meant if and only if the
three are plain. -/
theorem remote_intended_iff (id type posted : String) :
    (∀ c : Call, ∀ s ∈ c.sql, s.strings ⊆ [id.toList, type.toList, posted.toList] → s.Intended) ↔
      plain id.toList = true ∧ plain type.toList = true ∧ plain posted.toList = true := by
  constructor
  · intro h
    have hbounds := (Spliced.intended_iff _).mp
      (h (.executeQuery ⟨0, ""⟩ (.bounds id type)) _ rfl (by simp [Query.sql]))
    have hactuator := (Spliced.intended_iff _).mp
      (h (.executeQuery ⟨0, ""⟩ (.actuator posted)) _ rfl (by simp [Query.sql]))
    simp only [Query.sql, List.forall_mem_cons] at hbounds hactuator
    exact ⟨hbounds.1, hbounds.2.1, hactuator.1⟩
  · rintro ⟨hid, htype, hposted⟩ c s - hs
    refine s.intended_iff.mpr fun x hx => ?_
    have hmem := hs hx
    simp only [List.mem_cons, List.not_mem_nil, or_false] at hmem
    obtain rfl | rfl | rfl := hmem
    · exact hid
    · exact htype
    · exact hposted

/-- The node query for the id `x' OR '1'='1` asks for every node. -/
theorem not_always_intended : ¬ ∀ (id type posted : String) (c : Call), ∀ s ∈ c.sql,
    s.strings ⊆ [id.toList, type.toList, posted.toList] → s.Intended := by
  intro h
  have hnode := h "x' OR '1'='1" "light" "1" (.executeQuery ⟨0, ""⟩ (.node "x' OR '1'='1")) _ rfl
    (by decide)
  revert hnode
  decide

/-! ## Where the strings go -/

theorem strings_of_ofReading {id type : String} {u : Update} (h : u.ofReading id type) :
    u.sql.strings ⊆ [id.toList, type.toList] := by
  rcases h with rfl | h
  · simp [Update.sql]
  · cases u <;> first | exact h.elim | (obtain ⟨rfl, rfl⟩ := h; simp [Update.sql, updateSensors])

section Runs

variable [Jdk] {col : Collation} {w w' : World} {l : List (Event calls World)}

/-- A reading writes with its own strings, and with no others. -/
theorem sensed_strings {id type : String} {value : Int32} {r : Except Exn Bool}
    (hrun : Runs (under col anyFault) (sensed id type value) w l r w') :
    ∀ e ∈ l, ∀ k u, e.call = .executeUpdate k u → u.sql.strings ⊆ [id.toList, type.toList] := by
  intro e he k u hcall
  have huse := hrun.calls_of_uses (uses_sensed value) e he
  rw [hcall] at huse
  exact strings_of_ofReading huse

/-- A command is looked up with its id. -/
theorem handleCommand_strings {ex : HttpExchange} {id action : String} {r : Except Exn Unit}
    (hrun : Runs (under col anyFault) (handleCommand ex id action) w l r w') :
    ∀ e ∈ l, ∀ k q, e.call = .executeQuery k q → q.sql.strings = [id.toList] := by
  intro e he k q hcall
  have huse := hrun.calls_of_uses uses_handleCommand e he
  rw [hcall] at huse
  obtain rfl : q = .actuator id := huse
  rfl

end Runs

end CrossingReality
