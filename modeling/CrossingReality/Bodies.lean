import CrossingReality.Commands
import CrossingReality.Encoding

/-!
# What the handler reads

The handler cuts the body of a request at its separators and takes the pieces as they are, where
the sender has encoded them. It reads back what was sent if and only if the encoding changed
nothing.

* `handle_actuatorForm` — the handler takes the encoded strings for the command.
* `handle_relays_iff` — when that is the command that was sent.
-/

namespace CrossingReality

open Effects Formats

/-! ## Strings that encode to themselves -/

/-- A character that `URLEncoder` leaves as it is. -/
def unreserved (c : Char) : Bool :=
  c.isAlphanum || c == '.' || c == '-' || c == '*' || c == '_'

theorem urlEncodeChar_ne_nil (c : Char) : urlEncodeChar c ≠ [] := by
  unfold urlEncodeChar
  split
  · simp
  · split
    · simp
    · cases h : String.utf8EncodeChar c with
      | nil => exact absurd h String.utf8EncodeChar_ne_nil
      | cons b bs => simp [percentEscape]

theorem unreserved_of_urlEncodeChar {c : Char} (h : urlEncodeChar c = [c]) :
    unreserved c = true := by
  unfold urlEncodeChar at h
  split at h
  · assumption
  · split at h
    · rename_i hblank
      obtain rfl : c = ' ' := beq_iff_eq.mp hblank
      cases h
    · cases hc : String.utf8EncodeChar c with
      | nil => exact absurd hc String.utf8EncodeChar_ne_nil
      | cons b bs => simp [hc, percentEscape] at h

theorem length_le_flatMap_urlEncodeChar (l : List Char) :
    l.length ≤ (l.flatMap urlEncodeChar).length := by
  induction l with
  | nil => exact Nat.zero_le _
  | cons c l ih =>
    have := List.length_pos_of_ne_nil (urlEncodeChar_ne_nil c)
    simp only [List.flatMap_cons, List.length_append, List.length_cons]
    omega

theorem flatMap_urlEncodeChar_eq_self {l : List Char} :
    l.flatMap urlEncodeChar = l ↔ ∀ c ∈ l, unreserved c = true := by
  induction l with
  | nil => simp
  | cons c l ih =>
    rw [List.flatMap_cons, List.forall_mem_cons]
    constructor
    · intro h
      -- The code of the first character takes as much room as it, for the rest takes no less.
      have hlen := congrArg List.length h
      have hrest := length_le_flatMap_urlEncodeChar l
      have hpos := List.length_pos_of_ne_nil (urlEncodeChar_ne_nil c)
      simp only [List.length_append, List.length_cons] at hlen
      obtain ⟨d, hd⟩ := List.length_eq_one_iff.mp (show (urlEncodeChar c).length = 1 by omega)
      rw [hd, List.singleton_append, List.cons.injEq] at h
      obtain ⟨rfl, h⟩ := h
      exact ⟨unreserved_of_urlEncodeChar hd, ih.mp h⟩
    · rintro ⟨hc, hl⟩
      have hself : urlEncodeChar c = [c] := if_pos hc
      rw [hself, ih.mpr hl, List.singleton_append]

/-- A string encodes to itself if and only if no character of it is escaped. -/
theorem urlEncode_eq_self {s : String} :
    urlEncode s = s ↔ ∀ c ∈ s.toList, unreserved c = true := by
  rw [← flatMap_urlEncodeChar_eq_self, urlEncode, ← String.toList_inj, String.toList_ofList]

/-! ## The characters of an encoded string -/

theorem hexDigit_printable : ∀ n < 16, ' ' < hexDigit n ∧ (hexDigit n).toNat < 128 := by decide

theorem printable_of_isAlphanum {c : Char} (h : c.isAlphanum = true) :
    ' ' < c ∧ c.toNat < 128 := by
  change ((decide (c.val ≥ 'A'.val ∧ c.val ≤ 'Z'.val) || (c.val ≥ 'a'.val && c.val ≤ 'z'.val)) ||
    (c.val ≥ '0'.val && c.val ≤ '9'.val)) = true at h
  simp only [Bool.or_eq_true, Bool.and_eq_true, decide_eq_true_eq, UInt32.le_iff_toNat_le,
    ge_iff_le] at h
  rw [Char.lt_def, UInt32.lt_iff_toNat_lt]
  change 32 < c.toNat ∧ c.toNat < 128
  change ((65 ≤ c.toNat ∧ c.toNat ≤ 90) ∨ 97 ≤ c.toNat ∧ c.toNat ≤ 122) ∨
    48 ≤ c.toNat ∧ c.toNat ≤ 57 at h
  omega

theorem urlEncodeChar_printable {c x : Char} (h : x ∈ urlEncodeChar c) :
    ' ' < x ∧ x.toNat < 128 := by
  unfold urlEncodeChar at h
  split at h
  · rename_i hplain
    obtain rfl := List.mem_singleton.mp h
    simp only [Bool.or_eq_true, beq_iff_eq] at hplain
    obtain (((hplain | rfl) | rfl) | rfl) | rfl := hplain
    · exact printable_of_isAlphanum hplain
    all_goals decide
  · split at h
    · obtain rfl := List.mem_singleton.mp h
      decide
    · obtain ⟨b, -, hx⟩ := List.mem_flatMap.mp h
      have hb := b.toNat_lt
      obtain rfl | rfl | rfl : x = '%' ∨ x = hexDigit (b.toNat / 16) ∨
        x = hexDigit (b.toNat % 16) := by simpa [percentEscape] using hx
      · decide
      · exact hexDigit_printable _ (by omega)
      · exact hexDigit_printable _ (by omega)

theorem urlEncode_printable {s : String} {x : Char} (h : x ∈ (urlEncode s).toList) :
    ' ' < x ∧ x.toNat < 128 := by
  rw [urlEncode, String.toList_ofList] at h
  obtain ⟨c, -, hx⟩ := List.mem_flatMap.mp h
  exact urlEncodeChar_printable hx

/-! ## Reading a form -/

/-- The body that `ActuatorSim.main` posts. -/
def actuatorForm (id action : String) : String :=
  urlEncode "id" ++ "=" ++ urlEncode id ++ "&" ++ urlEncode "action" ++ "=" ++ urlEncode action

/-- An ASCII text as bytes. -/
def asciiBytes (s : String) : List UInt8 := s.toList.map fun c => UInt8.ofNat c.toNat

/-- The platform's charset reads ASCII as it is. -/
def ReadsAscii [Jdk] : Prop :=
  ∀ s : String, (∀ c ∈ s.toList, c.toNat < 128) → Jdk.decode (asciiBytes s) = s

theorem urlEncode_ne_nil {s : String} (h : s ≠ "") : (urlEncode s).toList ≠ [] := by
  have hs : s.toList ≠ [] := fun h' => h (String.toList_eq_nil_iff.mp h')
  have hpos := List.length_pos_of_ne_nil hs
  have hlen := length_le_flatMap_urlEncodeChar s.toList
  rw [urlEncode, String.toList_ofList]
  exact List.ne_nil_of_length_pos (by omega)

/-- The value of a pair is what follows its `=`. -/
theorem valueOf_pair {name value : List Char} (hname : '=' ∉ name) (hvalue : '=' ∉ value)
    (hne : value ≠ []) :
    valueOf (String.ofList (name ++ '=' :: value)) = some (String.ofList value) := by
  rw [valueOf, split_pair hname hvalue hne]
  rfl

/-- The handler takes the pieces between the separators, and drops what pads the buffer. -/
theorem parseBody_padded {id action : List Char} (hid : '&' ∉ id ∧ '=' ∉ id ∧ id ≠ [])
    (haction : '&' ∉ action ∧ '=' ∉ action ∧ action ≠ []) (hblank : ∀ c ∈ action, ' ' < c)
    (n : Nat) :
    parseBody (String.ofList (("id".toList ++ '=' :: id) ++ '&' :: ("action".toList ++
      '=' :: (action ++ List.replicate n '\x00')))) =
      some (String.ofList id, String.ofList action) := by
  have hpad : ∀ c ∈ List.replicate n '\x00', c = '\x00' := fun c => List.eq_of_mem_replicate
  have hamp : '&' ∉ action ++ List.replicate n '\x00' := fun h =>
    (List.mem_append.mp h).elim haction.1 fun h => absurd (hpad _ h) (by decide)
  have heq : '=' ∉ action ++ List.replicate n '\x00' := fun h =>
    (List.mem_append.mp h).elim haction.2.1 fun h => absurd (hpad _ h) (by decide)
  have hsplit := @split_pair ("id".toList ++ '=' :: id)
    ("action".toList ++ '=' :: (action ++ List.replicate n '\x00')) '&'
    (by simpa using hid.1) (by simpa using hamp) (by simp)
  have hfirst := @valueOf_pair "id".toList _ (by decide) hid.2.1 hid.2.2
  have hsecond := @valueOf_pair "action".toList _ (by decide) heq (by simp [haction.2.2])
  have htrim := trim_padded hblank haction.2.2 fun c hc => (by rw [hpad c hc]; decide)
  rw [parseBody, hsplit]
  simp only [List.getElem?_cons_zero, List.getElem?_cons_succ, Option.bind_eq_bind,
    Option.bind_some, hfirst, hsecond, htrim]
  rfl

theorem toList_actuatorForm (id action : String) : (actuatorForm id action).toList =
    ("id".toList ++ '=' :: (urlEncode id).toList) ++
      '&' :: ("action".toList ++ '=' :: (urlEncode action).toList) := by
  have hid : urlEncode "id" = "id" := by decide
  have haction : urlEncode "action" = "action" := by decide
  simp [actuatorForm, hid, haction]

theorem toNat_lt_actuatorForm {id action : String} {c : Char}
    (h : c ∈ (actuatorForm id action).toList) : c.toNat < 128 := by
  have hid : ∀ c ∈ "id".toList, c.toNat < 128 := by simp
  have haction : ∀ c ∈ "action".toList, c.toNat < 128 := by simp
  rw [toList_actuatorForm] at h
  simp only [List.mem_append, List.mem_cons] at h
  obtain (h | rfl | h) | rfl | h | rfl | h := h
  · exact hid c h
  · decide
  · exact (urlEncode_printable h).2
  · decide
  · exact haction c h
  · decide
  · exact (urlEncode_printable h).2

/-- **Reading.** The handler runs the command of the encoded strings. -/
theorem handle_actuatorForm [Jdk] {ex : HttpExchange} {id action : String} (hread : ReadsAscii)
    (hmethod : sameIgnoringCase ex.method "POST" = true) (hid : id ≠ "") (haction : action ≠ "")
    (hbody : ex.body.head? = some (asciiBytes (actuatorForm id action)))
    (hfits : (asciiBytes (actuatorForm id action)).length ≤ 32) :
    handle ex = handleCommand ex (urlEncode id) (urlEncode action) := by
  have hencoded : ∀ {s : String}, s ≠ "" → '&' ∉ (urlEncode s).toList ∧
      '=' ∉ (urlEncode s).toList ∧ (urlEncode s).toList ≠ [] := fun {s} h =>
    ⟨(escapes_urlEncode s).amp, (escapes_urlEncode s).eq, urlEncode_ne_nil h⟩
  -- The buffer holds the form and what is left of its zeros.
  obtain ⟨n, hbuffer⟩ : ∃ n, readBody ex = asciiBytes (String.ofList
      ((actuatorForm id action).toList ++ List.replicate n '\x00')) := by
    refine ⟨32 - (asciiBytes (actuatorForm id action)).length, ?_⟩
    have hhead : ex.body.headD [] = asciiBytes (actuatorForm id action) := by
      rw [List.headD_eq_head?_getD, hbody, Option.getD_some]
    rw [readBody, hhead, List.take_of_length_le hfits]
    simp [asciiBytes]
  have htext : Jdk.decode (readBody ex) = String.ofList
      ((actuatorForm id action).toList ++ List.replicate n '\x00') := by
    rw [hbuffer]
    refine hread _ fun c hc => ?_
    rw [String.toList_ofList] at hc
    rcases List.mem_append.mp hc with hc | hc
    · exact toNat_lt_actuatorForm hc
    · rw [List.eq_of_mem_replicate hc]
      decide
  have hparse := parseBody_padded (hencoded hid) (hencoded haction)
    (fun c hc => (urlEncode_printable hc).1) n
  rw [String.ofList_toList, String.ofList_toList] at hparse
  have hform : parseBody (Jdk.decode (readBody ex)) = some (urlEncode id, urlEncode action) := by
    rw [htext, toList_actuatorForm, ← hparse]
    simp
  simp [handle, hmethod, hform]

/-! ## What is looked up and forwarded -/

/-- The actuator a call looks up. -/
def lookedUp (e : Event calls World) : Option String :=
  match e.call with
  | .executeQuery _ (.actuator id) => some id
  | _ => none

/-- The command a call forwards. -/
def commanded (e : Event calls World) : Option (String × String) :=
  match e.call with
  | .execute _ id action => some (id, action)
  | _ => none

/-- The calls that look an actuator up, or respond. -/
def Call.looksUp (id : String) : Call → Prop
  | .executeQuery _ q => q = .actuator id
  | .execute _ _ _ => False
  | _ => True

/-- The calls of a command for an actuator. -/
def Call.commands (id action : String) : Call → Prop
  | .executeQuery _ q => q = .actuator id
  | .execute _ i a => i = id ∧ a = action
  | _ => True

theorem commands_of_looksUp {id : String} (action : String) (c : Call) (h : c.looksUp id) :
    c.commands id action := by
  cases c <;> first | exact h | exact h.elim

variable {id action : String} {ex : HttpExchange}

theorem uses_badRequest (m : Message) :
    (badRequest ex m).Uses (Call.looksUp id) fun _ => True :=
  ⟨trivial, fun _ => ⟨trivial, fun _ => trivial⟩⟩

theorem uses_openForHandler : (openForHandler ex).Uses (Call.looksUp id) fun _ => True := by
  have hbad : ∀ m, (do badRequest ex m; return none : Panel (Option Connection)).Uses
      (Call.looksUp id) fun _ => True := fun m => (uses_badRequest m).bind fun _ => trivial
  simp only [openForHandler, uses_call_bind]
  refine ⟨trivial, fun ok => Program.uses_ite _ (hbad _) ?_⟩
  refine ⟨trivial, fun _ => ⟨trivial, fun connect => ?_⟩⟩
  cases connect with
  | none => exact hbad _
  | some connect =>
    refine ⟨trivial, fun _ => ⟨trivial, fun ok => ?_⟩⟩
    exact Program.uses_ite _ (hbad _) trivial

theorem uses_lookUpActuator : (lookUpActuator ex id).Uses (Call.looksUp id) fun _ => True := by
  have hbad : ∀ m, (do badRequest ex m; return none : Panel (Option ActuatorRow)).Uses
      (Call.looksUp id) fun _ => True := fun m => (uses_badRequest m).bind fun _ => trivial
  refine uses_bindOption uses_openForHandler trivial fun connect => ?_
  simp only [uses_call_bind]
  refine ⟨rfl, fun rows => ?_⟩
  cases rows with
  | none => exact hbad _
  | some rows =>
    refine uses_bindOption ?_ (hbad _) fun row => ?_
    · simp [firstRow, Call.looksUp]
    · refine .bind ?_ fun _ => trivial
      simp [closeConnection, appendToOutputOf, appendToOutput, Call.looksUp]

theorem uses_SendXMLRPCRequest [Jdk] (address : Option String) :
    (SendXMLRPCRequest address id action).Uses (Call.commands id action) fun _ => True := by
  unfold SendXMLRPCRequest
  cases address.filter fun a => parsesURL (some a) with
  | none => exact ⟨trivial, fun _ => trivial⟩
  | some address =>
    refine ⟨⟨rfl, rfl⟩, fun reply => ?_⟩
    cases reply with
    | result | null | object => trivial
    | fault => exact ⟨trivial, fun _ => trivial⟩

/-- A command is looked up and forwarded under its own strings. -/
theorem uses_handleCommand [Jdk] :
    (handleCommand ex id action).Uses (Call.commands id action) fun _ => True := by
  have hbad : ∀ m, (badRequest ex m).Uses (Call.commands id action) fun _ => True := fun m =>
    (uses_badRequest m).mono (commands_of_looksUp action) fun _ h => h
  refine uses_bindOption (uses_lookUpActuator.mono (commands_of_looksUp action) fun _ h => h)
    trivial fun row => ?_
  simp only [appendToOutput, isSelected, uses_call_bind]
  refine ⟨trivial, fun _ => ⟨trivial, fun paused => Program.uses_ite _ (hbad _) ?_⟩⟩
  simp only [forwardCommand, appendToOutput, uses_call_bind]
  refine ⟨trivial, fun _ => .bind (uses_SendXMLRPCRequest _) fun ok => ?_⟩
  exact Program.uses_ite _ ⟨trivial, fun _ => ⟨trivial, fun _ => trivial⟩⟩ (hbad _)

/-- Every actuator looked up is the given one. -/
def LooksUp (id : String) (l : List (Event calls World)) : Prop :=
  ∀ i ∈ l.filterMap lookedUp, i = id

/-- Every command forwarded is the given one. -/
def Forwards (id action : String) (l : List (Event calls World)) : Prop :=
  ∀ c ∈ l.filterMap commanded, c = (id, action)

theorem forall_mem_eq_iff {α : Type} {l : List α} {a b : α} (hne : l ≠ [])
    (h : ∀ x ∈ l, x = a) : (∀ x ∈ l, x = b) ↔ a = b := by
  constructor
  · intro hb
    obtain ⟨x, hx⟩ := List.exists_mem_of_ne_nil l hne
    rw [← h x hx, hb x hx]
  · rintro rfl
    exact h

section Runs

variable [Jdk] {col : Collation} {w w' : World} {l : List (Event calls World)} {r : Except Exn Unit}
  {id action : String} {ex : HttpExchange}

/-- What is looked up in an execution of a command is its id. -/
theorem looksUp_handleCommand
    (hrun : Runs (under col anyFault) (handleCommand ex id action) w l r w') : LooksUp id l := by
  intro i hi
  obtain ⟨⟨w, c, x⟩, he, hc⟩ := List.mem_filterMap.mp hi
  have huse := hrun.calls_of_uses uses_handleCommand _ he
  cases c with
  | executeQuery k q =>
    obtain rfl : q = .actuator id := huse
    exact (Option.some_inj.mp hc).symm
  | _ => cases hc

/-- What is forwarded in an execution of a command is that command. -/
theorem forwards_handleCommand
    (hrun : Runs (under col anyFault) (handleCommand ex id action) w l r w') :
    Forwards id action l := by
  intro d hd
  obtain ⟨⟨w, c, x⟩, he, hc⟩ := List.mem_filterMap.mp hd
  have huse := hrun.calls_of_uses uses_handleCommand _ he
  cases c with
  | execute address i a =>
    obtain ⟨rfl, rfl⟩ : i = id ∧ a = action := huse
    exact (Option.some_inj.mp hc).symm
  | _ => cases hc

/-- **Relaying.** Take a request with the form for a command, which arrives in one piece and fits
in the buffer. Where the handler looks up an actuator, it is the one of the command if and only if
no character of the id is escaped. Where it forwards a command, it is that command if and only if
no character of the id and the action is. -/
theorem handle_relays_iff (hread : ReadsAscii) (hmethod : sameIgnoringCase ex.method "POST" = true)
    (hid : id ≠ "") (haction : action ≠ "")
    (hbody : ex.body.head? = some (asciiBytes (actuatorForm id action)))
    (hfits : (asciiBytes (actuatorForm id action)).length ≤ 32)
    (hrun : Runs (under col anyFault) (handle ex) w l r w') :
    (l.filterMap lookedUp ≠ [] → (LooksUp id l ↔ ∀ c ∈ id.toList, unreserved c = true)) ∧
    (l.filterMap commanded ≠ [] → (Forwards id action l ↔
      ∀ c ∈ id.toList ++ action.toList, unreserved c = true)) := by
  rw [handle_actuatorForm hread hmethod hid haction hbody hfits] at hrun
  refine ⟨fun hne => ?_, fun hne => ?_⟩
  · rw [← urlEncode_eq_self]
    exact forall_mem_eq_iff hne (looksUp_handleCommand hrun)
  · rw [List.forall_mem_append, ← urlEncode_eq_self, ← urlEncode_eq_self, ← Prod.mk.injEq]
    exact forall_mem_eq_iff hne (forwards_handleCommand hrun)

end Runs

/-! ## An escaped command -/

/-- Handle the form for a command, with nothing failing. -/
def handleForm (id action : String) : List (Event calls World) × Except Exn Unit × World :=
  (machine .exact).play .fine (@handle plainJdk ⟨"POST", [asciiBytes (actuatorForm id action)], []⟩)
    [] actuatorWorld

theorem runs_handleForm (id action : String) : Runs (under .exact anyFault)
    (@handle plainJdk ⟨"POST", [asciiBytes (actuatorForm id action)], []⟩) actuatorWorld
    (handleForm id action).1 (handleForm id action).2.1 (handleForm id action).2.2 :=
  runs_play_anyFault _ _ _

theorem readsAscii_plainJdk : @ReadsAscii plainJdk := by
  intro s hs
  change String.ofList ((s.toList.map fun c => UInt8.ofNat c.toNat).map
    fun b => Char.ofNat b.toNat) = s
  have hself : ∀ c ∈ s.toList, Char.ofNat (UInt8.ofNat c.toNat).toNat = c := by
    intro c hc
    rw [UInt8.toNat_ofNat_of_lt' ((hs c hc).trans (by decide)), Char.ofNat_toNat]
  have hmap : (s.toList.map fun c => UInt8.ofNat c.toNat).map (fun b => Char.ofNat b.toNat) =
      s.toList := by
    rw [List.map_map]
    exact (List.map_congr_left hself).trans (List.map_id' _)
  rw [hmap, String.ofList_toList]

/-- The id `a b` is looked up as `a+b`. -/
theorem not_always_looksUp : ¬ ∀ (jdk : Jdk) (col : Collation) (ex : HttpExchange)
    (id action : String) (w w' : World) (l : List (Event calls World)) (r : Except Exn Unit),
    @ReadsAscii jdk → @sameIgnoringCase jdk ex.method "POST" = true → id ≠ "" → action ≠ "" →
    ex.body.head? = some (asciiBytes (actuatorForm id action)) →
    (asciiBytes (actuatorForm id action)).length ≤ 32 →
    Runs (under col anyFault) (@handle jdk ex) w l r w' →
    LooksUp id l ∧ Forwards id action l := by
  intro h
  have hid := (h plainJdk .exact _ "a b" "on" _ _ _ _ readsAscii_plainJdk (by decide) (by decide)
    (by decide) rfl (by decide) (runs_handleForm "a b" "on")).1 "a+b" (by decide +kernel)
  exact absurd hid (by decide)

/-- The command `on` for the actuator `1` is relayed. -/
theorem handleForm_relays_iff :
    (LooksUp "1" (handleForm "1" "on").1 ↔ ∀ c ∈ "1".toList, unreserved c = true) ∧
    (Forwards "1" "on" (handleForm "1" "on").1 ↔
      ∀ c ∈ "1".toList ++ "on".toList, unreserved c = true) := by
  obtain ⟨hlookup, hforward⟩ := @handle_relays_iff plainJdk _ _ _ _ _ _ _ _ readsAscii_plainJdk
    (by decide) (by decide) (by decide) rfl (by decide) (runs_handleForm "1" "on")
  exact ⟨hlookup (by decide +kernel), hforward (by decide +kernel)⟩

end CrossingReality
