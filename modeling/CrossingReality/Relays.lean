import CrossingReality.ActuatorRPCServer
import CrossingReality.Bodies
import CrossingReality.Effects.Session

/-!
# What the virtual world is told, and what the relays do

A request is answered 200 only when `control` returned true, and `control` returns true only when
it has switched a relay. Sending the answer is taken not to fail.

**Theorem (`session_holds`).** After any requests, a relay is as the last request for it that was
answered 200 asked, and the other requests have changed nothing.
-/

namespace CrossingReality

open Effects

section Relays

variable [Jdk] [Digits] {col : Collation} {w w' : World} {kit kit' : Kit}

/-! ## The method -/

/-- The relays, by the id of their light. -/
inductive Relay : Int32 → Nat → Prop
  | blue : Relay 1 7
  | red : Relay 2 6

/-- What an action asks of a relay. -/
def Asks (action : String) (state : Bool) : Prop :=
  sameIgnoringCase action "on" = true ∧ state = false ∨
    sameIgnoringCase action "off" = true ∧ state = true

omit [Jdk] [Digits] in
theorem Relay.output_ne {n m : Int32} {i j : Nat} (h : Relay n i) (h' : Relay m j) (hne : n ≠ m) :
    i ≠ j := by
  cases h <;> cases h' <;> first | exact absurd rfl hne | decide

/-- What one command did: it switched the relay it names, or nothing. -/
inductive Served (id action : String) (kit : Kit) : XmlRpcReply → Kit → Prop
  | switched {n : Int32} {output : Nat} {state : Bool} {outputs : Nat → Bool}
      (hid : parseInt id = some n) (hrelay : Relay n output) (hasks : Asks action state)
      (hkit : kit = some outputs) : Served id action kit (.result true)
        (some (Function.update outputs output state))
  | not {reply : XmlRpcReply} (hreply : reply ≠ .result true) : Served id action kit reply kit

theorem served_switchRelay {id action : String} {n : Int32} {output : Nat} {state : Bool}
    {fails : Bool} (hid : parseInt id = some n) (hrelay : Relay n output)
    (hasks : Asks action state)
    (h : kitMachine.play fails (control id action) [] kit =
      kitMachine.play fails (switchRelay output state) [] kit) :
    Served id action kit (serve fails id action kit).1 (serve fails id action kit).2 := by
  cases kit with
  | none =>
    have hserve : serve fails id action none = (.fault, none) := by
      rw [serve, h]
      rfl
    rw [hserve]
    exact .not nofun
  | some outputs =>
    cases fails with
    | true =>
      have hserve : serve true id action (some outputs) = (.result false, some outputs) := by
        rw [serve, h]
        rfl
      rw [hserve]
      exact .not nofun
    | false =>
      have hserve : serve false id action (some outputs) =
          (.result true, some (Function.update outputs output state)) := by
        rw [serve, h]
        rfl
      rw [hserve]
      exact .switched hid hrelay hasks rfl

/-- **Serving.** A command comes back with true if and only if a relay was switched. -/
theorem served (fails : Bool) (id action : String) (kit : Kit) :
    Served id action kit (serve fails id action kit).1 (serve fails id action kit).2 := by
  cases hid : parseInt id with
  | none =>
    have hserve : serve fails id action kit = (.fault, kit) := by
      simp only [serve, control, parseId, hid]
      rfl
    rw [hserve]
    exact .not nofun
  | some n =>
    have hcontrol : control id action =
        if n == 1 && sameIgnoringCase action "on" then switchRelay 7 false
        else if n == 1 && sameIgnoringCase action "off" then switchRelay 7 true
        else if n == 2 && sameIgnoringCase action "on" then switchRelay 6 false
        else if n == 2 && sameIgnoringCase action "off" then switchRelay 6 true
        else pure false := by
      simp only [control, parseId, hid, pure_bind]
    split at hcontrol
    · rename_i h
      obtain ⟨rfl, hon⟩ : n = 1 ∧ sameIgnoringCase action "on" = true := by simpa using h
      exact served_switchRelay hid .blue (.inl ⟨hon, rfl⟩) (by rw [hcontrol])
    split at hcontrol
    · rename_i h
      obtain ⟨rfl, hoff⟩ : n = 1 ∧ sameIgnoringCase action "off" = true := by simpa using h
      exact served_switchRelay hid .blue (.inr ⟨hoff, rfl⟩) (by rw [hcontrol])
    split at hcontrol
    · rename_i h
      obtain ⟨rfl, hon⟩ : n = 2 ∧ sameIgnoringCase action "on" = true := by simpa using h
      exact served_switchRelay hid .red (.inl ⟨hon, rfl⟩) (by rw [hcontrol])
    split at hcontrol
    · rename_i h
      obtain ⟨rfl, hoff⟩ : n = 2 ∧ sameIgnoringCase action "off" = true := by simpa using h
      exact served_switchRelay hid .red (.inr ⟨hoff, rfl⟩) (by rw [hcontrol])
    · have hserve : serve fails id action kit = (.result false, kit) := by
        rw [serve, hcontrol]
        rfl
      rw [hserve]
      exact .not nofun

/-! ## The two together -/

variable {α : Type} {Q : α → World × Kit → Prop} {E : Exn → World × Kit → Prop}

theorem step_wired {c : Call} (hc : ∀ address id action, c ≠ .execute address id action)
    (f : Fate × Bool) : (wiredMachine col).step c f (w, kit) =
      ((step col c f.1 w).1, (step col c f.1 w).2, kit) := by
  cases c <;> first | rfl | exact absurd rfl (hc _ _ _)

/-- A part that sends no command does what it does alone. -/
theorem wp_wired {i : String} {R : Exn → Prop} {p : Panel α} (hp : p.Uses (Call.looksUp i) R)
    (h : wp (under col anyFault) p (fun a w' => Q a (w', kit)) (fun e w' => E e (w', kit)) w) :
    wp (wired col) p Q E (w, kit) := by
  induction p generalizing w with
  | pure a => exact h
  | raise e => exact h
  | call c k ih =>
    refine ⟨trivial, ?_⟩
    rintro x s' ⟨f, -, hstep⟩
    have hc : ∀ address id action, c ≠ .execute address id action := by
      rintro address i action rfl
      exact hp.1
    rw [step_wired hc] at hstep
    obtain ⟨rfl, rfl⟩ := Prod.mk.inj hstep
    exact ih _ (hp.2 _) (h.2 _ _ ⟨f.1, fun _ => trivial, rfl⟩)

/-- A command is served. -/
theorem wp_execute_wired {address id action : String} {Q : XmlRpcReply → World × Kit → Prop}
    (h : ∀ reply kit', Served id action kit reply kit' →
      Q reply (w.commanding ⟨address, id, action, reply⟩, kit')) :
    wp (α := XmlRpcReply) (wired col) (call (.execute address id action)) Q E (w, kit) := by
  refine (Machine.wp_lift_contract (S := calls) (.execute address id action)).mpr fun f _ => ?_
  exact h _ _ (served f.2 id action kit)

/-! ## A request -/

/-- A request was answered with 200. -/
def Answered200 (w w' : World) : Prop :=
  ∃ resp, w'.responses = w.responses ++ [resp] ∧ resp.status = 200

/-- What a request did: it was answered 200 for switching the relay it names, or it switched
nothing and was not. -/
inductive Relayed (ex : HttpExchange) (w : World) (kit : Kit) (w' : World) : Kit → Prop
  | switched {id action : String} {n : Int32} {output : Nat} {state : Bool}
      {outputs : Nat → Bool} (hbody : parseBody (Jdk.decode (readBody ex)) = some (id, action))
      (hid : parseInt id = some n) (hrelay : Relay n output) (hasks : Asks action state)
      (hkit : kit = some outputs) (h : Answered200 w w') :
      Relayed ex w kit w' (some (Function.update outputs output state))
  | not (h : ¬ Answered200 w w') : Relayed ex w kit w' kit

variable {ex : HttpExchange}

omit [Jdk] [Digits] in
theorem not_answered200 {r : Response} (hresponses : w'.responses = w.responses ++ [r])
    (h : r.status ≠ 200) : ¬ Answered200 w w' := by
  rintro ⟨resp', hresp', hstatus⟩
  obtain rfl := List.singleton_inj.mp (List.append_cancel_left (hresponses.symm.trans hresp'))
  exact h hstatus

omit [Jdk] [Digits] in
theorem not_answered200_of_none (h : w'.responses = w.responses) : ¬ Answered200 w w' := by
  rintro ⟨resp, hresp, -⟩
  simp [h] at hresp

theorem wp_badRequest_wired {w₀ : World} {m : Message} (hresponses : w.responses = w₀.responses)
    {E : Exn → World × Kit → Prop} :
    wp (wired col) (badRequest ex m) (fun _ s => Relayed ex w₀ kit s.1 s.2) E (w, kit) := by
  refine wp_wired (i := "") (uses_badRequest m) (wp_badRequest fun q => ?_)
  exact .not (not_answered200 (r := responseTo ex 400) (by simp [hresponses])
    (by simp [responseTo]))

theorem wp_forwardCommand_wired {row : ActuatorRow} {id action : String}
    (hbody : parseBody (Jdk.decode (readBody ex)) = some (id, action)) {w₀ : World}
    (hresponses : w.responses = w₀.responses) :
    wp (wired col) (forwardCommand ex row id action) (fun _ s => Relayed ex w₀ kit s.1 s.2)
      (fun _ s => Relayed ex w₀ kit s.1 s.2) (w, kit) := by
  have hsay : ∀ m : Message, (appendToOutput m).Uses (Call.looksUp "") fun _ => False :=
    fun m => ⟨trivial, fun _ => trivial⟩
  rw [forwardCommand, wp_bind]
  refine wp_wired (hsay _) ((wp_appendToOutput _).mpr ?_)
  rw [wp_bind, SendXMLRPCRequest]
  cases row.address.filter fun a => parsesURL (some a) with
  | none =>
    simp only [wp_bind]
    refine wp_wired (hsay _) ((wp_appendToOutput _).mpr ?_)
    simp only [wp_pure, Bool.false_eq_true, if_false]
    exact wp_badRequest_wired (by exact hresponses)
  | some address =>
    simp only [wp_bind]
    refine wp_execute_wired fun reply kit' hserved => ?_
    cases hserved with
    | switched hid hrelay hasks hkit =>
      simp only [wp_pure, if_true, wp_bind]
      refine wp_wired (i := "") (R := fun _ => False) ⟨trivial, fun _ => trivial⟩
        ((wp_respond _).mpr ?_)
      refine wp_wired (hsay _) ((wp_appendToOutput _).mpr ?_)
      exact .switched hbody hid hrelay hasks hkit
        ⟨responseTo ex 200, by simp [hresponses], by simp [responseTo]⟩
    | not hreply =>
      cases reply with
      | result b =>
        cases b with
        | true => exact absurd rfl hreply
        | false =>
          simp only [wp_pure, Bool.false_eq_true, if_false]
          exact wp_badRequest_wired (by exact hresponses)
      | null => exact .not (not_answered200_of_none hresponses)
      | object => exact .not (not_answered200_of_none hresponses)
      | fault =>
        simp only [wp_bind]
        refine wp_wired (hsay _) ((wp_appendToOutput _).mpr ?_)
        simp only [wp_pure, Bool.false_eq_true, if_false]
        exact wp_badRequest_wired (by exact hresponses)

/-- **Requests.** What one request did to the relays is what it was answered. -/
theorem wp_handle_wired :
    wp (wired col) (handle ex) (fun _ s => Relayed ex w kit s.1 s.2)
      (fun _ s => Relayed ex w kit s.1 s.2) (w, kit) := by
  rw [handle, wp_ite]
  refine ⟨fun _ => ?_, fun _ => .not (not_answered200_of_none rfl)⟩
  cases hbody : parseBody (Jdk.decode (readBody ex)) with
  | none => exact .not (not_answered200_of_none rfl)
  | some command =>
    obtain ⟨id, action⟩ := command
    simp only [handleCommand, wp_bind]
    refine wp_wired uses_lookUpActuator (wp_lookUpActuator (fun row q => ?_) fun q => ?_)
    · simp only [wp_bind]
      refine wp_wired (i := id) (R := fun _ => False) ⟨trivial, fun _ => trivial⟩
        ((wp_appendToOutput _).mpr ?_)
      refine wp_wired (i := id) (R := fun _ => False) ⟨trivial, fun _ => trivial⟩
        ((wp_isSelected _).mpr ?_)
      rw [wp_ite]
      exact ⟨fun _ => wp_badRequest_wired (by exact rfl),
        fun _ => wp_forwardCommand_wired hbody (by exact rfl)⟩
    · exact .not (not_answered200 (r := responseTo ex 400) (by simp) (by simp [responseTo]))

/-! ## Requests one after another -/

/-- The turn answered 200 a request whose id parses to `n`. -/
def Acknowledged (n : Int32) (t : Turn calls (World × Kit) Exn Unit HttpExchange) : Prop :=
  Answered200 t.before.1 t.after.1 ∧
    ∃ id action, parseBody (Jdk.decode (readBody t.action)) = some (id, action) ∧
      parseInt id = some n

/-- The turn's request asked for a state. -/
def AskedFor (t : Turn calls (World × Kit) Exn Unit HttpExchange) (state : Bool) : Prop :=
  ∃ id action, parseBody (Jdk.decode (readBody t.action)) = some (id, action) ∧ Asks action state

/-- The state of an output, if there is a kit. -/
def Kit.output (kit : Kit) (i : Nat) : Option Bool := kit.map (· i)

/-- The relays are as they were last asked to be. -/
def Holds (ts : List (Turn calls (World × Kit) Exn Unit HttpExchange)) (kit : Kit) : Prop :=
  ∀ n output, Relay n output → ∀ ts₁ t ts₂, ts = ts₁ ++ t :: ts₂ → Acknowledged n t →
    (∀ u ∈ ts₂, ¬ Acknowledged n u) → ∃ state, AskedFor t state ∧ kit.output output = some state

variable {t : Turn calls (World × Kit) Exn Unit HttpExchange}
  {ts : List (Turn calls (World × Kit) Exn Unit HttpExchange)}

/-- A request that is not answered 200 for a relay leaves it as it was. -/
theorem Relayed.output_eq {n : Int32} {output : Nat} (hrelay : Relay n output)
    (h : Relayed t.action t.before.1 t.before.2 t.after.1 t.after.2) (hn : ¬ Acknowledged n t) :
    t.after.2.output output = t.before.2.output output := by
  generalize hkit' : t.after.2 = kit' at h
  cases h with
  | @switched id action m output' state outputs hbody hid hrelay' hasks hkit h =>
    have hne : n ≠ m := by
      rintro rfl
      exact hn ⟨h, id, action, hbody, hid⟩
    rw [hkit]
    exact congrArg some (Function.update_of_ne (hrelay.output_ne hrelay' hne) _ _)
  | not h => rfl

/-- A request answered 200 for a relay leaves it as it asked. -/
theorem Relayed.output_asked {n : Int32} {output : Nat} (hrelay : Relay n output)
    (h : Relayed t.action t.before.1 t.before.2 t.after.1 t.after.2) (hn : Acknowledged n t) :
    ∃ state, AskedFor t state ∧ t.after.2.output output = some state := by
  obtain ⟨h200, id', action', hbody', hid'⟩ := hn
  generalize hkit' : t.after.2 = kit' at h
  cases h with
  | @switched id action m output' state outputs hbody hid hrelay' hasks hkit h =>
    obtain ⟨rfl, rfl⟩ := Prod.mk.inj (Option.some_inj.mp (hbody.symm.trans hbody'))
    obtain rfl := Option.some_inj.mp (hid.symm.trans hid')
    have hsame : output = output' := by cases hrelay <;> cases hrelay' <;> rfl
    exact ⟨state, ⟨id, action, hbody, hasks⟩, by simp [Kit.output, hsame]⟩
  | not h => exact absurd h200 h

/-- One more request. -/
theorem Holds.snoc (hts : Holds ts t.before.2)
    (h : Relayed t.action t.before.1 t.before.2 t.after.1 t.after.2) :
    Holds (ts ++ [t]) t.after.2 := by
  intro n output hrelay ts₁ u ts₂ heq hu hlast
  rcases List.eq_nil_or_concat ts₂ with rfl | ⟨ts₃, v, rfl⟩
  · obtain ⟨rfl, hut⟩ := List.append_inj' heq rfl
    obtain rfl := List.singleton_inj.mp hut
    exact h.output_asked hrelay hu
  · rw [List.concat_eq_append, ← List.cons_append, ← List.append_assoc] at heq
    obtain ⟨rfl, htv⟩ := List.append_inj' heq rfl
    obtain rfl := List.singleton_inj.mp htv
    obtain ⟨state, hasked, hstate⟩ := hts n output hrelay ts₁ u ts₃ rfl hu fun x hx =>
      hlast x (by simp [hx])
    exact ⟨state, hasked, (h.output_eq hrelay (hlast t (by simp))).trans hstate⟩

/-- **Relays.** After any requests handled one after another, whatever fails in them, each relay is
as the last request for it that was answered 200 asked, and a request that was not answered 200 has
changed no output. -/
theorem session_holds {s s' : World × Kit} (h : Session (wired col) handle s ts s') :
    Holds ts s'.2 ∧ ∀ t ∈ ts, ¬ Answered200 t.before.1 t.after.1 → t.after.2 = t.before.2 := by
  refine h.invariant (I := fun ts s => Holds ts s.2 ∧
      ∀ t ∈ ts, ¬ Answered200 t.before.1 t.after.1 → t.after.2 = t.before.2) (C := fun _ => True)
    (fun _ _ => trivial) ⟨fun _ _ _ ts₁ t ts₂ hts => by simp at hts, by simp⟩ ?_
  rintro ts t ⟨hholds, hsame⟩ - hrun
  have hrelayed : Relayed t.action t.before.1 t.before.2 t.after.1 t.after.2 :=
    hrun.of_wp (I := fun s => Relayed t.action t.before.1 t.before.2 s.1 s.2) wp_handle_wired
  refine ⟨hholds.snoc hrelayed, fun u hu hnot => ?_⟩
  rcases List.mem_append.mp hu with hu | hu
  · exact hsame u hu hnot
  · obtain rfl := List.singleton_inj.mp (List.mem_singleton.mp hu ▸ rfl : [u] = [t])
    generalize hkit' : u.after.2 = kit' at hrelayed
    cases hrelayed with
    | switched _ _ _ _ _ h => exact absurd h hnot
    | not h => rfl

end Relays

/-! ## Three requests -/

/-- Handle some requests, every call going well. -/
def requested (bodies : List String) : List (Turn calls (World × Kit) Exn Unit HttpExchange) :=
  (@wiredMachine plainJdk asciiDigits .exact).turns (.fine, false) (@handle plainJdk)
    (bodies.map fun body => (⟨"POST", [body.toUTF8.toList], []⟩, []))
    (actuatorWorld, some fun _ => true)

/-- Where they lead to. -/
def requestedTo (bodies : List String) : World × Kit :=
  (@wiredMachine plainJdk asciiDigits .exact).endOf (.fine, false) (@handle plainJdk)
    (bodies.map fun body => (⟨"POST", [body.toUTF8.toList], []⟩, []))
    (actuatorWorld, some fun _ => true)

theorem session_requested (bodies : List String) :
    Session (@wired plainJdk asciiDigits .exact) (@handle plainJdk)
      (actuatorWorld, some fun _ => true) (requested bodies) (requestedTo bodies) :=
  Machine.session_turns (fun _ _ => trivial) (by simp) .nil

/-- On, off and on again: the light is on. -/
theorem requested_holds :
    @Holds plainJdk asciiDigits (requested ["id=1&action=on", "id=1&action=OFF", "id=1&action=On"])
        (requestedTo ["id=1&action=on", "id=1&action=OFF", "id=1&action=On"]).2 ∧
      (requestedTo ["id=1&action=on", "id=1&action=OFF", "id=1&action=On"]).2.output 7 =
        some false := by
  refine ⟨(@session_holds plainJdk asciiDigits .exact _ _ _ (session_requested _)).1, ?_⟩
  decide +kernel

end CrossingReality
