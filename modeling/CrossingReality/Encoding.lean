import CrossingReality.Formats.Urlencoded
import CrossingReality.Usage

/-!
# What the virtual world reads

`HTTPPOSTForward` puts a reading into the body of a POST, field by field. Whoever decodes the body
by the rules for forms gets the strings back, whatever they contain.

* `escapes_urlEncode` — what `URLEncoder` makes of a string stands for it and holds no separator.
* `HTTPPOSTForward_parse` — the body of every POST reads as the reading.
-/

namespace CrossingReality

open Effects Formats

/-! ## `URLEncoder` -/

theorem hexValue_hexDigit : ∀ n < 16, Urlencoded.hexValue (hexDigit n) = some n := by decide

theorem hexDigit_ne : ∀ n < 16, hexDigit n ≠ '&' ∧ hexDigit n ≠ '=' := by decide

theorem escapes_percentEscape (b : UInt8) : Urlencoded.Escapes (percentEscape b) [b] := by
  have hb := b.toNat_lt
  have hhigh : b.toNat / 16 < 16 := by omega
  have hlow : b.toNat % 16 < 16 := by omega
  refine .percent ?_ (hexDigit_ne _ hhigh) (hexDigit_ne _ hlow)
  have hbyte : 16 * (b.toNat / 16) + b.toNat % 16 = b.toNat := Nat.div_add_mod _ _
  rw [Urlencoded.escaped, hexValue_hexDigit _ hhigh, hexValue_hexDigit _ hlow]
  change some (UInt8.ofNat (16 * (b.toNat / 16) + b.toNat % 16)) = some b
  rw [hbyte, UInt8.ofNat_toNat]

theorem escapes_urlEncodeChar (c : Char) :
    Urlencoded.Escapes (urlEncodeChar c) (String.utf8EncodeChar c) := by
  unfold urlEncodeChar
  split
  · rename_i hplain
    refine .plain ?_ ?_ ?_ ?_ <;> rintro rfl <;> exact absurd hplain (by decide)
  · split
    · rename_i hblank
      obtain rfl : c = ' ' := beq_iff_eq.mp hblank
      exact .plus
    · simpa using Urlencoded.Escapes.flatMap escapes_percentEscape (String.utf8EncodeChar c)

/-- **Encoding.** What is encoded stands for the string and holds no separator. -/
theorem escapes_urlEncode (s : String) :
    Urlencoded.Escapes (urlEncode s).toList (s.toList.flatMap String.utf8EncodeChar) := by
  rw [urlEncode, String.toList_ofList]
  exact .flatMap escapes_urlEncodeChar s.toList

theorem encodesField_urlEncode (name value : String) :
    Urlencoded.EncodesField (urlEncode name ++ "=" ++ urlEncode value).toList (name, value) :=
  ⟨(urlEncode name).toList, (urlEncode value).toList, by simp, escapes_urlEncode name,
    escapes_urlEncode value⟩

theorem ofList_intercalate_amp (s t u : String) :
    String.ofList (['&'].intercalate [s.toList, t.toList, u.toList]) =
      s ++ "&" ++ t ++ "&" ++ u := by
  apply String.toList_injective
  simp [List.intercalate]

/-- The body of a POST reads as its three fields. -/
theorem Payload.parse_body [Jdk] (p : Payload) : Urlencoded.parse p.body =
    some [("id", p.id), ("type", p.type), ("value", Jdk.doubleToString p.value)] := by
  have hfields := ((List.Forall₂.nil.cons (encodesField_urlEncode "value"
    (Jdk.doubleToString p.value))).cons (encodesField_urlEncode "type" p.type)).cons
    (encodesField_urlEncode "id" p.id)
  have hparse := Urlencoded.parse_form hfields (by simp)
  rw [ofList_intercalate_amp] at hparse
  simpa only [body, String.append_assoc] using hparse

/-! ## The POSTs of a reading -/

/-- Sending a POST makes calls for that POST alone. -/
theorem uses_sendPost_self (p : Post) (l : List (HttpCall × Message)) :
    (sendPost p l).Uses (fun c : Call => ∀ h q, c = .http h q → q = p) fun _ => False := by
  induction l with
  | nil => trivial
  | cons c l ih =>
    simp only [sendPost, uses_call_bind]
    refine ⟨by simp +contextual, fun ok => Program.uses_ite _ ?_ ih⟩
    exact ⟨by simp, fun _ => trivial⟩

section Runs

variable {col : Collation} {w w' : World} {l : List (Event calls World)}

/-- What only redraws sends nothing. -/
theorem not_http_of_redraws {α : Type} {p : Panel α} {r : Except Exn α}
    (hp : Redraws (fun _ => True) p) (hrun : Runs (under col anyFault) p w l r w') :
    ∀ e ∈ l, ∀ c post, e.call ≠ .http c post := by
  intro e he c post hcall
  have := hrun.calls_of_uses hp e he
  rw [hcall] at this
  exact this

/-- **Bodies.** Whatever fails, the body of a POST that is begun for a reading reads as the id, the
type and the number that is sent, in that order. -/
theorem HTTPPOSTForward_parse [Jdk] {id type address : String} {value : Int32} {r : Except Exn Bool}
    (hrun : Runs (under col anyFault) (HTTPPOSTForward id type value address) w l r w') :
    ∀ e ∈ l, ∀ c post, e.call = .http c post →
      ∃ b, ((Query.bounds id type).run col w.database).head? = some b ∧
        Urlencoded.parse post.payload.body =
          some [("id", id), ("type", type), ("value", Jdk.doubleToString (scaled value b))] := by
  intro e he c post hcall
  rcases hrun.bind_cases with ⟨_, -, h₁⟩ | ⟨bounds, w₁, l₁, l₂, rfl, h₁, h₂⟩
  · exact absurd hcall (not_http_of_redraws (redraws_readBounds _ _) h₁ e he c post)
  have he₂ : e ∈ l₂ := (List.mem_append.mp he).resolve_left fun he =>
    not_http_of_redraws (redraws_readBounds _ _) h₁ e he c post hcall
  have hread : bounds = none ∨ bounds = some ((Query.bounds id type).run col w.database) :=
    h₁.outcome_of_wp
      (Q := fun o _ => o = none ∨ o = some ((Query.bounds id type).run col w.database))
      (E := fun _ _ => False) (wp_readBounds (fun _ => .inr rfl) fun _ _ => .inl rfl)
  rcases hread with rfl | rfl
  · cases h₂
    cases he₂
  cases hb : ((Query.bounds id type).run col w.database).head? with
  | none =>
    simp only [hb] at h₂
    cases h₂
    cases he₂
  | some b =>
    refine ⟨b, rfl, ?_⟩
    simp only [hb] at h₂
    have hscale := redraws_scaleValue (S := fun _ => True) value b
    rcases h₂.bind_cases with ⟨_, -, h₃⟩ | ⟨x, w₃, l₃, l₄, rfl, h₃, h₄⟩
    · exact absurd hcall (not_http_of_redraws hscale h₃ e he₂ c post)
    have he₄ : e ∈ l₄ := (List.mem_append.mp he₂).resolve_left fun he =>
      not_http_of_redraws hscale h₃ e he c post hcall
    have hx : x = scaled value b :=
      h₃.outcome_of_wp (Q := fun y _ => y = scaled value b) (E := fun _ _ => False)
        (wp_scaleValue_under fun _ => rfl)
    have hsend := h₄.calls_of_uses ((uses_sendPost_self _ _).bind fun ok =>
      Program.uses_ite _ (by trivial) (by exact ⟨nofun, fun _ => trivial⟩))
    rw [hsend e he₄ c post hcall, ← hx]
    exact Payload.parse_body ⟨id, type, x⟩

end Runs

/-- A sensor whose strings hold separators and characters that are escaped. -/
def awkwardWorld : World :=
  .running "jdbc:mysql://db" ⟨[⟨"a&b", some "http://vw"⟩], [⟨"a&b", "50%+ü=", none, none⟩], []⟩

/-- Forward a reading of that sensor, with nothing failing. -/
def forwardAwkward : List (Event calls World) × Except Exn Bool × World :=
  (machine .exact).play .fine (@HTTPPOSTForward plainJdk "a&b" "50%+ü=" 7 "http://vw") []
    awkwardWorld

theorem forwardAwkward_parse : forwardAwkward.2.2.posts.length = 1 ∧
    ∀ e ∈ forwardAwkward.1, ∀ c post, e.call = .http c post →
      ∃ b, ((Query.bounds "a&b" "50%+ü=").run .exact awkwardWorld.database).head? = some b ∧
        Urlencoded.parse (@Payload.body plainJdk post.payload) = some [("id", "a&b"),
          ("type", "50%+ü="), ("value", plainJdk.doubleToString (scaled 7 b))] :=
  ⟨by decide +kernel, @HTTPPOSTForward_parse .exact awkwardWorld _ _ plainJdk "a&b" "50%+ü="
    "http://vw" 7 _ (runs_play_anyFault _ _ _)⟩

end CrossingReality
