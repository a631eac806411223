import Mathlib.Algebra.GroupWithZero.Nat
import Mathlib.Data.List.Basic
import Mathlib.Tactic.Common

/-!
# Quoted string literals in SQL

How MySQL reads a string between single quotes: a quote ends the literal unless it is doubled, and
a backslash starts an escape. A statement that is put together by splicing strings between quotes
is read as intended if and only if the strings are *plain*.

* `weight` — how much text the tokens would take if nothing were escaped.
* `plain_of_lex` — a text that is all used up has only plain literals.
* `Template.lex_fill_iff` — splicing into a template.
-/

namespace Formats.QuotedLiteral

/-! ## Reading -/

/-- What a statement is made of: characters outside literals, and literals. -/
inductive Token where
  | char (c : Char)
  | literal (s : List Char)
deriving DecidableEq

/-- What a backslash and a character stand for. The two wildcards keep their backslash. -/
def escaped : Char → List Char
  | '0' => ['\x00']
  | 'b' => ['\x08']
  | 'n' => ['\n']
  | 'r' => ['\x0d']
  | 't' => ['\t']
  | 'Z' => ['\x1a']
  | '%' => ['\\', '%']
  | '_' => ['\\', '_']
  | c => [c]

/-- Read a text, inside a literal that so far stands for the given string, or outside. A literal
that does not end is an error. -/
def lex : Option (List Char) → List Char → Option (List Token)
  | none, [] => some []
  | none, '\'' :: rest => lex (some []) rest
  | none, c :: rest => (lex none rest).map (.char c :: ·)
  | some _, [] => none
  | some s, '\'' :: '\'' :: rest => lex (some (s ++ ['\''])) rest
  | some s, '\'' :: rest => (lex none rest).map (.literal s :: ·)
  | some _, ['\\'] => none
  | some s, '\\' :: c :: rest => lex (some (s ++ escaped c)) rest
  | some s, c :: rest => lex (some (s ++ [c])) rest

/-- The string stands for itself between quotes: it has no quote, and no backslash but before a
wildcard. -/
def plain : List Char → Bool
  | [] => true
  | '\'' :: _ => false
  | ['\\'] => false
  | '\\' :: c :: rest => (c == '%' || c == '_') && plain rest
  | _ :: rest => plain rest

example : lex none "id = 'a''b\\n'".toList =
    some ("id = ".toList.map .char ++ [.literal "a'b\n".toList]) := by decide

/-! ## Weights -/

def Token.weight : Token → Nat
  | .char _ => 1
  | .literal s => s.length + 2

/-- The length of the text that would be read as these tokens if nothing were escaped. -/
def weight (ts : List Token) : Nat := (ts.map Token.weight).sum

/-- What has been read of the current literal, with its quote. -/
def started : Option (List Char) → Nat
  | none => 0
  | some s => s.length + 1

@[simp] theorem weight_nil : weight [] = 0 := rfl

@[simp] theorem weight_cons (t : Token) (ts : List Token) :
    weight (t :: ts) = t.weight + weight ts :=
  List.sum_cons

theorem length_escaped_le (c : Char) : (escaped c).length ≤ 2 := by
  unfold escaped
  split <;> simp

theorem escaped_of_length_eq {c : Char} (h : (escaped c).length = 2) :
    (c = '%' ∨ c = '_') ∧ escaped c = ['\\', c] := by
  unfold escaped at h ⊢
  split at h <;> simp_all

/-- Tokens never weigh more than the text they were read from. -/
theorem weight_le {m : Option (List Char)} {l : List Char} {ts : List Token}
    (h : lex m l = some ts) : weight ts ≤ started m + l.length := by
  fun_induction lex generalizing ts with
  | case1 =>
    obtain rfl := Option.some_inj.mp h
    simp
  | case2 rest ih =>
    have := ih h
    simp only [started, List.length_nil, List.length_cons] at this ⊢
    omega
  | case3 c rest hc ih =>
    obtain ⟨ts, hts, rfl⟩ := Option.map_eq_some_iff.mp h
    have := ih hts
    simp only [started, weight_cons, Token.weight, List.length_cons] at this ⊢
    omega
  | case4 => cases h
  | case5 s rest ih =>
    have := ih h
    simp only [started, List.length_append, List.length_cons, List.length_nil] at this ⊢
    omega
  | case6 s rest hrest ih =>
    obtain ⟨ts, hts, rfl⟩ := Option.map_eq_some_iff.mp h
    have := ih hts
    simp only [started, weight_cons, Token.weight, List.length_cons] at this ⊢
    omega
  | case7 => cases h
  | case8 s c rest ih =>
    have := ih h
    have := length_escaped_le c
    simp only [started, List.length_append, List.length_cons] at *
    omega
  | case9 s c rest _ _ _ _ ih =>
    have := ih h
    simp only [started, List.length_append, List.length_cons, List.length_nil] at this ⊢
    omega

theorem weight_append (ts ts' : List Token) : weight (ts ++ ts') = weight ts + weight ts' := by
  simp [weight]

theorem weight_map_char (l : List Char) : weight (l.map .char) = l.length := by
  induction l with
  | nil => rfl
  | cons c l ih => simp [Token.weight, ih, Nat.add_comm]

/-! ## Plain strings -/

theorem plain_cons {c : Char} (hq : c ≠ '\'') (hb : c ≠ '\\') (s : List Char) :
    plain (c :: s) = plain s :=
  plain.eq_5 c s hq (fun h _ => hb h) fun _ _ h _ => hb h

/-- A string that is plain does not begin with a backslash, unless that starts a pair. -/
theorem ne_backslash {c : Char} {s : List Char} (hs : plain (c :: s) = true)
    (hb : ∀ d s', c = '\\' → s = d :: s' → False) : c ≠ '\\' := by
  rintro rfl
  cases s with
  | nil => cases hs
  | cons d s => exact hb d s rfl rfl

theorem plain_append {s t : List Char} (hs : plain s = true) (ht : plain t = true) :
    plain (s ++ t) = true := by
  induction s using plain.induct with
  | case1 => exact ht
  | case2 s => cases hs
  | case3 => cases hs
  | case4 c s ih =>
    simp only [plain, Bool.and_eq_true] at hs
    simpa [plain, ih hs.2] using hs.1
  | case5 c s hq _ hb ih =>
    have hb' := ne_backslash hs hb
    rw [plain_cons hq hb'] at hs
    rw [List.cons_append, plain_cons hq hb']
    exact ih hs

theorem plain_singleton {c : Char} (hq : c ≠ '\'') (hb : c ≠ '\\') : plain [c] = true :=
  plain_cons hq hb []

/-- **A text that is all used up** has only plain literals: what is escaped takes more room than
what it stands for. -/
theorem plain_of_lex {m : Option (List Char)} {l : List Char} {ts : List Token}
    (h : lex m l = some ts) (hw : weight ts = started m + l.length)
    (hm : ∀ s, m = some s → plain s = true) : ∀ s, .literal s ∈ ts → plain s = true := by
  fun_induction lex generalizing ts with
  | case1 =>
    obtain rfl := Option.some_inj.mp h
    simp
  | case2 rest ih =>
    refine ih h ?_ (by rintro _ ⟨⟩; rfl)
    simp only [started, List.length_nil, List.length_cons] at hw ⊢
    omega
  | case3 c rest hc ih =>
    obtain ⟨ts, hts, rfl⟩ := Option.map_eq_some_iff.mp h
    simp only [started, weight_cons, Token.weight, List.length_cons] at hw
    simpa using ih hts (by simp only [started]; omega) nofun
  | case4 => cases h
  | case5 s rest ih =>
    have := weight_le h
    simp only [started, List.length_append, List.length_cons, List.length_nil] at this hw
    omega
  | case6 s rest hrest ih =>
    obtain ⟨ts, hts, rfl⟩ := Option.map_eq_some_iff.mp h
    simp only [started, weight_cons, Token.weight, List.length_cons] at hw
    rintro s' hs'
    rcases List.mem_cons.mp hs' with hs' | hs'
    · obtain rfl := Token.literal.inj hs'
      exact hm s' rfl
    · exact ih hts (by simp only [started]; omega) nofun s' hs'
  | case7 => cases h
  | case8 s c rest ih =>
    have hle := weight_le h
    have hescaped := length_escaped_le c
    simp only [started, List.length_append, List.length_cons] at hle hw
    obtain ⟨hc, heq⟩ := escaped_of_length_eq (show (escaped c).length = 2 by omega)
    refine ih h ?_ ?_
    · simp only [started, List.length_append]
      omega
    · rintro _ ⟨⟩
      rw [heq]
      refine plain_append (hm s rfl) ?_
      rcases hc with rfl | rfl <;> rfl
  | case9 s c rest _ hq hb hb' ih =>
    refine ih h ?_ ?_
    · simp only [started, List.length_append, List.length_cons, List.length_nil] at hw ⊢
      omega
    · rintro _ ⟨⟩
      refine plain_append (hm s rfl) (plain_singleton hq ?_)
      intro hc
      cases rest with
      | nil => exact hb hc rfl
      | cons d rest => exact hb' d rest hc rfl

/-! ## Reading plain text -/

theorem lex_chars {t : List Char} (ht : '\'' ∉ t) (rest : List Char) :
    lex none (t ++ rest) = (lex none rest).map (t.map .char ++ ·) := by
  induction t with
  | nil => simp
  | cons c t ih =>
    simp only [List.mem_cons, not_or] at ht
    obtain ⟨hc, ht⟩ := ht
    rw [List.cons_append, lex.eq_3 c _ (Ne.symm hc), ih ht, Option.map_map]
    rfl

/-- A plain string is read up to its closing quote, if no other quote follows that. -/
theorem lex_literal {s rest : List Char} (hs : plain s = true) (hrest : rest.head? ≠ some '\'')
    (acc : List Char) :
    lex (some acc) (s ++ '\'' :: rest) = (lex none rest).map (.literal (acc ++ s) :: ·) := by
  induction s using plain.induct generalizing acc with
  | case1 =>
    rw [List.nil_append, List.append_nil, lex.eq_6 acc rest]
    rintro r rfl
    exact hrest rfl
  | case2 s => cases hs
  | case3 => cases hs
  | case4 c s ih =>
    simp only [plain, Bool.and_eq_true, Bool.or_eq_true, beq_iff_eq] at hs
    rw [List.cons_append, List.cons_append, lex.eq_8, ih hs.2]
    rcases hs.1 with rfl | rfl <;> simp [escaped]
  | case5 c s hq _ hb ih =>
    have hb' := ne_backslash hs hb
    rw [plain_cons hq hb'] at hs
    rw [List.cons_append, lex.eq_9 acc c _ (fun _ h _ => hq h) hq (fun h _ => hb' h)
      fun _ _ h _ => hb' h, ih hs]
    simp

/-! ## Templates -/

/-- A statement with slots for strings between quotes: what comes before the first slot, and what
comes after each. -/
structure Template where
  first : List Char
  after : List (List Char)
  first_unquoted : '\'' ∉ first
  after_unquoted : ∀ t ∈ after, '\'' ∉ t
  apart : ∀ t ∈ after.dropLast, t ≠ []

/-- A slot with its string, and what comes after it. -/
def slot (p : List Char × List Char) : List Char := '\'' :: p.2 ++ '\'' :: p.1

/-- The tokens a slot should be read as. -/
def slotTokens (p : List Char × List Char) : List Token := .literal p.2 :: p.1.map .char

namespace Template

variable (t : Template) (ss : List (List Char))

/-- Splice strings into the slots. -/
def fill : List Char := t.first ++ (t.after.zip ss).flatMap slot

/-- The tokens of the statement that is meant: its literals are the strings. -/
def tokens : List Token := t.first.map .char ++ (t.after.zip ss).flatMap slotTokens

theorem weight_tokens : weight (t.tokens ss) = (t.fill ss).length := by
  have hslots : ∀ ps : List (List Char × List Char),
      weight (ps.flatMap slotTokens) = (ps.flatMap slot).length := by
    intro ps
    induction ps with
    | nil => rfl
    | cons p ps ih =>
      simp only [List.flatMap_cons, weight_append, ih, slotTokens, slot, weight_cons, Token.weight,
        weight_map_char, List.length_append, List.length_cons]
      omega
  rw [tokens, fill, weight_append, weight_map_char, hslots, List.length_append]

variable {t ss}

theorem lex_slots {ps : List (List Char × List Char)}
    (hafter : ∀ p ∈ ps, '\'' ∉ p.1) (hapart : ∀ t ∈ (ps.map Prod.fst).dropLast, t ≠ [])
    (hplain : ∀ p ∈ ps, plain p.2 = true) :
    lex none (ps.flatMap slot) = some (ps.flatMap slotTokens) := by
  induction ps with
  | nil => rfl
  | cons p ps ih =>
    obtain ⟨hp, hafter⟩ := List.forall_mem_cons.mp hafter
    obtain ⟨hs, hplain⟩ := List.forall_mem_cons.mp hplain
    -- No quote follows the closing one: there is text, or nothing at all.
    have hhead : (p.1 ++ ps.flatMap slot).head? ≠ some '\'' := by
      cases ht : p.1 with
      | cons c t =>
        rw [ht] at hp
        simp only [List.mem_cons, not_or] at hp
        simpa using Ne.symm hp.1
      | nil =>
        cases ps with
        | nil => simp
        | cons p' ps => exact absurd ht (hapart p.1 (by simp))
    have hrest : ∀ t ∈ (ps.map Prod.fst).dropLast, t ≠ [] := fun t ht => by
      cases ps with
      | nil => cases ht
      | cons p' ps => exact hapart t (List.mem_cons_of_mem _ ht)
    rw [List.flatMap_cons, slot, List.append_assoc, List.cons_append, lex.eq_2, List.cons_append,
      lex_literal hs hhead, lex_chars hp, ih hafter hrest hplain]
    simp [slotTokens]

/-- **Splicing.** A statement is read as it was meant, if and only if the strings are plain. -/
theorem lex_fill_iff (hlen : t.after.length = ss.length) :
    lex none (t.fill ss) = some (t.tokens ss) ↔ ∀ s ∈ ss, plain s = true := by
  constructor
  · intro h s hs
    refine plain_of_lex h (by simp [weight_tokens, started]) nofun s ?_
    obtain ⟨p, hp, rfl⟩ : ∃ p ∈ t.after.zip ss, p.2 = s :=
      List.mem_map.mp (by rwa [List.map_snd_zip (Nat.le_of_eq hlen.symm)])
    exact List.mem_append_right _ (List.mem_flatMap.mpr ⟨p, hp, List.mem_cons_self⟩)
  · intro h
    rw [fill, lex_chars t.first_unquoted, lex_slots ?_ ?_ ?_, Option.map_some, tokens]
    · exact fun p hp => t.after_unquoted p.1 (List.of_mem_zip hp).1
    · rw [List.map_fst_zip (Nat.le_of_eq hlen)]
      exact t.apart
    · exact fun p hp => h p.2 (List.of_mem_zip hp).2

end Template

end Formats.QuotedLiteral
