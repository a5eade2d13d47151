import Rearrangement.Json.Basic
import Rearrangement.Json.Reader

/-!
# Tokens of written values

What is written of a value has the tokens of the value, in either layout: blanks are stepped over,
and each token ends where it was written to end.  A number ends only at a character that cannot
belong to a number, so what follows one has to begin with such a character (`Ends`); commas,
brackets and line ends do.

## Main statements

* `Lexes.string`: a quoted string is read back, whatever it contains.
* `Token.Lexes.number`: so is a number that reads back, if the text goes on properly.
* `lexes_compact`, `lexes_pretty`: the text of a value has the tokens of the value.

`Lexes` is stated with the text that follows, so that each lemma puts one piece in front of a text
that has been dealt with, and the inductions go from the end of a text to its beginning.  What makes
a number readable is left open here (`Number.ReadsBack`), because it is a matter of doubles and not
of tokens.
-/

namespace Rearrangement.Json

open Token

/-- No character stands for bytes that are no text. -/
abbrev noStray : Char → Bool := fun _ ↦ false

namespace Token

variable {c : Char} {cs r w : List Char} {t : Token} {ts : List Token}

/-- The text has these tokens. -/
def Lexes (cs : List Char) (ts : List Token) : Prop :=
  ∀ fuel, cs.length ≤ fuel → lexWith? noStray fuel cs = some ts

/-- What a text is cut into is what the lexer finds. -/
theorem Lexes.lex? (h : Lexes cs ts) : lex? noStray cs = some ts := h _ (Nat.le_refl _)

theorem lexes_nil : Lexes [] [] := by
  intro fuel _
  cases fuel <;> rfl

theorem Lexes.blank (h : Lexes cs ts) (hc : isBlank c) : Lexes (c :: cs) ts := by
  intro fuel hfuel
  obtain ⟨fuel, rfl⟩ := Nat.exists_eq_add_one.2 (Nat.lt_of_lt_of_le (Nat.succ_pos _) hfuel)
  rw [lexWith?, if_pos hc]
  exact h fuel (Nat.le_of_succ_le_succ hfuel)

/-- Blanks in front are skipped. -/
theorem Lexes.blanks (h : Lexes cs ts) (hw : ∀ c ∈ w, isBlank c) : Lexes (w ++ cs) ts := by
  induction w with
  | nil => exact h
  | cons c w ih =>
    exact (ih fun d hd ↦ hw d (List.mem_cons_of_mem c hd)).blank (hw c List.mem_cons_self)

/-- A token at the start of a text, which leaves the rest. -/
theorem Lexes.token (h : Lexes r ts) (hc : isBlank c = false)
    (hnext : next? noStray (c :: w) = some (t, r)) (hr : r.length ≤ w.length) :
    Lexes (c :: w) (t :: ts) := by
  intro fuel hfuel
  obtain ⟨fuel, rfl⟩ := Nat.exists_eq_add_one.2 (Nat.lt_of_lt_of_le (Nat.succ_pos _) hfuel)
  rw [lexWith?, if_neg (by rw [hc]; exact Bool.false_ne_true), hnext]
  have hlater := h fuel (Nat.le_trans hr (Nat.le_of_succ_le_succ hfuel))
  change (do return t :: (← lexWith? noStray fuel r)) = _
  rw [hlater]
  rfl

/-- The tokens that are one character each. -/
theorem Lexes.openBracket (h : Lexes r ts) : Lexes ('[' :: r) (.openBracket :: ts) :=
  h.token rfl rfl (Nat.le_refl _)

theorem Lexes.closeBracket (h : Lexes r ts) : Lexes (']' :: r) (.closeBracket :: ts) :=
  h.token rfl rfl (Nat.le_refl _)

theorem Lexes.openBrace (h : Lexes r ts) : Lexes ('\x7b' :: r) (.openBrace :: ts) :=
  h.token rfl rfl (Nat.le_refl _)

theorem Lexes.closeBrace (h : Lexes r ts) : Lexes ('\x7d' :: r) (.closeBrace :: ts) :=
  h.token rfl rfl (Nat.le_refl _)

theorem Lexes.comma (h : Lexes r ts) : Lexes (',' :: r) (.comma :: ts) :=
  h.token rfl rfl (Nat.le_refl _)

theorem Lexes.colon (h : Lexes r ts) : Lexes (':' :: r) (.colon :: ts) :=
  h.token rfl rfl (Nat.le_refl _)

/-! ## Strings -/

/-- A hexadecimal digit is read back. -/
theorem hexDigit?_hexChar {n : Nat} (h : n < 16) : hexDigit? (hexChar n) = some n := by
  have hall : ∀ n < 16, hexDigit? (hexChar n) = some n := by decide
  exact hall n h

theorem spell?_char (c : Char) (ps : List Piece) :
    spell? (.char c :: ps) = (spell? ps).map (c :: ·) := by
  rw [spell?]

/-- A code unit that is no surrogate spells a character by itself. -/
theorem spell?_unit {n : Nat} (h : n < 0xD800) (ps : List Piece) :
    spell? (.unit n :: ps) = (spell? ps).map (Char.ofNat n :: ·) := by
  have hhigh : ¬(0xD800 ≤ n ∧ n < 0xDC00) := by omega
  have hlow : ¬(0xDC00 ≤ n ∧ n < 0xE000) := by omega
  have hneither : ¬(0xD800 ≤ n ∧ n < 0xE000) := by omega
  cases ps with
  | nil => simp only [spell?, if_neg hneither]
  | cons p ps =>
    cases p with
    | char d => simp only [spell?, if_neg hneither]
    | unit lo => conv => lhs; rw [spell?, if_neg hhigh, if_neg hlow]

/-- What follows a backslash is read as one character. -/
theorem pieces?_simpleEscape {e c : Char} (h : simpleEscape? e = some c) (cs : List Char) :
    pieces? ('\\' :: e :: cs) = (pieces? cs).map fun q ↦ (.char c :: q.1, q.2) := by
  have hu : e ≠ 'u' := by
    rintro rfl
    cases h
  rw [pieces?, h]
  · cases pieces? cs <;> rfl
  · exact fun _ _ _ _ _ heq ↦ absurd heq hu

/-- An escape by number is one unit of a string. -/
theorem pieces?_unit {a b c d : Char} {n : Nat} (h : hexUnit? a b c d = some n) (cs : List Char) :
    pieces? ('\\' :: 'u' :: a :: b :: c :: d :: cs) =
      (pieces? cs).map fun q ↦ (.unit n :: q.1, q.2) := by
  rw [pieces?, h]
  cases pieces? cs <;> rfl

/-- A character that needs no escape stands for itself. -/
theorem pieces?_char {c : Char} (hquote : c ≠ '"') (hslash : c ≠ '\\') (h : ¬c.toNat < 0x20)
    (cs : List Char) : pieces? (c :: cs) = (pieces? cs).map fun q ↦ (.char c :: q.1, q.2) := by
  rw [pieces?, if_neg (not_or.2 ⟨h, hslash⟩)]
  · cases pieces? cs <;> rfl
  · exact hquote
  · exact fun _ _ _ _ _ heq ↦ absurd heq hslash
  · exact fun _ _ heq ↦ absurd heq hslash

/-- One written character is read as one piece, and that piece spells the character. -/
theorem pieces?_escape (c : Char) (cs : List Char) : ∃ p : Piece,
    pieces? (escape c ++ cs) = (pieces? cs).map (fun q ↦ (p :: q.1, q.2)) ∧
      ∀ ps, spell? (p :: ps) = (spell? ps).map (c :: ·) := by
  unfold escape
  split
  case h_8 hquote hslash _ _ _ _ _ =>
    split
    next hcontrol =>
      -- controls are written as code units below a surrogate
      refine ⟨.unit c.toNat, pieces?_unit ?_ cs, fun ps ↦ ?_⟩
      · have hhigh := hexDigit?_hexChar (n := c.toNat / 16) (by omega)
        have hlow := hexDigit?_hexChar (n := c.toNat % 16) (by omega)
        rw [hexUnit?, hhigh, hlow]
        refine congrArg some ?_
        change ((0 * 16 + 0) * 16 + c.toNat / 16) * 16 + c.toNat % 16 = c.toNat
        omega
      · rw [spell?_unit (by omega), Char.ofNat_toNat]
    next hcontrol => exact ⟨.char c, pieces?_char hquote hslash hcontrol cs, spell?_char c⟩
  all_goals exact ⟨.char _, pieces?_simpleEscape rfl cs, spell?_char _⟩

/-- A quoted string is read up to its closing quote, and spells what was quoted. -/
theorem exists_pieces (s r : List Char) :
    ∃ ps, pieces? (s.flatMap escape ++ '"' :: r) = some (ps, r) ∧ spell? ps = some s := by
  induction s with
  | nil => exact ⟨[], rfl, rfl⟩
  | cons c s ih =>
    obtain ⟨ps, hps, hspell⟩ := ih
    obtain ⟨p, hp, hspell'⟩ := pieces?_escape c (s.flatMap escape ++ '"' :: r)
    refine ⟨p :: ps, ?_, ?_⟩
    · rw [List.flatMap_cons, List.append_assoc, hp, hps]
      rfl
    · rw [hspell', hspell]
      rfl

theorem any_isStray_noStray (ps : List Piece) : ps.any (Piece.isStray noStray) = false := by
  refine List.any_eq_false.2 fun p _ ↦ ?_
  cases p <;> exact Bool.false_ne_true

/-- A quoted string is read back, whatever it contains. -/
theorem Lexes.string (h : Lexes r ts) (s : String) :
    Lexes (quote s ++ r) (.string (some s) :: ts) := by
  obtain ⟨ps, hps, hspell⟩ := exists_pieces s.toList r
  have hquote : quote s ++ r = '"' :: (s.toList.flatMap escape ++ '"' :: r) := by
    simp [quote]
  rw [hquote]
  refine h.token rfl ?_ ?_
  · rw [next?, hps]
    change some (Token.string ((if ps.any (Piece.isStray noStray) then none else spell? ps).map
      String.ofList), r) = _
    rw [any_isStray_noStray, hspell]
    simp
  · simp
    omega

end Token

/-! ## Numbers -/

/-- What follows a number does not go on with it. -/
def Ends (cs : List Char) : Prop :=
  ∀ c ∈ cs.head?, c.isDigit = false ∧ c ≠ '.' ∧ c ≠ 'e' ∧ c ≠ 'E'

theorem ends_nil : Ends [] := nofun

theorem ends_cons {c : Char} (h : c = ',' ∨ c = ']' ∨ c = '\x7d' ∨ c = '\n') (cs : List Char) :
    Ends (c :: cs) := by
  rintro d ⟨⟩
  rcases h with rfl | rfl | rfl | rfl <;> decide

/-- What is written of the number is read as that number. -/
def Number.ReadsBack (n : Number) : Prop :=
  ∀ r, Ends r → ∃ c w, n.chars ++ r = c :: w ∧ isBlank c = false ∧ r.length ≤ w.length ∧
    next? noStray (c :: w) = some (.number (some n), r)

/-- So is a number, if what follows cannot be part of it. -/
theorem Token.Lexes.number {n : Number} {r : List Char} {ts : List Token} (h : Lexes r ts)
    (hn : n.ReadsBack) (hr : Ends r) : Lexes (n.chars ++ r) (.number (some n) :: ts) := by
  obtain ⟨c, w, htext, hc, hlength, hnext⟩ := hn r hr
  rw [htext]
  exact h.token hc hnext hlength

/-! ## Values -/

/-- All of the value can be read, and what is written of its numbers is read as those numbers. -/
inductive Readable : Json → Prop
  | null : Readable .null
  | bool (b : Bool) : Readable (.bool b)
  | number {n : Number} (h : n.ReadsBack) : Readable (.number n)
  | string (s : String) : Readable (.string s)
  | array {items : List Json} (h : ∀ v ∈ items, v.Readable) : Readable (.array items)
  | object {members : List (String × Json)} (h : ∀ m ∈ members, m.2.Readable) :
      Readable (.object members)

mutual

/-- The tokens of a value. -/
def tokens : Json → List Token
  | .null => [.null]
  | .bool b => [.bool b]
  | .number n => [.number (some n)]
  | .string s => [.string (some s)]
  | .array [] => [.openBracket, .closeBracket]
  | .array (v :: vs) => .openBracket :: (tokens v ++ tokensItems vs)
  | .object [] => [.openBrace, .closeBrace]
  | .object ((k, v) :: ms) =>
      .openBrace :: .string (some k) :: .colon :: (tokens v ++ tokensMembers ms)
  | .unreadable => [.null]

def tokensItems : List Json → List Token
  | [] => [.closeBracket]
  | v :: vs => .comma :: (tokens v ++ tokensItems vs)

def tokensMembers : List (String × Json) → List Token
  | [] => [.closeBrace]
  | (k, v) :: ms => .comma :: .string (some k) :: .colon :: (tokens v ++ tokensMembers ms)

end

theorem ends_compactItems (vs : List Json) (r : List Char) : Ends (compactItems vs ++ r) := by
  cases vs with
  | nil => exact ends_cons (by simp) r
  | cons v vs => exact ends_cons (by simp) _

theorem ends_compactMembers (ms : List (String × Json)) (r : List Char) :
    Ends (compactMembers ms ++ r) := by
  cases ms with
  | nil => exact ends_cons (by simp) r
  | cons m ms => exact ends_cons (by simp) _

mutual

/-- The compact text of a document is cut into its tokens.  The three lemmas go by the recursion of
the printer: over a document, its items and its members. -/
theorem lexes_compact (v : Json) (hv : v.Readable) {r : List Char} {ts : List Token}
    (hr : Ends r) (h : Lexes r ts) : Lexes (v.compactChars ++ r) (v.tokens ++ ts) := by
  match v, hv with
  | .null, _ => exact h.token rfl rfl (by simp; omega)
  | .bool true, _ => exact h.token rfl rfl (by simp; omega)
  | .bool false, _ => exact h.token rfl rfl (by simp; omega)
  | .number n, .number hn => exact h.number hn hr
  | .string s, _ => exact h.string s
  | .array [], _ => exact h.closeBracket.openBracket
  | .array (v :: vs), .array hvs =>
    simp only [compactChars, tokens, List.cons_append, List.append_assoc]
    exact (lexes_compact v (hvs v List.mem_cons_self) (ends_compactItems vs r)
      (lexes_compactItems vs (fun v hv ↦ hvs v (List.mem_cons_of_mem _ hv)) h)).openBracket
  | .object [], _ => exact h.closeBrace.openBrace
  | .object ((k, v) :: ms), .object hms =>
    simp only [compactChars, tokens, List.cons_append, List.append_assoc]
    exact ((lexes_compact v (hms (k, v) List.mem_cons_self) (ends_compactMembers ms r)
      (lexes_compactMembers ms (fun m hm ↦ hms m (List.mem_cons_of_mem _ hm)) h)).colon.string
        k).openBrace

theorem lexes_compactItems (vs : List Json) (hvs : ∀ v ∈ vs, v.Readable) {r : List Char}
    {ts : List Token} (h : Lexes r ts) : Lexes (compactItems vs ++ r) (tokensItems vs ++ ts) := by
  match vs with
  | [] => exact h.closeBracket
  | v :: vs =>
    simp only [compactItems, tokensItems, List.cons_append, List.append_assoc]
    exact (lexes_compact v (hvs v List.mem_cons_self) (ends_compactItems vs r)
      (lexes_compactItems vs (fun v hv ↦ hvs v (List.mem_cons_of_mem _ hv)) h)).comma

theorem lexes_compactMembers (ms : List (String × Json)) (hms : ∀ m ∈ ms, m.2.Readable)
    {r : List Char} {ts : List Token} (h : Lexes r ts) :
    Lexes (compactMembers ms ++ r) (tokensMembers ms ++ ts) := by
  match ms with
  | [] => exact h.closeBrace
  | (k, v) :: ms =>
    simp only [compactMembers, tokensMembers, List.cons_append, List.append_assoc]
    exact ((lexes_compact v (hms (k, v) List.mem_cons_self) (ends_compactMembers ms r)
      (lexes_compactMembers ms (fun m hm ↦ hms m (List.mem_cons_of_mem _ hm)) h)).colon.string
        k).comma

end

theorem Token.Lexes.newline {r : List Char} {ts : List Token} (h : Lexes r ts) (level : Nat) :
    Lexes (Json.newline level ++ r) ts := by
  refine h.blanks fun c hc ↦ ?_
  rcases List.mem_cons.1 hc with rfl | hc
  · rfl
  · rw [List.eq_of_mem_replicate hc]
    rfl

theorem ends_prettyItems (level : Nat) (vs : List Json) (r : List Char) :
    Ends (prettyItems level vs ++ r) := by
  cases vs with
  | nil => exact ends_cons (by simp) _
  | cons v vs => exact ends_cons (by simp) _

theorem ends_prettyMembers (level : Nat) (ms : List (String × Json)) (r : List Char) :
    Ends (prettyMembers level ms ++ r) := by
  cases ms with
  | nil => exact ends_cons (by simp) _
  | cons m ms => exact ends_cons (by simp) _

mutual

/-- The indented text is cut into the same tokens. -/
theorem lexes_pretty (level : Nat) (v : Json) (hv : v.Readable) {r : List Char} {ts : List Token}
    (hr : Ends r) (h : Lexes r ts) : Lexes (v.prettyChars level ++ r) (v.tokens ++ ts) := by
  match v, hv with
  | .null, hv | .bool _, hv | .number _, hv | .string _, hv | .array [], hv | .object [], hv =>
    exact lexes_compact _ hv hr h
  | .array (v :: vs), .array hvs =>
    simp only [prettyChars, tokens, List.cons_append, List.append_assoc]
    exact ((lexes_pretty (level + 1) v (hvs v List.mem_cons_self) (ends_prettyItems level vs r)
      (lexes_prettyItems level vs (fun v hv ↦ hvs v (List.mem_cons_of_mem _ hv)) h)).newline
        (level + 1)).openBracket
  | .object ((k, v) :: ms), .object hms =>
    simp only [prettyChars, tokens, List.cons_append, List.append_assoc]
    exact (((((lexes_pretty (level + 1) v (hms (k, v) List.mem_cons_self)
      (ends_prettyMembers level ms r) (lexes_prettyMembers level ms
        (fun m hm ↦ hms m (List.mem_cons_of_mem _ hm)) h)).blank rfl).colon.string k).newline
          (level + 1))).openBrace

theorem lexes_prettyItems (level : Nat) (vs : List Json) (hvs : ∀ v ∈ vs, v.Readable)
    {r : List Char} {ts : List Token} (h : Lexes r ts) :
    Lexes (prettyItems level vs ++ r) (tokensItems vs ++ ts) := by
  match vs with
  | [] =>
    simp only [prettyItems, List.append_assoc]
    exact h.closeBracket.newline level
  | v :: vs =>
    simp only [prettyItems, tokensItems, List.cons_append, List.append_assoc]
    exact ((lexes_pretty (level + 1) v (hvs v List.mem_cons_self) (ends_prettyItems level vs r)
      (lexes_prettyItems level vs (fun v hv ↦ hvs v (List.mem_cons_of_mem _ hv)) h)).newline
        (level + 1)).comma

theorem lexes_prettyMembers (level : Nat) (ms : List (String × Json))
    (hms : ∀ m ∈ ms, m.2.Readable) {r : List Char} {ts : List Token} (h : Lexes r ts) :
    Lexes (prettyMembers level ms ++ r) (tokensMembers ms ++ ts) := by
  match ms with
  | [] =>
    simp only [prettyMembers, List.append_assoc]
    exact h.closeBrace.newline level
  | (k, v) :: ms =>
    simp only [prettyMembers, tokensMembers, List.cons_append, List.append_assoc]
    exact (((((lexes_pretty (level + 1) v (hms (k, v) List.mem_cons_self)
      (ends_prettyMembers level ms r) (lexes_prettyMembers level ms
        (fun m hm ↦ hms m (List.mem_cons_of_mem _ hm)) h)).blank rfl).colon.string k).newline
          (level + 1))).comma

end

end Rearrangement.Json
