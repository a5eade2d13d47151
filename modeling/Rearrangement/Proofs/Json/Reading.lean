import Rearrangement.Json.Reader
import Rearrangement.Proofs.Json.Lexing

/-!
# Written values read back

The reader completes a value at the last of its tokens, whatever has been opened before it
(`reaches_complete`).  So a value of which every number reads back is read from what is written of
it, in the compact layout as in the pretty one (`read?_compact`, `read?_pretty`).

## Main statements

* `reaches_complete`: the tokens of a value complete it, in any place.
* `ofTokens?_tokens`: so the reader gets the value from its tokens.
* `read?_compact`, `read?_pretty`: and from its text.
* `whole?_of_readable`: a value that is not nested too deep passes the checks on what is read.

The reader keeps a stack of what is open.  The induction is on the value, for all stacks at once,
since the items of a value are read with the value on the stack.
-/

namespace Rearrangement.Json

open Token

namespace Reader

variable {a b c : Reader} {t : Token} {ts us : List Token}

/-- The tokens lead the reader from `a` to `b`. -/
def Reaches (a : Reader) (ts : List Token) (b : Reader) : Prop := ts.foldlM step a = some b

theorem Reaches.cons (h : b.Reaches ts c) (hstep : a.step t = some b) : a.Reaches (t :: ts) c := by
  rw [Reaches, List.foldlM_cons, hstep]
  exact h

/-- Tokens are read one after the other. -/
theorem Reaches.append (h : a.Reaches ts b) (h' : b.Reaches us c) : a.Reaches (ts ++ us) c := by
  rw [Reaches, List.foldlM_append, h]
  exact h'

theorem reaches_self (a : Reader) : a.Reaches [] a := rfl

theorem close_map (ms : List (String × Json)) :
    close (ms.map fun m ↦ (some m.1, m.2)) = .object ms := by
  have hkeys : (ms.map fun m ↦ (some m.1, m.2)).mapM (fun m ↦ m.1.map (·, m.2)) = some ms := by
    induction ms with
    | nil => rfl
    | cons m ms ih =>
      rw [List.map_cons, List.mapM_cons, ih]
      rfl
  rw [close, hkeys]

/-- The first item of an array is read like a value in the array. -/
theorem reaches_firstItem {v : Json} {stack : List Frame}
    (h : (value (.array [] :: stack)).Reaches v.tokens b) :
    (firstItem stack).Reaches v.tokens b := by
  cases v with
  | array vs => cases vs <;> exact h
  | object ms => cases ms <;> exact h
  | null | bool | number | string | unreadable => exact h

mutual

/-- The tokens of a document bring the reader from where a value may begin to where that value is
complete, whatever it is a part of. -/
theorem reaches_complete (v : Json) (hv : v.Readable) (stack : List Frame) :
    (value stack).Reaches v.tokens (complete v stack) := by
  match v, hv with
  | .null, _ | .bool _, _ | .number _, _ | .string _, _ => exact (reaches_self _).cons rfl
  | .array [], _ => exact ((reaches_self _).cons rfl).cons rfl
  | .array (v :: vs), .array hvs =>
    rw [tokens]
    refine Reaches.cons (b := firstItem stack) ?_ rfl
    exact (reaches_firstItem (reaches_complete v (hvs v List.mem_cons_self) _)).append
      (reaches_items vs (fun v hv ↦ hvs v (List.mem_cons_of_mem _ hv)) v [] stack)
  | .object [], _ => exact ((reaches_self _).cons rfl).cons rfl
  | .object ((k, v) :: ms), .object hms =>
    rw [tokens]
    exact ((((reaches_complete v (hms (k, v) List.mem_cons_self) _).append
      (reaches_members ms (fun m hm ↦ hms m (List.mem_cons_of_mem _ hm)) k v []
        stack)).cons rfl).cons rfl).cons rfl

/-- The rest of an array is read after the item `v`. -/
theorem reaches_items (vs : List Json) (hvs : ∀ v ∈ vs, v.Readable) (v : Json) (done : List Json)
    (stack : List Frame) : (complete v (.array done :: stack)).Reaches (tokensItems vs)
      (complete (.array ((v :: done).reverse ++ vs)) stack) := by
  match vs with
  | [] =>
    rw [List.append_nil]
    exact (reaches_self _).cons rfl
  | w :: vs =>
    rw [tokensItems]
    refine Reaches.cons (b := value (.array (v :: done) :: stack)) ?_ rfl
    have hlater := reaches_items vs (fun v hv ↦ hvs v (List.mem_cons_of_mem _ hv)) w (v :: done)
      stack
    rw [List.reverse_cons, List.append_assoc] at hlater
    exact (reaches_complete w (hvs w List.mem_cons_self) _).append hlater

/-- The rest of an object is read after the member of key `k` and value `v`. -/
theorem reaches_members (ms : List (String × Json)) (hms : ∀ m ∈ ms, m.2.Readable) (k : String)
    (v : Json) (done : List (String × Json)) (stack : List Frame) :
    (complete v (.object (done.map fun m ↦ (some m.1, m.2)) (some k) :: stack)).Reaches
      (tokensMembers ms) (complete (.object (((k, v) :: done).reverse ++ ms)) stack) := by
  match ms with
  | [] =>
    refine (reaches_self _).cons ?_
    rw [List.append_nil, ← close_map, List.map_reverse, List.map_cons]
    rfl
  | (l, w) :: ms =>
    rw [tokensMembers]
    have hlater := reaches_members ms (fun m hm ↦ hms m (List.mem_cons_of_mem _ hm)) l w
      ((k, v) :: done) stack
    rw [List.reverse_cons, List.append_assoc] at hlater
    exact ((((reaches_complete w (hms (l, w) List.mem_cons_self) _).append hlater).cons rfl).cons
      rfl).cons rfl

end

end Reader

/-! ## Texts -/

variable {v : Json}

/-- A document is read back from its tokens. -/
theorem ofTokens?_tokens (hv : v.Readable) : ofTokens? v.tokens = some v := by
  rw [ofTokens?, Reader.reaches_complete v hv []]
  rfl

theorem read?_of_lexes {cs : List Char} (hv : v.Readable) (h : Lexes cs v.tokens) :
    read? (String.ofList cs) = some v := by
  rw [read?, String.toList_ofList, ofChars?, h.lex?]
  exact ofTokens?_tokens hv

/-- It is read back from its compact text. -/
theorem read?_compact (hv : v.Readable) : read? v.compact = some v := by
  have h := lexes_compact v hv ends_nil lexes_nil
  rw [List.append_nil, List.append_nil] at h
  exact read?_of_lexes hv h

/-- It is read back from its indented text. -/
theorem read?_pretty (hv : v.Readable) : read? v.pretty = some v := by
  have h := lexes_pretty 0 v hv ends_nil lexes_nil
  rw [List.append_nil, List.append_nil] at h
  exact read?_of_lexes hv h

/-! ## Values that are legible and not nested too deep -/

mutual

theorem Readable.legible (v : Json) (hv : v.Readable) : v.legible = true := by
  match v, hv with
  | .null, _ | .bool _, _ | .number _, _ | .string _, _ => rfl
  | .array vs, .array hvs => exact legibleItems_of_readable vs hvs
  | .object ms, .object hms => exact legibleMembers_of_readable ms hms

theorem legibleItems_of_readable (vs : List Json) (hvs : ∀ v ∈ vs, v.Readable) :
    legibleItems vs = true := by
  match vs with
  | [] => rfl
  | v :: vs =>
    rw [legibleItems, Readable.legible v (hvs v List.mem_cons_self),
      legibleItems_of_readable vs fun v hv ↦ hvs v (List.mem_cons_of_mem _ hv)]
    rfl

theorem legibleMembers_of_readable (ms : List (String × Json)) (hms : ∀ m ∈ ms, m.2.Readable) :
    legibleMembers ms = true := by
  match ms with
  | [] => rfl
  | (k, v) :: ms =>
    rw [legibleMembers, Readable.legible v (hms (k, v) List.mem_cons_self),
      legibleMembers_of_readable ms fun m hm ↦ hms m (List.mem_cons_of_mem _ hm)]
    rfl

end

theorem depthItems_le {vs : List Json} {n : Nat} (h : ∀ v ∈ vs, v.depth ≤ n) :
    depthItems vs ≤ n := by
  induction vs with
  | nil => exact Nat.zero_le n
  | cons v vs ih =>
    rw [depthItems]
    exact Nat.max_le.2 ⟨h v List.mem_cons_self, ih fun v hv ↦ h v (List.mem_cons_of_mem _ hv)⟩

theorem depthMembers_le {ms : List (String × Json)} {n : Nat} (h : ∀ m ∈ ms, m.2.depth ≤ n) :
    depthMembers ms ≤ n := by
  induction ms with
  | nil => exact Nat.zero_le n
  | cons m ms ih =>
    rw [depthMembers]
    exact Nat.max_le.2 ⟨h m List.mem_cons_self, ih fun m hm ↦ h m (List.mem_cons_of_mem _ hm)⟩

/-- A document that is not too deep is accepted as a whole. -/
theorem whole?_of_readable (hv : v.Readable) (hdepth : v.depth ≤ depthLimit) :
    v.whole? = some v := by
  rw [whole?, hv.legible, decide_eq_true hdepth]
  rfl

end Rearrangement.Json
