import Mathlib.Tactic
import ProgressTable.Proofs.Json.Value
import ProgressTable.Proofs.Text.Dict

/-!
# Reading the tokens of a value

`Reads reader ts a` says that a reader takes certain tokens from the front of a source, whatever
comes behind them, and makes `a` of them. It is all that one needs to know about the reader of an
item to know what the reader of an array does, and likewise for the members of an object.

Arrays and objects are read one item at a time with a comma before all items but the first, so the
induction is on the items that are left, and `Value.itemTokens_cons` brings the tokens into that
shape.
-/

namespace ProgressTable.Json

/-! ## Sources as lists of tokens -/

/-- The tokens that are left in a source. -/
def Source.tokens (s : Source) : List Token := s.lexemes.map Lexeme.token

theorem Source.tokens_withLexemes (s : Source) (ls : List Lexeme) :
    (s.withLexemes ls).tokens = ls.map Lexeme.token := rfl

theorem Source.lexemes_of_tokens {s : Source} {t : Token} {ts : List Token}
    (h : s.tokens = t :: ts) :
    ∃ l r, s.lexemes = l :: r ∧ l.token = t ∧ r.map Lexeme.token = ts :=
  List.map_eq_cons_iff.1 h

/-- The reader takes these tokens from the front of any source and gives `a`. -/
def Reads {α : Type} (reader : Reader α) (ts : List Token) (a : α) : Prop :=
  ∀ (s : Source) (rest : List Token), s.tokens = ts ++ rest →
    ∃ s', reader s = .ok (a, s') ∧ s'.tokens = rest

theorem tokens_ofText {ts : List Token} {t : Text} (h : Spells ts t) :
    (Source.ofText t).tokens = ts := by
  obtain ⟨q, hq⟩ := h .start [] delimited_nil
  rw [List.append_nil, tokensAt_nil, List.append_nil] at hq
  exact hq

/-- A text that spells what a reader takes is read as a whole. -/
theorem readText_of_spells {α : Type} {reader : Reader α} {ts : List Token} {t : Text} {a : α}
    (hreads : Reads reader ts a) (hspells : Spells ts t) : readText reader t = .ok a := by
  obtain ⟨s, hs, htokens⟩ := hreads (Source.ofText t) [] (by rw [tokens_ofText hspells,
    List.append_nil])
  have hnil : s.lexemes = [] := List.map_eq_nil_iff.1 htokens
  simp only [readText, hs, bind, Except.bind, hnil]
  rfl

/-! ## Scalars -/

section Scalars

variable {α : Type}

theorem reads_scalar {expected : Text} {accept : Lexeme → Option (Except Error α)} {t : Token}
    {a : α} (h : ∀ l : Lexeme, l.token = t → accept l = some (.ok a)) :
    Reads (scalar expected accept) [t] a := by
  intro s rest hs
  obtain ⟨l, r, hl, ht, hr⟩ := Source.lexemes_of_tokens hs
  refine ⟨s.withLexemes r, ?_, hr⟩
  rw [scalar, hl]
  simp only [h l ht, Except.map]

theorem reads_text (t : Text) : Reads text (Value.text t).tokens t :=
  reads_scalar fun l hl => by simp only [hl, Token.ofText]

theorem reads_bool (b : Bool) : Reads bool (Value.bool b).tokens b :=
  reads_scalar fun l hl => by simp only [hl]

theorem reads_integer {expected : Text} {fit : Int → Option α} {n : Int} {a : α}
    (h : fit n = some a) : Reads (integer expected fit) (Value.number (.integer n)).tokens a :=
  reads_scalar fun l hl => by simp only [hl, h]

theorem reads_int64 (n : Int64) : Reads int64 (Value.int64 n).tokens n :=
  reads_integer (Numeral.int64?_toInt n)

theorem reads_count {n : Nat} (h : n < Word.bound64) : Reads count (Value.nat n).tokens n := by
  apply reads_integer
  rw [if_pos (by omega), Int.toNat_natCast, Word.count?, if_pos h]

end Scalars

/-! ## Items -/

theorem length_le_length_flatMap_cons {α β : Type} (b : β) (f : α → List β) (xs : List α) :
    xs.length ≤ (xs.flatMap fun x => b :: f x).length := by
  induction xs with
  | nil => exact Nat.le_refl _
  | cons x xs ih =>
    rw [List.flatMap_cons, List.length_append, List.length_cons, List.length_cons]
    omega

/-- A bound above the length of a list leaves one above the length of its tail. -/
theorem exists_eq_succ_of_length_lt {α : Type} {x : α} {xs : List α} {bound : Nat}
    (h : (x :: xs).length < bound) : ∃ n, bound = n + 1 ∧ xs.length < n := by
  rw [List.length_cons] at h
  exact ⟨bound - 1, by omega, by omega⟩

namespace Source

variable {s : Source} {t : Token} {ts : List Token}

theorem nextItem?_close (first : Bool) (h : s.tokens = .mark ']' :: ts) :
    s.nextItem? first = .ok none := by
  obtain ⟨l, r, hl, ht, -⟩ := lexemes_of_tokens h
  simp only [nextItem?, hl, ht]

theorem nextItem?_first (h : s.tokens = t :: ts) (hclose : t ≠ .mark ']') :
    s.nextItem? true = .ok (some s) := by
  obtain ⟨l, r, hl, ht, -⟩ := lexemes_of_tokens h
  simp only [nextItem?, hl]
  split
  · next he => exact absurd (ht.symm.trans he) hclose
  · rfl
  · next hfirst => exact absurd hfirst Bool.true_eq_false_eq_False
  · next hfirst _ _ => exact absurd hfirst Bool.true_eq_false_eq_False

theorem nextItem?_comma (h : s.tokens = .mark ',' :: t :: ts) (hclose : t ≠ .mark ']') :
    ∃ s', s.nextItem? false = .ok (some s') ∧ s'.tokens = t :: ts := by
  obtain ⟨l, r, hl, ht, hr⟩ := lexemes_of_tokens h
  obtain ⟨l', r', hl', ht', -⟩ := List.map_eq_cons_iff.1 hr
  refine ⟨s.withLexemes r, ?_, hr⟩
  simp only [nextItem?, hl, ht, hl']
  split
  · next he => exact absurd (ht'.symm.trans he) hclose
  · rfl

end Source

section Items

variable {α : Type} {item : Reader α}

theorem items_close (first : Bool) {bound : Nat} {s : Source} {rest : List Token}
    (hbound : 0 < bound) (h : s.tokens = .mark ']' :: rest) :
    ∃ s', items item first bound s = .ok ([], s') ∧ s'.tokens = rest := by
  obtain ⟨n, rfl⟩ := Nat.exists_eq_succ_of_ne_zero hbound.ne'
  refine ⟨s.withLexemes s.lexemes.tail, ?_, ?_⟩
  · simp only [items, Source.nextItem?_close first h, bind, Except.bind]
    rfl
  · rw [Source.tokens_withLexemes, List.map_tail]
    exact congrArg List.tail h

/-- One item and what follows it. -/
theorem items_cons {first : Bool} {bound : Nat} {s s₁ s₂ s₃ : Source} {a : α} {as : List α}
    (hnext : s.nextItem? first = .ok (some s₁)) (hitem : item s₁ = .ok (a, s₂))
    (hmore : items item false bound s₂ = .ok (as, s₃)) :
    items item first (bound + 1) s = .ok (a :: as, s₃) := by
  simp only [items, hnext, hitem, hmore, bind, Except.bind]
  rfl

/-- The items behind the first one. -/
theorem items_more {vs : List Value} {as : List α}
    (h : List.Forall₂ (fun v a => Reads item v.tokens a) vs as) {bound : Nat} {s : Source}
    {rest : List Token} (hbound : vs.length < bound)
    (hs : s.tokens = (vs.flatMap fun v => .mark ',' :: v.tokens) ++ .mark ']' :: rest) :
    ∃ s', items item false bound s = .ok (as, s') ∧ s'.tokens = rest := by
  -- along the items; the bound falls with each of them and never reaches zero
  induction h generalizing bound s with
  | nil => exact items_close false hbound hs
  | @cons v a vs as hv _ ih =>
    obtain ⟨n, rfl, hlen⟩ := exists_eq_succ_of_length_lt hbound
    obtain ⟨t, ts, ht, hclose⟩ := v.exists_tokens_eq_cons
    rw [List.flatMap_cons, List.cons_append, List.cons_append, List.append_assoc, ht,
      List.cons_append] at hs
    -- a comma, the item, and then the items behind it
    obtain ⟨s₁, hnext, hs₁⟩ := Source.nextItem?_comma hs hclose
    rw [← List.cons_append, ← ht] at hs₁
    obtain ⟨s₂, hitem, hs₂⟩ := hv s₁ _ hs₁
    obtain ⟨s₃, hmore, hs₃⟩ := ih hlen hs₂
    exact ⟨s₃, items_cons hnext hitem hmore, hs₃⟩

theorem items_itemTokens {vs : List Value} {as : List α}
    (h : List.Forall₂ (fun v a => Reads item v.tokens a) vs as) (bound : Nat) {s : Source}
    {rest : List Token} (hbound : vs.length < bound)
    (hs : s.tokens = Value.itemTokens vs ++ .mark ']' :: rest) :
    ∃ s', items item true bound s = .ok (as, s') ∧ s'.tokens = rest := by
  cases h with
  | nil => exact items_close true hbound hs
  | @cons v a vs as hv hvs =>
    obtain ⟨n, rfl, hlen⟩ := exists_eq_succ_of_length_lt hbound
    obtain ⟨t, ts, ht, hclose⟩ := v.exists_tokens_eq_cons
    rw [Value.itemTokens_cons, List.append_assoc] at hs
    have hhead := hs
    rw [ht, List.cons_append] at hhead
    obtain ⟨s₂, hitem, hs₂⟩ := hv s _ hs
    obtain ⟨s₃, hmore, hs₃⟩ := items_more hvs hlen hs₂
    exact ⟨s₃, items_cons (Source.nextItem?_first hhead hclose) hitem hmore, hs₃⟩

/-- There are no more items than tokens. -/
theorem length_le_itemTokens (vs : List Value) : vs.length ≤ (Value.itemTokens vs).length := by
  cases vs with
  | nil => exact Nat.zero_le _
  | cons v vs =>
    obtain ⟨t, ts, ht, -⟩ := v.exists_tokens_eq_cons
    have hvs := length_le_length_flatMap_cons (Token.mark ',') Value.tokens vs
    rw [Value.itemTokens_cons, List.length_append, ht, List.length_cons, List.length_cons]
    omega

theorem reads_array {vs : List Value} {as : List α}
    (h : List.Forall₂ (fun v a => Reads item v.tokens a) vs as) :
    Reads (array item) (Value.array vs).tokens as := by
  intro s rest hs
  rw [Value.tokens, List.cons_append, List.append_assoc, List.singleton_append] at hs
  obtain ⟨l, r, hl, ht, hr⟩ := Source.lexemes_of_tokens hs
  have hlen := congrArg List.length hr
  -- the reader bounds the number of items by that of the lexemes left
  have hle := length_le_itemTokens vs
  rw [List.length_map, List.length_append] at hlen
  obtain ⟨s', hs', hrest⟩ := items_itemTokens h (r.length + 1) (s := s.withLexemes r)
    (by omega) hr
  refine ⟨s', ?_, hrest⟩
  rw [array, container, hl]
  simp only [ht, if_pos]
  exact hs'

/-- A list is read back from the array of its items if each item is read back. -/
theorem reads_array_map {value : α → Value} (h : ∀ a, Reads item (value a).tokens a)
    (as : List α) : Reads (array item) (Value.array (as.map value)).tokens as := by
  apply reads_array
  rw [List.forall₂_map_left_iff]
  exact List.forall₂_same.2 fun a _ => h a

end Items

/-! ## Members -/

namespace Source

variable {s : Source} {ts : List Token}

theorem nextKey?_close (first : Bool) (h : s.tokens = .mark '}' :: ts) :
    s.nextKey? first = .ok none := by
  obtain ⟨l, r, hl, ht, -⟩ := lexemes_of_tokens h
  simp only [nextKey?, hl, ht]

theorem nextKey?_first {k : Text} (h : s.tokens = .ofText k :: ts) :
    s.nextKey? true = .ok (some s) := by
  obtain ⟨l, r, hl, ht, -⟩ := lexemes_of_tokens h
  simp only [nextKey?, hl, ht, Token.ofText]

theorem nextKey?_comma {k : Text} (h : s.tokens = .mark ',' :: .ofText k :: ts) :
    ∃ s', s.nextKey? false = .ok (some s') ∧ s'.tokens = .ofText k :: ts := by
  obtain ⟨l, r, hl, ht, hr⟩ := lexemes_of_tokens h
  obtain ⟨l', r', hl', ht', -⟩ := List.map_eq_cons_iff.1 hr
  refine ⟨s.withLexemes r, ?_, hr⟩
  simp only [nextKey?, hl, ht, hl', ht', Token.ofText]

end Source

theorem key_ofText {s : Source} {k : Text} {ts : List Token} (h : s.tokens = .ofText k :: ts) :
    ∃ s', key s = .ok (k, s') ∧ s'.tokens = ts := by
  obtain ⟨l, r, hl, ht, hr⟩ := Source.lexemes_of_tokens h
  refine ⟨s.withLexemes r, ?_, hr⟩
  simp only [key, hl, ht, Token.ofText, Except.map]

theorem colon_mark {s : Source} {ts : List Token} (h : s.tokens = .mark ':' :: ts) :
    ∃ s', colon s = .ok ((), s') ∧ s'.tokens = ts := by
  obtain ⟨l, r, hl, ht, hr⟩ := Source.lexemes_of_tokens h
  refine ⟨s.withLexemes r, ?_, hr⟩
  simp only [colon, hl, ht]

section Members

variable {α : Type} {value : Reader α}

/-- The members have these keys, and their values are read as these. -/
def ReadsMembers (value : Reader α) : List (Text × Value) → List (Text × α) → Prop :=
  List.Forall₂ fun m e => m.1 = e.1 ∧ Reads value m.2.tokens e.2

theorem members_close (first : Bool) {bound : Nat} {s : Source} {rest : List Token}
    (hbound : 0 < bound) (h : s.tokens = .mark '}' :: rest) :
    ∃ s', members value first bound s = .ok ([], s') ∧ s'.tokens = rest := by
  obtain ⟨n, rfl⟩ := Nat.exists_eq_succ_of_ne_zero hbound.ne'
  refine ⟨s.withLexemes s.lexemes.tail, ?_, ?_⟩
  · simp only [members, Source.nextKey?_close first h, bind, Except.bind]
    rfl
  · rw [Source.tokens_withLexemes, List.map_tail]
    exact congrArg List.tail h

/-- One member and what follows it. -/
theorem members_cons {first : Bool} (bound : Nat) {s s₁ : Source} {m : Text × Value} {a : α}
    {ts : List Token} (hnext : s.nextKey? first = .ok (some s₁))
    (hs₁ : s₁.tokens = Value.oneMemberTokens m ++ ts) (hm : Reads value m.2.tokens a) :
    ∃ s₂, s₂.tokens = ts ∧ ∀ as s₃, members value false bound s₂ = .ok (as, s₃) →
      members value first (bound + 1) s = .ok ((m.1, a) :: as, s₃) := by
  obtain ⟨s₂, hkey, hs₂⟩ := key_ofText hs₁
  obtain ⟨s₃, hcolon, hs₃⟩ := colon_mark hs₂
  obtain ⟨s₄, hvalue, hs₄⟩ := hm s₃ ts hs₃
  refine ⟨s₄, hs₄, fun as s₅ hmore => ?_⟩
  simp only [members, hnext, hkey, hcolon, hvalue, hmore, bind, Except.bind]
  rfl

/-- The members behind the first one. -/
theorem members_more {ms : List (Text × Value)} {es : List (Text × α)}
    (h : ReadsMembers value ms es) {bound : Nat} {s : Source} {rest : List Token}
    (hbound : ms.length < bound)
    (hs : s.tokens
      = (ms.flatMap fun m => .mark ',' :: Value.oneMemberTokens m) ++ .mark '}' :: rest) :
    ∃ s', members value false bound s = .ok (es, s') ∧ s'.tokens = rest := by
  -- along the members, as for items
  induction h generalizing bound s with
  | nil => exact members_close false hbound hs
  | @cons m e ms es hm _ ih =>
    obtain ⟨n, rfl, hlen⟩ := exists_eq_succ_of_length_lt hbound
    rw [List.flatMap_cons, List.cons_append, List.cons_append, List.append_assoc] at hs
    obtain ⟨s₁, hnext, hs₁⟩ := Source.nextKey?_comma hs
    obtain ⟨s₂, hs₂, hmember⟩ := members_cons n hnext hs₁ hm.2
    obtain ⟨s₃, hmore, hs₃⟩ := ih hlen hs₂
    refine ⟨s₃, ?_, hs₃⟩
    rw [hmember es s₃ hmore, hm.1]

theorem members_memberTokens {ms : List (Text × Value)} {es : List (Text × α)}
    (h : ReadsMembers value ms es) (bound : Nat) {s : Source} {rest : List Token}
    (hbound : ms.length < bound)
    (hs : s.tokens = Value.memberTokens ms ++ .mark '}' :: rest) :
    ∃ s', members value true bound s = .ok (es, s') ∧ s'.tokens = rest := by
  cases h with
  | nil => exact members_close true hbound hs
  | @cons m e ms es hm hms =>
    obtain ⟨n, rfl, hlen⟩ := exists_eq_succ_of_length_lt hbound
    rw [Value.memberTokens_cons, List.append_assoc] at hs
    obtain ⟨s₂, hs₂, hmember⟩ := members_cons n (Source.nextKey?_first hs) hs hm.2
    obtain ⟨s₃, hmore, hs₃⟩ := members_more hms hlen hs₂
    refine ⟨s₃, ?_, hs₃⟩
    rw [hmember es s₃ hmore, hm.1]

/-- There are no more members than tokens. -/
theorem length_le_memberTokens (ms : List (Text × Value)) :
    ms.length ≤ (Value.memberTokens ms).length := by
  cases ms with
  | nil => exact Nat.zero_le _
  | cons m ms =>
    have hms := length_le_length_flatMap_cons (Token.mark ',') Value.oneMemberTokens ms
    rw [Value.memberTokens_cons, List.length_append, Value.oneMemberTokens, List.length_cons,
      List.length_cons]
    omega

/-- An object is read as the dictionary of its members, which may stand in any order. -/
theorem reads_dict_ofList {ms : List (Text × Value)} {es : List (Text × α)}
    (h : ReadsMembers value ms es) :
    Reads (dict value) (Value.object ms).tokens (Dict.ofList es) := by
  intro s rest hs
  rw [Value.tokens, List.cons_append, List.append_assoc, List.singleton_append] at hs
  obtain ⟨l, r, hl, ht, hr⟩ := Source.lexemes_of_tokens hs
  have hlen := congrArg List.length hr
  have hle := length_le_memberTokens ms
  rw [List.length_map, List.length_append] at hlen
  obtain ⟨s', hs', hrest⟩ := members_memberTokens h (r.length + 1)
    (s := s.withLexemes r) (by omega) hr
  refine ⟨s', ?_, hrest⟩
  have hbody : members value true ((s.withLexemes r).lexemes.length + 1) (s.withLexemes r)
      = .ok (es, s') := hs'
  rw [dict, container, hl]
  simp only [ht, if_pos, hbody, bind, Except.bind]
  rfl

theorem reads_dict {ms : List (Text × Value)} {d : Dict α}
    (h : ReadsMembers value ms d.entries) : Reads (dict value) (Value.object ms).tokens d := by
  have hreads := reads_dict_ofList h
  rwa [Dict.ofList_entries] at hreads

end Members

/-! ## Values -/

namespace Value

/-- At most `depth` containers are nested in the value, and the keys of each object rise. -/
def Ordered : (depth : Nat) → Value → Prop
  | 0, .array _ => False
  | 0, .object _ => False
  | depth + 1, .array vs => ∀ v ∈ vs, Ordered depth v
  | depth + 1, .object ms =>
    (ms.map Prod.fst).Pairwise (· < ·) ∧ ∀ m ∈ ms, Ordered depth m.2
  | _, _ => True

theorem reads_read_token (depth : Nat) {v : Value} {t : Token} (hv : v.tokens = [t])
    (hmark : ∀ c, t ≠ .mark c) (hscalar : ∀ l : Lexeme, l.token = t → readScalar l = .ok v) :
    Reads (read depth) v.tokens v := by
  rw [hv]
  intro s rest hs
  obtain ⟨l, r, hl, ht, hr⟩ := Source.lexemes_of_tokens hs
  refine ⟨s.withLexemes r, ?_, hr⟩
  have hmark' : ∀ c, l.token ≠ .mark c := by rwa [ht]
  cases depth <;> rw [read, hl] <;> dsimp only <;> split
  -- a mark, for either kind of container
  · next he => exact absurd he (hmark' _)
  · next he => exact absurd he (hmark' _)
  · rw [hscalar l ht]
    rfl
  · next he => exact absurd he (hmark' _)
  · next he => exact absurd he (hmark' _)
  · rw [hscalar l ht]
    rfl

theorem reads_read_scalar (depth : Nat) {v : Value} (harray : ∀ vs, v ≠ .array vs)
    (hobject : ∀ ms, v ≠ .object ms) : Reads (read depth) v.tokens v := by
  cases v with
  | null => exact reads_read_token depth rfl (by simp) fun l hl => by simp only [readScalar, hl]
  | bool b => exact reads_read_token depth rfl (by simp) fun l hl => by simp only [readScalar, hl]
  | number n =>
    exact reads_read_token depth rfl (by simp) fun l hl => by
      simp only [readScalar, hl, Except.map]
  | text t =>
    exact reads_read_token depth rfl (by simp [Token.ofText]) fun l hl => by
      simp only [readScalar, hl, Token.ofText, Except.map]
  | array vs => exact absurd rfl (harray vs)
  | object ms => exact absurd rfl (hobject ms)

/-- An array is read like any array whose items are values. -/
theorem read_array {depth : Nat} {s : Source} {ts : List Token}
    (h : s.tokens = .mark '[' :: ts) :
    read (depth + 1) s = (Json.array (read depth) s).map fun (vs, s') => (.array vs, s') := by
  obtain ⟨l, r, hl, ht, -⟩ := Source.lexemes_of_tokens h
  simp only [read, Json.array, container, hl, ht, if_pos]
  rfl

/-- An object is read like any dictionary of values. -/
theorem read_object {depth : Nat} {s : Source} {ts : List Token}
    (h : s.tokens = .mark '{' :: ts) :
    read (depth + 1) s
      = (dict (read depth) s).map fun (d, s') => (.object d.entries, s') := by
  obtain ⟨l, r, hl, ht, -⟩ := Source.lexemes_of_tokens h
  simp only [read, dict, container, hl, ht, if_pos]
  have hlen : (s.withLexemes r).lexemes.length = r.length := rfl
  rw [hlen]
  cases members (read depth) true (r.length + 1) (s.withLexemes r) <;> rfl

theorem readScalar_ne_object (l : Lexeme) (ms : List (Text × Value)) :
    readScalar l ≠ .ok (.object ms) := by
  intro h
  rw [readScalar] at h
  split at h
  · cases h
  · cases h
  · next x _ _ => cases x <;> cases h
  · next x _ _ => cases x <;> cases h
  · cases h
  · cases h

/-- What is read as an object begins with an opening brace. -/
theorem tokens_of_read_object {depth : Nat} {s s' : Source} {ms : List (Text × Value)}
    (h : read (depth + 1) s = .ok (.object ms, s')) : ∃ ts, s.tokens = .mark '{' :: ts := by
  rw [read] at h
  split at h
  · cases h
  · next l r hl =>
    have htokens : s.tokens = l.token :: r.map Lexeme.token := by
      rw [Source.tokens, hl, List.map_cons]
    split at h
    · next x _ => cases hx : items (read depth) true (r.length + 1) (s.withLexemes r) with
      | error e => rw [hx] at h; cases h
      | ok y => rw [hx] at h; cases h
    · next hopen => exact ⟨_, by rw [htokens, hopen]⟩
    · cases hx : readScalar l with
      | error e => rw [hx] at h; cases h
      | ok v =>
        rw [hx] at h
        obtain ⟨rfl, -⟩ := Prod.mk.inj (Except.ok.inj h)
        exact absurd hx (readScalar_ne_object l ms)

/-- A value is read back from its tokens. -/
theorem reads_read {depth : Nat} {v : Value} (h : v.Ordered depth) :
    Reads (read depth) v.tokens v := by
  -- on the depth, not on the value: each container is read with one level less
  induction depth generalizing v with
  | zero =>
    cases v with
    | array vs => exact absurd h id
    | object ms => exact absurd h id
    | null | bool _ | number _ | text _ => exact reads_read_scalar 0 (by simp) (by simp)
  | succ depth ih =>
    cases v with
    | array vs =>
      intro s rest hs
      have hitems : List.Forall₂ (fun v a => Reads (read depth) v.tokens a) vs vs :=
        List.forall₂_same.2 fun v hv => ih (h v hv)
      obtain ⟨s', hs', hrest⟩ := reads_array hitems s rest hs
      refine ⟨s', ?_, hrest⟩
      rw [read_array hs, hs']
      rfl
    | object ms =>
      intro s rest hs
      have hmembers : ReadsMembers (read depth) ms ms :=
        List.forall₂_same.2 fun m hm => ⟨rfl, ih (h.2 m hm)⟩
      obtain ⟨s', hs', hrest⟩ := reads_dict (d := ⟨ms, h.1⟩) hmembers s rest hs
      refine ⟨s', ?_, hrest⟩
      rw [read_object hs, hs']
      rfl
    | null | bool _ | number _ | text _ => exact reads_read_scalar _ (by simp) (by simp)

/-- A text of an object is also read as a dictionary of values. -/
theorem readText_dict {depth : Nat} {t : Text} {ms : List (Text × Value)}
    (h : readText (read (depth + 1)) t = .ok (.object ms)) :
    ∃ d, readText (dict (read depth)) t = .ok d ∧ d.entries = ms := by
  cases hread : read (depth + 1) (Source.ofText t) with
  | error e =>
    simp only [readText, hread, bind, Except.bind] at h
    cases h
  | ok x =>
    obtain ⟨v, s⟩ := x
    simp only [readText, hread, bind, Except.bind] at h
    split at h
    · next hnil =>
      -- both readers go on behind the same opening brace
      obtain rfl := Except.ok.inj h
      obtain ⟨ts, hts⟩ := tokens_of_read_object hread
      rw [read_object hts] at hread
      cases hdict : dict (read depth) (Source.ofText t) with
      | error e => rw [hdict] at hread; cases hread
      | ok y =>
        rw [hdict] at hread
        obtain ⟨hobject, rfl⟩ := Prod.mk.inj (Except.ok.inj hread)
        refine ⟨y.1, ?_, Value.object.inj hobject⟩
        simp only [readText, hdict, bind, Except.bind, hnil]
        rfl
    · cases h

end Value

end ProgressTable.Json
