import Mathlib.Tactic
import ProgressTable.Json.Value
import ProgressTable.Proofs.Json.Spelling

/-!
# The tokens of a value

A value has its tokens (`Value.tokens`), and both ways of writing it, without blanks and on indented
lines, spell exactly these. The one thing a value must not hold for that is a binary number, or an
integer that fits no word (`Value.Plain`).
-/

namespace ProgressTable.Json

namespace Value

/-! ## Tokens -/

mutual

/-- The tokens of a value. -/
def tokens : Value → List Token
  | .null => [.null]
  | .bool b => [.bool b]
  | .number n => [.number (.ok n) (.ok ())]
  | .text t => [.ofText t]
  | .array vs => .mark '[' :: (itemTokens vs ++ [.mark ']'])
  | .object ms => .mark '{' :: (memberTokens ms ++ [.mark '}'])

/-- The tokens of the items of an array. -/
def itemTokens : List Value → List Token
  | [] => []
  | [v] => v.tokens
  | v :: vs => v.tokens ++ .mark ',' :: itemTokens vs

/-- The tokens of the members of an object. -/
def memberTokens : List (Text × Value) → List Token
  | [] => []
  | [(k, v)] => .ofText k :: .mark ':' :: v.tokens
  | (k, v) :: ms => .ofText k :: .mark ':' :: (v.tokens ++ .mark ',' :: memberTokens ms)

end

theorem itemTokens_cons (v : Value) (vs : List Value) :
    itemTokens (v :: vs) = v.tokens ++ vs.flatMap fun w => .mark ',' :: w.tokens := by
  induction vs generalizing v with
  | nil => simp [itemTokens]
  | cons w vs ih =>
    rw [itemTokens, ih w, List.flatMap_cons, List.cons_append]
    exact fun h => absurd h (by simp)

/-- The tokens of a member. -/
def oneMemberTokens (m : Text × Value) : List Token := .ofText m.1 :: .mark ':' :: m.2.tokens

theorem memberTokens_cons (m : Text × Value) (ms : List (Text × Value)) :
    memberTokens (m :: ms)
      = oneMemberTokens m ++ ms.flatMap fun x => .mark ',' :: oneMemberTokens x := by
  induction ms generalizing m with
  | nil => simp [memberTokens, oneMemberTokens]
  | cons x ms ih =>
    rw [memberTokens, ih x, List.flatMap_cons]
    · simp only [oneMemberTokens, List.cons_append]
    · exact fun h => absurd h (by simp)

/-- No value begins with a closing bracket. -/
theorem exists_tokens_eq_cons (v : Value) :
    ∃ t ts, v.tokens = t :: ts ∧ t ≠ .mark ']' := by
  cases v <;> exact ⟨_, _, by rw [tokens], by simp [Token.ofText]⟩

/-! ## Writing -/

/-- The numbers of the value are integers that fit a word of 64 bits, signed or not. -/
inductive Plain : Value → Prop
  | null : Plain .null
  | bool (b : Bool) : Plain (.bool b)
  | integer {n : Int} : -(Word.bound63 : Int) ≤ n → n < Word.bound64 → Plain (.number (.integer n))
  | text (t : Text) : Plain (.text t)
  | array {vs : List Value} : (∀ v ∈ vs, Plain v) → Plain (.array vs)
  | object {ms : List (Text × Value)} : (∀ m ∈ ms, Plain m.2) → Plain (.object ms)

theorem plain_nat {n : Nat} (h : n < Word.bound64) : Plain (.nat n) :=
  .integer (by simp only [Word.bound63]; omega) (by omega)

theorem plain_int64 (n : Int64) : Plain (.int64 n) := by
  have hlo := n.le_toInt
  have hhi := n.toInt_lt
  exact .integer (by simp only [Word.bound63]; omega) (by simp only [Word.bound64]; omega)

theorem delimited_mark {c : Char} (h : isMark c = true) (t : Text) : Delimited (c :: t) :=
  delimited_cons (.inr h) t

/-- The items of an array spell their tokens if each of them does. -/
theorem spells_compactItems {vs : List Value} (h : ∀ v ∈ vs, Spells v.tokens v.compact) :
    Spells (itemTokens vs) (compactItems vs) := by
  induction vs with
  | nil => exact .nil
  | cons v vs ih =>
    have hv := h v List.mem_cons_self
    cases vs with
    | nil => exact hv
    | cons w ws =>
      -- the comma ends a number before it
      have hrest := ih fun x hx => h x (List.mem_cons_of_mem v hx)
      exact hv.append (.mark (by decide) hrest) (delimited_mark (by decide) _)

/-- The members of an object spell their tokens if each of their values does. -/
theorem spells_compactMembers {ms : List (Text × Value)}
    (h : ∀ m ∈ ms, Spells m.2.tokens m.2.compact) :
    Spells (memberTokens ms) (compactMembers ms) := by
  induction ms with
  | nil => exact .nil
  | cons m ms ih =>
    obtain ⟨k, v⟩ := m
    have hv : Spells v.tokens v.compact := h (k, v) List.mem_cons_self
    cases ms with
    | nil => exact .quoted k (.mark (by decide) hv)
    | cons w ws =>
      have hrest := ih fun x hx => h x (List.mem_cons_of_mem _ hx)
      have hmore := hv.append (.mark (c := ',') (by decide) hrest) (delimited_mark (by decide) _)
      have hmember := Spells.quoted k (.mark (c := ':') (by decide) hmore)
      rw [compactMembers, List.append_assoc, List.cons_append]
      · exact hmember
      · exact fun h => absurd h (by simp)

/-- A value written without blanks spells its tokens. -/
theorem Plain.spells_compact {v : Value} (h : v.Plain) : Spells v.tokens v.compact := by
  induction h with
  | null => exact spells_null
  | bool b =>
    cases b with
    | true => exact spells_true
    | false => exact spells_false
  | integer hlo hhi => exact spells_ofInt hlo hhi
  | text t => exact spells_quote t
  | array _ ih =>
    have hitems := spells_compactItems ih
    exact .mark (by decide)
      (hitems.append (.mark (by decide) .nil) (delimited_mark (by decide) _))
  | object _ ih =>
    have hmembers := spells_compactMembers ih
    exact .mark (by decide)
      (hmembers.append (.mark (by decide) .nil) (delimited_mark (by decide) _))

/-! ## Writing on lines -/

theorem spells_indent (level : Nat) {ts : List Token} {t : Text} (h : Spells ts t) :
    Spells ts (indent level ++ t) := by
  have hblanks : ∀ n, Spells ts (List.replicate n ' ' ++ t) := by
    intro n
    induction n with
    | zero => exact h
    | succ n ih => exact .blank (by decide) ih
  exact .blank (by decide) (hblanks (2 * level))

theorem delimited_indent (level : Nat) (t : Text) : Delimited (indent level ++ t) :=
  delimited_cons (.inl (by decide)) _

theorem spells_prettyItems {vs : List Value} (level : Nat)
    (h : ∀ v ∈ vs, ∀ level, Spells v.tokens (v.pretty level)) :
    Spells (itemTokens vs) (prettyItems level vs) := by
  induction vs with
  | nil => exact .nil
  | cons v vs ih =>
    have hv := spells_indent level (h v List.mem_cons_self level)
    cases vs with
    | nil => exact hv
    | cons w ws =>
      have hrest := ih fun x hx => h x (List.mem_cons_of_mem v hx)
      exact hv.append (.mark (by decide) hrest) (delimited_mark (by decide) _)

theorem spells_prettyMembers {ms : List (Text × Value)} (level : Nat)
    (h : ∀ m ∈ ms, ∀ level, Spells m.2.tokens (m.2.pretty level)) :
    Spells (memberTokens ms) (prettyMembers level ms) := by
  induction ms with
  | nil => exact .nil
  | cons m ms ih =>
    obtain ⟨k, v⟩ := m
    have hv : Spells v.tokens (v.pretty level) := h (k, v) List.mem_cons_self level
    -- a key stands behind its indentation, and a blank behind the colon
    have hcolon : ∀ {ts : List Token} {t : Text}, Spells ts t →
        Spells (.ofText k :: .mark ':' :: ts) (indent level ++ (quote k ++ (": ".toList ++ t))) :=
      fun ht => spells_indent level (.quoted k (.mark (by decide) (.blank (by decide) ht)))
    cases ms with
    | nil =>
      have hmember := hcolon hv
      rwa [← List.append_assoc, ← List.append_assoc] at hmember
    | cons w ws =>
      have hrest := ih fun x hx => h x (List.mem_cons_of_mem _ hx)
      have hmore := hv.append (.mark (c := ',') (by decide) hrest) (delimited_mark (by decide) _)
      have hmember := hcolon hmore
      rwa [← List.append_assoc, ← List.append_assoc, ← List.append_assoc] at hmember

/-- A value written on lines spells its tokens. -/
theorem Plain.spells_pretty {v : Value} (h : v.Plain) (level : Nat) :
    Spells v.tokens (v.pretty level) := by
  induction h generalizing level with
  | null => exact spells_null
  | bool b => exact (Plain.bool b).spells_compact
  | integer hlo hhi => exact spells_ofInt hlo hhi
  | text t => exact spells_quote t
  | @array vs _ ih =>
    cases vs with
    -- nothing is put on a line of its own between the marks of an empty container
    | nil => exact .mark (by decide) (.mark (by decide) .nil)
    | cons v vs =>
      have hitems := spells_prettyItems (level + 1) ih
      have hclose := spells_indent level (.mark (c := ']') (by decide) .nil)
      have harray := hitems.append hclose (delimited_indent level _)
      rw [← List.append_assoc] at harray
      exact .mark (by decide) harray
  | @object ms _ ih =>
    cases ms with
    | nil => exact .mark (by decide) (.mark (by decide) .nil)
    | cons m ms =>
      have hmembers := spells_prettyMembers (level + 1) ih
      have hclose := spells_indent level (.mark (c := '}') (by decide) .nil)
      have hobject := hmembers.append hclose (delimited_indent level _)
      rw [← List.append_assoc] at hobject
      exact .mark (by decide) hobject

end Value
end ProgressTable.Json
