import Mathlib.Tactic
import ProgressTable.Proofs.Json.Reader

/-!
# Reading a record from its members

`Fills fields seen ms a b` says how the members of an object fill in a record, one after the other:
each member goes by the name of a field that was not given before, and the reader of that field
takes its value. An object whose members fill in a record is read as that record.
-/

namespace ProgressTable.Json.Record

variable {α : Type} {fields : List (Field α)}

/-- The members turn `a` into `b`, if the fields in `seen` have been given. -/
inductive Fills (fields : List (Field α)) : List Text → List (Text × Value) → α → α → Prop
  | nil {seen : List Text} {a : α} (hmissing : missing? fields seen = none) :
    Fills fields seen [] a a
  | cons {seen : List Text} {k : Text} {v : Value} {ms : List (Text × Value)} {f : Field α}
    {set : α → α} {a b : α} (hfield : find? fields k = some f) (hnew : f.name ∉ seen)
    (hvalue : Reads f.read v.tokens set) (hmore : Fills fields (f.name :: seen) ms (set a) b) :
    Fills fields seen ((k, v) :: ms) a b

/-- A field that may be left out reads the value that it is given. -/
theorem reads_optional {β : Type} {value : Reader β} {ts : List Token} {b : β}
    (h : Reads value ts b) (name : Text) (set : β → α → α) :
    Reads (Field.optional name value set).read ts (set b) := by
  intro s rest hs
  obtain ⟨s', hs', hrest⟩ := h s rest hs
  exact ⟨s', by simp only [Field.optional, hs', Except.map], hrest⟩

/-- A field that must be given reads its value in the same way. -/
theorem reads_needed {β : Type} {value : Reader β} {ts : List Token} {b : β}
    (h : Reads value ts b) (name : Text) (aliases : List Text) (set : β → α → α) :
    Reads (Field.needed name aliases value set).read ts (set b) :=
  reads_optional h name set

theorem readMembers_close {first : Bool} {seen : List Text} (a : α) {bound : Nat} {s : Source}
    {rest : List Token} (hbound : 0 < bound) (hmissing : missing? fields seen = none)
    (h : s.tokens = .mark '}' :: rest) :
    ∃ s', readMembers fields first seen a bound s = .ok (a, s') ∧ s'.tokens = rest := by
  obtain ⟨n, rfl⟩ := Nat.exists_eq_succ_of_ne_zero hbound.ne'
  refine ⟨s.withLexemes s.lexemes.tail, ?_, ?_⟩
  · simp only [readMembers, Source.nextKey?_close first h, hmissing, bind, Except.bind]
    rfl
  · rw [Source.tokens_withLexemes, List.map_tail]
    exact congrArg List.tail h

/-- One member and what follows it. -/
theorem readMembers_cons {first : Bool} {seen : List Text} (a : α) (bound : Nat) {s s₁ : Source}
    {k : Text} {v : Value} {f : Field α} {set : α → α} {ts : List Token}
    (hnext : s.nextKey? first = .ok (some s₁))
    (hs₁ : s₁.tokens = Value.oneMemberTokens (k, v) ++ ts) (hfield : find? fields k = some f)
    (hnew : f.name ∉ seen) (hvalue : Reads f.read v.tokens set) :
    ∃ s₂, s₂.tokens = ts ∧ readMembers fields first seen a (bound + 1) s
      = readMembers fields false (f.name :: seen) (set a) bound s₂ := by
  obtain ⟨s₂, hkey, hs₂⟩ := key_ofText hs₁
  obtain ⟨s₃, hcolon, hs₃⟩ := colon_mark hs₂
  obtain ⟨s₄, hread, hs₄⟩ := hvalue s₃ ts hs₃
  refine ⟨s₄, hs₄, ?_⟩
  have hseen : seen.contains f.name = false := by simpa using hnew
  simp only [readMembers, hnext, hkey, hfield, hseen, hcolon, hread, bind, Except.bind,
    Bool.false_eq_true, if_false]

/-- The members behind the first one. -/
theorem readMembers_more {seen : List Text} {ms : List (Text × Value)} {a b : α}
    (h : Fills fields seen ms a b) {bound : Nat} {s : Source} {rest : List Token}
    (hbound : ms.length < bound)
    (hs : s.tokens
      = (ms.flatMap fun m => .mark ',' :: Value.oneMemberTokens m) ++ .mark '}' :: rest) :
    ∃ s', readMembers fields false seen a bound s = .ok (b, s') ∧ s'.tokens = rest := by
  -- along the members that fill in the record; the record so far is part of the derivation
  induction h generalizing bound s with
  | nil hmissing => exact readMembers_close _ hbound hmissing hs
  | @cons seen k v ms f set a b hfield hnew hvalue _ ih =>
    obtain ⟨n, rfl, hlen⟩ := exists_eq_succ_of_length_lt hbound
    rw [List.flatMap_cons, List.cons_append, List.cons_append, List.append_assoc] at hs
    obtain ⟨s₁, hnext, hs₁⟩ := Source.nextKey?_comma hs
    obtain ⟨s₂, hs₂, hstep⟩ := readMembers_cons a n hnext hs₁ hfield hnew hvalue
    obtain ⟨s₃, hmore, hs₃⟩ := ih hlen hs₂
    exact ⟨s₃, hstep.trans hmore, hs₃⟩

theorem readMembers_memberTokens {ms : List (Text × Value)} {a b : α}
    (h : Fills fields [] ms a b) (bound : Nat) {s : Source} {rest : List Token}
    (hbound : ms.length < bound) (hs : s.tokens = Value.memberTokens ms ++ .mark '}' :: rest) :
    ∃ s', readMembers fields true [] a bound s = .ok (b, s') ∧ s'.tokens = rest := by
  cases h with
  | nil hmissing => exact readMembers_close _ hbound hmissing hs
  | @cons _ k v ms f set a b hfield hnew hvalue hmore =>
    obtain ⟨n, rfl, hlen⟩ := exists_eq_succ_of_length_lt hbound
    rw [Value.memberTokens_cons, List.append_assoc] at hs
    obtain ⟨s₂, hs₂, hstep⟩ := readMembers_cons a n
      (Source.nextKey?_first hs) hs hfield hnew hvalue
    obtain ⟨s₃, hrest, hs₃⟩ := readMembers_more hmore hlen hs₂
    exact ⟨s₃, hstep.trans hrest, hs₃⟩

/-- An object whose members fill in a record is read as the record. -/
theorem reads_object {r : Record α} {ms : List (Text × Value)} {b : α}
    (h : Fills r.fields [] ms r.initial b) : Reads r.read (Value.object ms).tokens b := by
  intro s rest hs
  rw [Value.tokens, List.cons_append, List.append_assoc, List.singleton_append] at hs
  obtain ⟨l, ls, hl, ht, hls⟩ := Source.lexemes_of_tokens hs
  have hlen := congrArg List.length hls
  have hle := length_le_memberTokens ms
  rw [List.length_map, List.length_append] at hlen
  obtain ⟨s', hs', hrest⟩ := readMembers_memberTokens h (ls.length + 1)
    (s := s.withLexemes ls) (by omega) hls
  refine ⟨s', ?_, hrest⟩
  simp only [read, hl, ht]
  exact hs'

end ProgressTable.Json.Record
