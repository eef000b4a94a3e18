import Mathlib.Tactic
import ProgressTable.Journal

/-!
# Journaled computations

A journaled computation on every item of a list gives the list of the values and writes the
journals one behind the other. The calls of a computation are read off its journal and are put
together in the same way.

Two properties are kept when computations are put together, so that they hold of a whole run if
they hold where questions are asked: `Reports` says which warnings a run writes, and `AgreeOn`
compares two runs with each other.
-/

namespace ProgressTable.Journaled

variable {α β : Type}

@[simp] theorem value_map (f : α → β) (x : Journaled α) : (f <$> x).value = f x.value := rfl

@[simp] theorem journal_map (f : α → β) (x : Journaled α) : (f <$> x).journal = x.journal :=
  List.append_nil x.journal

@[simp] theorem value_mapM (f : α → Journaled β) (xs : List α) :
    (xs.mapM f).value = xs.map fun x => (f x).value := by
  induction xs with
  | nil => rfl
  | cons x xs ih => simp [ih]

@[simp] theorem journal_mapM (f : α → Journaled β) (xs : List α) :
    (xs.mapM f).journal = xs.flatMap fun x => (f x).journal := by
  induction xs with
  | nil => rfl
  | cons x xs ih => simp [ih]

/-! ## Calls -/

@[simp] theorem calls_pure (a : α) : (pure a : Journaled α).calls = [] := rfl

@[simp] theorem calls_bind (x : Journaled α) (f : α → Journaled β) :
    (x >>= f).calls = x.calls ++ (f x.value).calls := by
  rw [calls, journal_bind, List.filterMap_append]
  rfl

@[simp] theorem calls_map (f : α → β) (x : Journaled α) : (f <$> x).calls = x.calls := by
  rw [calls, journal_map]
  rfl

@[simp] theorem calls_mapM (f : α → Journaled β) (xs : List α) :
    (xs.mapM f).calls = xs.flatMap fun x => (f x).calls := by
  rw [calls, journal_mapM, List.filterMap_flatMap]
  rfl

@[simp] theorem calls_log (level : LogLevel) (target message : Text) :
    (log level target message).calls = [] := rfl

/-! ## Warnings -/

/-- The warnings that were written, in order. -/
def warnings (x : Journaled α) : List LogRecord := x.logs.filter fun r => r.level = .warn

@[simp] theorem logs_bind (x : Journaled α) (f : α → Journaled β) :
    (x >>= f).logs = x.logs ++ (f x.value).logs := by
  rw [logs, journal_bind, List.filterMap_append]
  rfl

@[simp] theorem logs_mapM (f : α → Journaled β) (xs : List α) :
    (xs.mapM f).logs = xs.flatMap fun x => (f x).logs := by
  rw [logs, journal_mapM, List.filterMap_flatMap]
  rfl

/-- Each question is reported as `report?` says: by one warning or by none, in the order of the
questions, and nothing else is warned of. -/
def Reports (report? : Call → Option LogRecord) (x : Journaled α) : Prop :=
  x.warnings = x.calls.filterMap report?

section Reports

variable {report? : Call → Option LogRecord}

theorem Reports.pure (a : α) : Reports report? (Pure.pure a) := rfl

theorem Reports.bind {x : Journaled α} {f : α → Journaled β} (hx : Reports report? x)
    (hf : Reports report? (f x.value)) : Reports report? (x >>= f) := by
  rw [Reports, warnings] at hx hf ⊢
  rw [logs_bind, calls_bind, List.filter_append, List.filterMap_append, hx, hf]

theorem Reports.map {x : Journaled α} (f : α → β) (hx : Reports report? x) :
    Reports report? (f <$> x) := by
  rw [map_eq_pure_bind]
  exact hx.bind (.pure _)

theorem Reports.mapM {f : α → Journaled β} (hf : ∀ a, Reports report? (f a)) (xs : List α) :
    Reports report? (xs.mapM f) := by
  rw [Reports, warnings, logs_mapM, calls_mapM, List.filter_flatMap, List.filterMap_flatMap]
  exact List.flatMap_congr fun a _ => hf a

end Reports

/-! ## Two runs -/

/-- Two computations give the same value and do the same things as far as `seen` admits them. -/
structure AgreeOn (seen : Event → Bool) (x y : Journaled α) : Prop where
  value : x.value = y.value
  journal : x.journal.filter seen = y.journal.filter seen

namespace AgreeOn

variable {seen : Event → Bool}

theorem refl (x : Journaled α) : AgreeOn seen x x := ⟨rfl, rfl⟩

/-- What comes after two computations that agree is reached with the same value. -/
theorem bind {x y : Journaled α} {f g : α → Journaled β} (hxy : AgreeOn seen x y)
    (hfg : ∀ a, AgreeOn seen (f a) (g a)) : AgreeOn seen (x >>= f) (y >>= g) where
  value := by
    rw [value_bind, value_bind, hxy.value]
    exact (hfg y.value).value
  journal := by
    rw [journal_bind, journal_bind, List.filter_append, List.filter_append, hxy.journal, hxy.value,
      (hfg y.value).journal]

theorem map {x y : Journaled α} (f : α → β) (hxy : AgreeOn seen x y) :
    AgreeOn seen (f <$> x) (f <$> y) where
  value := by rw [value_map, value_map, hxy.value]
  journal := by rw [journal_map, journal_map, hxy.journal]

theorem mapM {f g : α → Journaled β} (hfg : ∀ a, AgreeOn seen (f a) (g a)) (xs : List α) :
    AgreeOn seen (xs.mapM f) (xs.mapM g) where
  value := by
    rw [value_mapM, value_mapM]
    exact List.map_congr_left fun a _ => (hfg a).value
  journal := by
    rw [journal_mapM, journal_mapM, List.filter_flatMap, List.filter_flatMap]
    exact List.flatMap_congr fun a _ => (hfg a).journal

/-- Computations that agree where questions are seen ask the same questions. -/
theorem calls {x y : Journaled α} (hxy : AgreeOn seen x y) (hcall : ∀ c, seen (.call c) = true) :
    x.calls = y.calls := by
  have hseen (z : Journaled α) : z.calls = Journaled.calls ⟨z.value, z.journal.filter seen⟩ := by
    rw [Journaled.calls, Journaled.calls, List.filterMap_filter]
    apply List.filterMap_congr
    intro e _
    cases e with
    | call c => rw [hcall c, if_pos rfl]
    | log r => exact (ite_self _).symm
  rw [hseen x, hseen y, hxy.value, hxy.journal]

/-- Computations that agree where everything is seen are the same. -/
theorem eq {x y : Journaled α} (hxy : AgreeOn (fun _ => true) x y) : x = y := by
  apply Journaled.ext hxy.value
  rw [← List.filter_true x.journal, ← List.filter_true y.journal]
  exact hxy.journal

end AgreeOn

end ProgressTable.Journaled
