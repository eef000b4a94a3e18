import Mathlib.Tactic
import ProgressTable.CommandLine.Extra
import ProgressTable.Proofs.CommandLine.Option
import ProgressTable.Proofs.Settings.Overlay
import ProgressTable.Proofs.Text.Dict

/-!
# Where the value of a setting comes from

A setting that can be given as an extra parameter is described by a `Key`: its place in a file, the
names of its parameter, and how either is read. `Key.effective?` is the value that it has by what
was given, each key for itself. `Key.Follows` says what the readers of files and of parameters do
for the key, and it holds for all four of them.

What a file sets (`Key.setBy`) may depend on the lists that files before it have left, but not on
the values in them; and it does not depend on them at all if the file counts no items from the end
(`Key.setBy_eq_alone`).
-/

namespace ProgressTable

/-! ## Taking a parameter -/

namespace Extra

/-- The key whose value is taken: the first one that has a value. -/
def taken (keys : List Text) (d : Dict Text) : Option Text :=
  keys.find? fun k => (d.get? k).isSome

variable {keys : List Text} {d : Dict Text}

theorem taken_mem {k : Text} (h : taken keys d = some k) : k ∈ keys := List.mem_of_find?_eq_some h

/-- The value that is taken is that of the first key with a value. -/
theorem take_value (keys : List Text) (d : Dict Text) :
    (take keys d).1 = keys.findSome? d.get? := by
  have htake : (take keys d).1 = (keys.find? fun k => (d.get? k).isSome).bind d.get? := by
    rw [take]
    cases keys.find? fun k => (d.get? k).isSome <;> rfl
  rw [htake]
  clear htake
  induction keys with
  | nil => rfl
  | cons k keys ih =>
    rw [List.find?_cons, List.findSome?_cons]
    cases hk : d.get? k with
    | none => exact ih
    | some v => exact hk

/-- One entry at most is taken. -/
theorem take_entries (keys : List Text) (d : Dict Text) :
    (take keys d).2.entries = d.entries.filter fun e => taken keys d ≠ some e.1 := by
  rw [take, taken]
  cases keys.find? fun k => (d.get? k).isSome with
  | none => simp
  | some k =>
    refine List.filter_congr fun e _ => ?_
    rw [decide_eq_decide, ne_eq, ne_eq, Option.some.injEq, eq_comm]

/-- Parameters of other names keep their values. -/
theorem get?_take {k : Text} (hk : k ∉ keys) : (take keys d).2.get? k = d.get? k := by
  have hkeep : taken keys d ≠ some k := fun h => hk (taken_mem h)
  rw [Dict.get?, take_entries, lookup_filter (fun k => taken keys d ≠ some k), if_pos]
  · rfl
  · exact decide_eq_true hkeep

theorem findSome?_take {others : List Text} (h : ∀ k ∈ others, k ∉ keys) :
    others.findSome? (take keys d).2.get? = others.findSome? d.get? := by
  induction others with
  | nil => rfl
  | cons k others ih =>
    rw [List.findSome?_cons, List.findSome?_cons, get?_take (h k List.mem_cons_self),
      ih fun k hk => h k (List.mem_cons_of_mem _ hk)]

theorem taken_take {others : List Text} (h : ∀ k ∈ others, k ∉ keys) :
    taken others (take keys d).2 = taken others d := by
  induction others with
  | nil => rfl
  | cons k others ih =>
    rw [taken, taken, List.find?_cons, List.find?_cons, get?_take (h k List.mem_cons_self)]
    have hmore := ih fun k hk => h k (List.mem_cons_of_mem _ hk)
    rw [taken, taken] at hmore
    rw [hmore]

end Extra

namespace Settings

open CommandLine (exists_of_bind_eq_ok)

/-! ## Keys -/

/-- A setting that can be given in a file and as an extra parameter. -/
structure Key (α : Type) where
  /-- The section of a file, and the name and the place of the setting in it. -/
  sectionName : Text
  name : Text
  place : Nat
  to? : Tree → Option α
  /-- The names of the parameter, in the order in which they are looked for. -/
  aliases : List Text
  read : Text → Except Extra.Error α
  get : Settings → α

namespace Key

/-- How many slots a form offers. -/
def maxRanges : Key Nat where
  sectionName := "element".toList
  name := "max_ranges".toList
  place := 0
  to? := Tree.toCount?
  aliases := ["max-ranges".toList, "maxranges".toList]
  read := Extra.readNumber Numeral.readCount? "max-ranges".toList
  get := Settings.maxRanges

/-- How dates are written. -/
def dateFormat : Key Text where
  sectionName := "dates".toList
  name := "format".toList
  place := 0
  to? := Tree.toText?
  aliases := ["date-format".toList, "format".toList]
  read := .ok
  get := Settings.dateFormat

/-- Minutes east of Greenwich. -/
def utcOffset : Key Int32 where
  sectionName := "dates".toList
  name := "utc_offset_minutes".toList
  place := 1
  to? := Tree.toInt32?
  aliases := ["utc-offset".toList, "utc-offset-minutes".toList]
  read := Extra.readNumber Numeral.readInt32? "utc-offset".toList
  get := Settings.utcOffset

/-- Whether tables are rendered as previews. -/
def preview : Key Bool where
  sectionName := "render".toList
  name := "preview".toList
  place := 0
  to? := Tree.toBool?
  aliases := ["preview".toList]
  read := Extra.readBool "preview".toList
  get := Settings.preview

variable {α : Type} (key : Key α)

/-- The value of the parameter, by the first of its names that was given. -/
def given (extras : Dict Text) : Option Text := key.aliases.findSome? extras.get?

/-- What there is for the setting in the entries of files. -/
def found (root : List (Text × Tree)) : Option Tree :=
  Tree.settingIn key.sectionName key.name key.place root

/-- What a file sets the setting to. It is laid over the places of what was there before, without
their values, because it may count the items of a list from the end. -/
def setBy (before file : List (Text × Tree)) : Option Tree :=
  (key.found (Tree.lay file (Tree.blankEntries before))).filter Tree.isLeaf

/-- The value by what was given: that of the parameter; or else what the second file sets; or else
what the first file sets; or else what holds when nothing is said. -/
def effective? (extras : Dict Text) (first second : List (Text × Tree)) : Option α :=
  match key.given extras with
  | some raw => (key.read raw).toOption
  | none =>
    let initial := Settings.default.toEntries
    match (key.setBy (Tree.lay first initial) second).or (key.setBy initial first) with
    | some v => key.to? v
    | none => some (key.get Settings.default)

/-- A file that counts items from the front sets what it sets alone, whatever was there before. -/
theorem setBy_eq_alone {before file : List (Text × Tree)}
    (hfile : ∀ e ∈ file, Tree.CountsForward (Tree.stepsOf e.1)) :
    key.setBy before file = (key.found (Tree.lay file [])).filter Tree.isLeaf := by
  have hover := Tree.overlay_lay_alone hfile (Tree.blankEntries before)
  ext x
  rw [setBy, Option.filter_eq_some_iff, Option.filter_eq_some_iff]
  refine and_congr_left fun hx => ⟨fun hfound => ?_, fun halone => hover.settingIn_new_eq halone hx⟩
  rcases hover.settingIn_eq_or hfound hx with halone | ⟨-, hblank⟩
  · exact halone
  · rw [Tree.not_isLeaf_of_settingIn_blankEntries hblank] at hx
    cases hx

end Key

/-- The parameters that settings take: for each the first of its names that was given. -/
def consumed (extras : Dict Text) : List Text :=
  [Key.preview.aliases, Key.dateFormat.aliases, Key.utcOffset.aliases,
    Key.maxRanges.aliases].filterMap (Extra.taken · extras)

/-! ## Reading files -/

namespace Tree

section Sections

variable {α β : Type} {name : Text} {place : Nat} {v : Tree}

theorem inSection_of_setting? {o : Option Tree} (h : v.setting? name place = .ok o) :
    inSection name place (some v) = o := by
  cases v with
  | table es => exact Except.ok.inj h
  | list ts => exact Except.ok.inj h
  | _ => cases h

theorem bind_of_convert? {to? : Tree → Option α} {o : Option Tree} {a : Option α}
    (h : convert? to? o = .ok a) : o.bind to? = a := by
  cases o with
  | none => exact Except.ok.inj h
  | some v =>
    rw [convert?] at h
    rw [Option.bind_some]
    cases hv : to? v with
    | none =>
      rw [hv] at h
      cases h
    | some b =>
      rw [hv] at h
      exact Except.ok.inj h

theorem eq_some_of_required {o : Option α} {a : α} (h : required o = .ok a) : o = some a := by
  cases o with
  | none => cases h
  | some b => exact congrArg some (Except.ok.inj h)

/-- The setting of a section that was read. -/
theorem inSection_of_readOne {to? : Tree → Option α} {a : α} (h : readOne name to? v = .ok a) :
    (inSection name 0 (some v)).bind to? = some a := by
  obtain ⟨o, hsetting, h⟩ := exists_of_bind_eq_ok h
  obtain ⟨x, hconvert, h⟩ := exists_of_bind_eq_ok h
  rw [inSection_of_setting? hsetting, bind_of_convert? hconvert, eq_some_of_required h]

/-- The settings of a section of two that was read. -/
theorem inSection_of_readTwo {name₁ name₂ : Text} {to₁ : Tree → Option α} {to₂ : Tree → Option β}
    {a : α} {b : β} (h : readTwo name₁ to₁ name₂ to₂ v = .ok (a, b)) :
    (inSection name₁ 0 (some v)).bind to₁ = some a
      ∧ (inSection name₂ 1 (some v)).bind to₂ = some b := by
  obtain ⟨o₁, hsetting₁, h⟩ := exists_of_bind_eq_ok h
  obtain ⟨x₁, hconvert₁, h⟩ := exists_of_bind_eq_ok h
  obtain ⟨o₂, hsetting₂, h⟩ := exists_of_bind_eq_ok h
  obtain ⟨x₂, hconvert₂, h⟩ := exists_of_bind_eq_ok h
  obtain ⟨a', ha, h⟩ := exists_of_bind_eq_ok h
  obtain ⟨b', hb, h⟩ := exists_of_bind_eq_ok h
  obtain ⟨rfl, rfl⟩ := Prod.mk.inj (Except.ok.inj h)
  rw [inSection_of_setting? hsetting₁, bind_of_convert? hconvert₁, eq_some_of_required ha,
    inSection_of_setting? hsetting₂, bind_of_convert? hconvert₂, eq_some_of_required hb]
  exact ⟨rfl, rfl⟩

/-! ## Kinds of values -/

variable {v : Tree}

theorem isLeaf_of_toBool? {b : Bool} (h : v.toBool? = some b) : v.isLeaf = true := by
  cases v with
  | nothing | list | table => cases h
  | bool | integer | floating | text => rfl

theorem isLeaf_of_toText? {t : Text} (h : v.toText? = some t) : v.isLeaf = true := by
  cases v with
  | nothing | list | table => cases h
  | bool | integer | floating | text => rfl

theorem isLeaf_of_toNumber? {least greatest n : Int} {read? : Text → Option Int}
    (h : v.toNumber? least greatest read? = some n) : v.isLeaf = true := by
  cases v with
  | nothing | list | table => cases h
  | bool | integer | floating | text => rfl

theorem isLeaf_of_toCount? {n : Nat} (h : v.toCount? = some n) : v.isLeaf = true := by
  obtain ⟨m, hm, -⟩ := Option.map_eq_some_iff.1 h
  exact isLeaf_of_toNumber? hm

theorem isLeaf_of_toInt32? {n : Int32} (h : v.toInt32? = some n) : v.isLeaf = true := by
  obtain ⟨m, hm, -⟩ := Option.bind_eq_some_iff.1 h
  exact isLeaf_of_toNumber? hm

end Sections
end Tree

/-! ## What is done for each key -/

/-- What the readers of files and of extra parameters do for a key. -/
structure Key.Follows {α : Type} (key : Key α) : Prop where
  isLeaf : ∀ {v a}, key.to? v = some a → v.isLeaf = true
  loaded : ∀ {root s}, ofEntries root = .ok s → (key.found root).bind key.to? = some (key.get s)
  overridden : ∀ {s s' : Settings} {extras unused}, s.override extras = .ok (s', unused) →
    Extra.orElse (key.get s) key.read (key.given extras) = .ok (key.get s')

theorem ofEntries_default : ofEntries Settings.default.toEntries = .ok Settings.default := by
  decide +kernel

/-- The settings that were read are those that stand in the tree. -/
theorem found_of_ofEntries {root : List (Text × Tree)} {s : Settings} (h : ofEntries root = .ok s) :
    (Key.maxRanges.found root).bind Tree.toCount? = some s.maxRanges
    ∧ (Key.dateFormat.found root).bind Tree.toText? = some s.dateFormat
    ∧ (Key.utcOffset.found root).bind Tree.toInt32? = some s.utcOffset
    ∧ (Key.preview.found root).bind Tree.toBool? = some s.preview := by
  obtain ⟨element, helement, h⟩ := exists_of_bind_eq_ok h
  obtain ⟨maxRanges, hmaxRanges, h⟩ := exists_of_bind_eq_ok h
  obtain ⟨dates, hdates, h⟩ := exists_of_bind_eq_ok h
  obtain ⟨⟨dateFormat, utcOffset⟩, hboth, h⟩ := exists_of_bind_eq_ok h
  obtain ⟨render, hrender, h⟩ := exists_of_bind_eq_ok h
  obtain ⟨preview, hpreview, h⟩ := exists_of_bind_eq_ok h
  obtain ⟨log, -, h⟩ := exists_of_bind_eq_ok h
  obtain ⟨logLevel, -, h⟩ := exists_of_bind_eq_ok h
  obtain rfl := Except.ok.inj h
  obtain ⟨hformat, hoffset⟩ := Tree.inSection_of_readTwo hboth
  have hfound {α : Type} (key : Key α) {v : Tree}
      (hv : Tree.required (root.lookup key.sectionName) = .ok v) :
      key.found root = Tree.inSection key.name key.place (some v) := by
    rw [Key.found, Tree.settingIn, Tree.eq_some_of_required hv]
  rw [hfound .maxRanges helement, hfound .dateFormat hdates, hfound .utcOffset hdates,
    hfound .preview hrender]
  exact ⟨Tree.inSection_of_readOne hmaxRanges, hformat, hoffset, Tree.inSection_of_readOne hpreview⟩

open Extra in
/-- Each parameter is taken as if it were the only one. -/
theorem override_eq (s : Settings) (extras : Dict Text) : s.override extras = (do
    let preview ← orElse s.preview Key.preview.read (Key.preview.given extras)
    let utcOffset ← orElse s.utcOffset Key.utcOffset.read (Key.utcOffset.given extras)
    let maxRanges ← orElse s.maxRanges Key.maxRanges.read (Key.maxRanges.given extras)
    pure ({ s with
      maxRanges
      dateFormat := (Key.dateFormat.given extras).getD s.dateFormat
      utcOffset
      preview },
      (take Key.maxRanges.aliases (take Key.utcOffset.aliases (take Key.dateFormat.aliases
        (take Key.preview.aliases extras).2).2).2).2)) := by
  have hdateFormat : (take Key.dateFormat.aliases (take Key.preview.aliases extras).2).1
      = Key.dateFormat.given extras := by
    rw [take_value, findSome?_take (by decide)]
    rfl
  have hutcOffset : (take Key.utcOffset.aliases (take Key.dateFormat.aliases
      (take Key.preview.aliases extras).2).2).1 = Key.utcOffset.given extras := by
    rw [take_value, findSome?_take (by decide), findSome?_take (by decide)]
    rfl
  have hmaxRanges : (take Key.maxRanges.aliases (take Key.utcOffset.aliases
      (take Key.dateFormat.aliases (take Key.preview.aliases extras).2).2).2).1
      = Key.maxRanges.given extras := by
    rw [take_value, findSome?_take (by decide), findSome?_take (by decide),
      findSome?_take (by decide)]
    rfl
  have hpreview : (take Key.preview.aliases extras).1 = Key.preview.given extras :=
    take_value _ _
  rw [← hpreview, ← hutcOffset, ← hmaxRanges, ← hdateFormat]
  rfl

open Extra in
/-- The settings after the extra parameters, each by its own, and the parameters that are left. -/
theorem given_of_override {s s' : Settings} {extras unused : Dict Text}
    (h : s.override extras = .ok (s', unused)) :
    orElse s.maxRanges Key.maxRanges.read (Key.maxRanges.given extras) = .ok s'.maxRanges
    ∧ orElse s.dateFormat Key.dateFormat.read (Key.dateFormat.given extras) = .ok s'.dateFormat
    ∧ orElse s.utcOffset Key.utcOffset.read (Key.utcOffset.given extras) = .ok s'.utcOffset
    ∧ orElse s.preview Key.preview.read (Key.preview.given extras) = .ok s'.preview
    ∧ (take Key.maxRanges.aliases (take Key.utcOffset.aliases (take Key.dateFormat.aliases
      (take Key.preview.aliases extras).2).2).2).2 = unused := by
  rw [override_eq] at h
  obtain ⟨preview, hpreview, h⟩ := exists_of_bind_eq_ok h
  obtain ⟨utcOffset, hutcOffset, h⟩ := exists_of_bind_eq_ok h
  obtain ⟨maxRanges, hmaxRanges, h⟩ := exists_of_bind_eq_ok h
  obtain ⟨rfl, hunused⟩ := Prod.mk.inj (Except.ok.inj h)
  refine ⟨hmaxRanges, ?_, hutcOffset, hpreview, hunused⟩
  cases Key.dateFormat.given extras <;> rfl

/-- What is left are the parameters that no setting takes. -/
theorem entries_unused {s s' : Settings} {extras unused : Dict Text}
    (h : s.override extras = .ok (s', unused)) :
    unused.entries = extras.entries.filter fun e => e.1 ∉ consumed extras := by
  obtain ⟨-, -, -, -, rfl⟩ := given_of_override h
  -- which parameter a setting takes does not depend on what others have taken
  have hdateFormat : Extra.taken Key.dateFormat.aliases (Extra.take Key.preview.aliases extras).2
      = Extra.taken Key.dateFormat.aliases extras := Extra.taken_take (by decide)
  have hutcOffset : Extra.taken Key.utcOffset.aliases (Extra.take Key.dateFormat.aliases
      (Extra.take Key.preview.aliases extras).2).2 = Extra.taken Key.utcOffset.aliases extras := by
    rw [Extra.taken_take (by decide), Extra.taken_take (by decide)]
  have hmaxRanges : Extra.taken Key.maxRanges.aliases (Extra.take Key.utcOffset.aliases
      (Extra.take Key.dateFormat.aliases (Extra.take Key.preview.aliases extras).2).2).2
      = Extra.taken Key.maxRanges.aliases extras := by
    rw [Extra.taken_take (by decide), Extra.taken_take (by decide), Extra.taken_take (by decide)]
  rw [Extra.take_entries, Extra.take_entries, Extra.take_entries, Extra.take_entries, hdateFormat,
    hutcOffset, hmaxRanges, List.filter_filter, List.filter_filter, List.filter_filter]
  refine List.filter_congr fun e _ => ?_
  have hmem : e.1 ∈ consumed extras ↔ Extra.taken Key.preview.aliases extras = some e.1
      ∨ Extra.taken Key.dateFormat.aliases extras = some e.1
      ∨ Extra.taken Key.utcOffset.aliases extras = some e.1
      ∨ Extra.taken Key.maxRanges.aliases extras = some e.1 := by
    rw [consumed, List.mem_filterMap]
    simp only [List.mem_cons, List.not_mem_nil, or_false, exists_eq_or_imp, exists_eq_left]
  rw [Bool.eq_iff_iff]
  simp only [Bool.and_eq_true, decide_eq_true_eq, hmem, not_or, ne_eq, and_assoc]
  constructor
  · rintro ⟨hmaxRanges, hutcOffset, hdateFormat, hpreview⟩
    exact ⟨hpreview, hdateFormat, hutcOffset, hmaxRanges⟩
  · rintro ⟨hpreview, hdateFormat, hutcOffset, hmaxRanges⟩
    exact ⟨hmaxRanges, hutcOffset, hdateFormat, hpreview⟩

namespace Key

theorem follows_maxRanges : maxRanges.Follows where
  isLeaf := Tree.isLeaf_of_toCount?
  loaded h := (found_of_ofEntries h).1
  overridden h := (given_of_override h).1

theorem follows_dateFormat : dateFormat.Follows where
  isLeaf := Tree.isLeaf_of_toText?
  loaded h := (found_of_ofEntries h).2.1
  overridden h := (given_of_override h).2.1

theorem follows_utcOffset : utcOffset.Follows where
  isLeaf := Tree.isLeaf_of_toInt32?
  loaded h := (found_of_ofEntries h).2.2.1
  overridden h := (given_of_override h).2.2.1

theorem follows_preview : preview.Follows where
  isLeaf := Tree.isLeaf_of_toBool?
  loaded h := (found_of_ofEntries h).2.2.2
  overridden h := (given_of_override h).2.2.2.1

/-! ## The value of a key -/

variable {α : Type} {key : Key α} {root file : List (Text × Tree)} {x : Tree}

/-- A value comes from the file that was laid over others last, if it sets one. -/
theorem found_lay (h : key.found (Tree.lay file root) = some x) (hx : x.isLeaf = true) :
    key.setBy root file = some x ∨ key.setBy root file = none ∧ key.found root = some x := by
  rcases (Tree.overlay_lay_blank file root).settingIn_eq_or h hx with hfile | hroot
  · left
    have hfound : key.found (Tree.lay file (Tree.blankEntries root)) = some x := hfile
    rw [setBy, hfound, Option.filter_some, if_pos hx]
  · exact .inr hroot

namespace Follows

variable {first second : List (Text × Tree)} {loaded s : Settings}

/-- The value that was loaded from two files, the second of them laid over the first. -/
theorem loaded_eq (hkey : key.Follows)
    (h : ofEntries (Tree.lay second (Tree.lay first Settings.default.toEntries)) = .ok s) :
    (match (key.setBy (Tree.lay first Settings.default.toEntries) second).or
        (key.setBy Settings.default.toEntries first) with
      | some v => key.to? v
      | none => some (key.get Settings.default)) = some (key.get s) := by
  obtain ⟨x, hfound, hx⟩ := Option.bind_eq_some_iff.1 (hkey.loaded h)
  have hleaf := hkey.isLeaf hx
  rcases found_lay hfound hleaf with hset | ⟨hset, hfound⟩
  · rw [hset, Option.some_or]
    exact hx
  rw [hset, Option.none_or]
  rcases found_lay hfound hleaf with hset' | ⟨hset', hfound⟩
  · rw [hset']
    exact hx
  · -- neither file sets it
    rw [hset']
    have hdefault := hkey.loaded ofEntries_default
    rw [hfound, Option.bind_some] at hdefault
    exact hdefault.symm.trans hx

theorem effective_eq {extras unused : Dict Text} (hkey : key.Follows)
    (hload : ofEntries (Tree.lay second (Tree.lay first Settings.default.toEntries)) = .ok loaded)
    (hoverride : loaded.override extras = .ok (s, unused)) :
    key.effective? extras first second = some (key.get s) := by
  have hgiven := hkey.overridden hoverride
  rw [effective?]
  cases hraw : key.given extras with
  | some raw =>
    rw [hraw] at hgiven
    have hread : key.read raw = .ok (key.get s) := hgiven
    simp only [hread]
    rfl
  | none =>
    rw [hraw] at hgiven
    rw [← Except.ok.inj hgiven]
    exact hkey.loaded_eq hload

end Follows
end Key
end Settings
end ProgressTable
