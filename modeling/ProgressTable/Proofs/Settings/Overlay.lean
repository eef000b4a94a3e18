import Mathlib.Tactic
import ProgressTable.Settings.Layers

/-!
# One source of settings over another

`Overlay aligned own old new` says that `new` is what a source makes of `old`, and `own` what it
makes of less: wherever the source says something both have it, and everywhere else `new` has what
was there before. It holds key by key and item by item, whichever way the source was written.

The number of an item may count from the end of a list, and then it depends on the length of the
list which place it means. So there are two kinds of overlays. If `own` has all the places of `old`,
without their values (`blank`), the overlay is `aligned`, and any number means the same place on
both sides. If `own` has nothing but what the source says, only those do that count from the front.
-/

namespace ProgressTable.Settings

namespace Tree

/-! ## Reading a place -/

/-- The entries of the table at a place. -/
def entriesAt (o : Option Tree) : List (Text × Tree) := (o.map entries).getD []

/-- The items of the list at a place. -/
def itemsAt (o : Option Tree) : List Tree := (o.map items).getD []

/-- Whether a tree says anything when it is laid over another. -/
def speaks : Tree → Bool
  | nothing => false
  | table [] => false
  | _ => true

/-- Whether a tree is a value and not a collection of others. -/
def isLeaf : Tree → Bool
  | nothing | list _ | table _ => false
  | _ => true

theorem eq_of_not_speaks {t : Tree} (h : t.speaks = false) : t = nothing ∨ t = table [] := by
  unfold speaks at h
  split at h
  · exact .inl rfl
  · exact .inr rfl
  · cases h

/-! ## Trees without values -/

mutual

/-- The tree without its values: what is left are its keys and the lengths of its lists. -/
def blank : Tree → Tree
  | table es => table (blankEntries es)
  | list ts => list (blankItems ts)
  | _ => nothing

/-- The entries of a table without their values. -/
def blankEntries : List (Text × Tree) → List (Text × Tree)
  | [] => []
  | (k, v) :: es => (k, v.blank) :: blankEntries es

/-- The items of a list without their values. -/
def blankItems : List Tree → List Tree
  | [] => []
  | v :: vs => v.blank :: blankItems vs

end

theorem lookup_blankEntries (es : List (Text × Tree)) (k : Text) :
    (blankEntries es).lookup k = (es.lookup k).map blank := by
  induction es with
  | nil => rfl
  | cons e es ih =>
    rw [blankEntries, List.lookup_cons, List.lookup_cons, ih]
    cases k == e.1 <;> rfl

theorem getElem?_blankItems (ts : List Tree) (i : Nat) :
    (blankItems ts)[i]? = ts[i]?.map blank := by
  induction ts generalizing i with
  | nil => rfl
  | cons t ts ih =>
    cases i with
    | zero => rfl
    | succ i => exact ih i

theorem isLeaf_blank (t : Tree) : t.blank.isLeaf = false := by
  cases t <;> rfl

/-! ## Overlays -/

/-- A source makes `own` of less than what was there before, and `new` of `old`. -/
inductive Overlay (aligned : Prop) : (own old new : Option Tree) → Prop
  /-- The source does not have the place. -/
  | absent (old : Option Tree) (h : aligned → old = none) : Overlay aligned none old old
  | silent {own : Tree} (h : own.speaks = false) (old : Tree)
    (hold : aligned → entriesAt (some old) = [] ∧ itemsAt (some old) = []) :
    Overlay aligned (some own) (some old) (some old)
  | replaced (own : Tree) (old : Option Tree) : Overlay aligned (some own) old (some own)
  /-- A table is laid over the entries that were there, if there were any. -/
  | tables {own new : List (Text × Tree)} {old : Option Tree}
    (h : ∀ k, Overlay aligned (own.lookup k) ((entriesAt old).lookup k) (new.lookup k)) :
    Overlay aligned (some (table own)) old (some (table new))
  /-- Items are put into the list that was there, if there was one. -/
  | lists {own new : List Tree} {old : Option Tree}
    (h : ∀ i : Nat, Overlay aligned own[i]? (itemsAt old)[i]? new[i]?) :
    Overlay aligned (some (list own)) old (some (list new))

mutual

/-- A tree lies over its places. -/
theorem overlay_blank : (t : Tree) → Overlay True (some t.blank) (some t) (some t)
  | .table es => .tables fun k => by
    rw [lookup_blankEntries]
    exact overlay_blankEntries es k
  | .list ts => .lists fun i => by
    rw [getElem?_blankItems]
    exact overlay_blankItems ts i
  | .nothing => .silent rfl _ fun _ => ⟨rfl, rfl⟩
  | .bool _ => .silent rfl _ fun _ => ⟨rfl, rfl⟩
  | .integer _ => .silent rfl _ fun _ => ⟨rfl, rfl⟩
  | .floating _ => .silent rfl _ fun _ => ⟨rfl, rfl⟩
  | .text _ => .silent rfl _ fun _ => ⟨rfl, rfl⟩

theorem overlay_blankEntries : (es : List (Text × Tree)) → (k : Text) →
    Overlay True ((es.lookup k).map blank) (es.lookup k) (es.lookup k)
  | [], _ => .absent none fun _ => rfl
  | (k', v) :: es, k => by
    rw [List.lookup_cons]
    cases k == k' with
    | true => exact overlay_blank v
    | false => exact overlay_blankEntries es k

theorem overlay_blankItems : (ts : List Tree) → (i : Nat) →
    Overlay True (ts[i]?.map blank) ts[i]? ts[i]?
  | [], _ => .absent none fun _ => rfl
  | t :: _, 0 => overlay_blank t
  | _ :: ts, i + 1 => overlay_blankItems ts i

end

namespace Overlay

variable {aligned : Prop} {own old new : Option Tree}

/-- In an aligned overlay both have the same places. -/
theorem eq_none_iff (h : Overlay aligned own old new) (haligned : aligned) :
    own = none ↔ new = none := by
  cases h with
  | absent old hold => simp [hold haligned]
  | silent | replaced | tables | lists => simp

/-- The entries after the source are its own, or lie over those before it. -/
theorem entriesAt_eq_or (h : Overlay aligned own old new) : entriesAt own = entriesAt new
    ∨ ∀ k, Overlay aligned ((entriesAt own).lookup k) ((entriesAt old).lookup k)
      ((entriesAt new).lookup k) := by
  cases h with
  | absent old hold => exact .inr fun k => .absent _ fun haligned => by rw [hold haligned]; rfl
  | @silent own hown old hold =>
    have hempty : entriesAt (some own) = [] := by
      rcases eq_of_not_speaks hown with rfl | rfl <;> rfl
    rw [hempty]
    exact .inr fun k => .absent _ fun haligned => by rw [(hold haligned).1]; rfl
  | replaced => exact .inl rfl
  | tables h => exact .inr h
  | lists => exact .inl rfl

/-- The items after the source are its own, or lie over those before it. -/
theorem itemsAt_eq_or (h : Overlay aligned own old new) : itemsAt own = itemsAt new
    ∨ ∀ i : Nat, Overlay aligned (itemsAt own)[i]? (itemsAt old)[i]? (itemsAt new)[i]? := by
  cases h with
  | absent old hold => exact .inr fun i => .absent _ fun haligned => by rw [hold haligned]; rfl
  | @silent own hown old hold =>
    have hempty : itemsAt (some own) = [] := by
      rcases eq_of_not_speaks hown with rfl | rfl <;> rfl
    rw [hempty]
    exact .inr fun i => .absent _ fun haligned => by rw [(hold haligned).2]; rfl
  | replaced => exact .inl rfl
  | tables => exact .inl rfl
  | lists h => exact .inr h

/-- In an aligned overlay lists have the same length. -/
theorem length_eq {own old new : List Tree}
    (h : ∀ i : Nat, Overlay aligned own[i]? old[i]? new[i]?) (haligned : aligned) :
    own.length = new.length := by
  have hle (i : Nat) : own.length ≤ i ↔ new.length ≤ i := by
    rw [← List.getElem?_eq_none_iff, ← List.getElem?_eq_none_iff]
    exact (h i).eq_none_iff haligned
  exact Nat.le_antisymm ((hle _).2 (Nat.le_refl _)) ((hle _).1 (Nat.le_refl _))

/-- What says nothing may be put wherever nothing is yet. -/
theorem fill {t : Tree} (ht : t.speaks = false) (h : Overlay aligned own old new) :
    Overlay aligned (own.or (some t)) old (new.or (some t)) := by
  cases h with
  | absent _ hold => cases old with
    | none => exact .replaced t none
    | some old => exact .silent ht old fun haligned => absurd (hold haligned) (by simp)
  | silent hown old hold => exact .silent hown old hold
  | replaced own => exact .replaced own old
  | tables h => exact .tables h
  | lists h => exact .lists h

/-- A leaf comes from the source, or was there before and the source says nothing about it. -/
theorem eq_or_of_isLeaf {x : Tree} (h : Overlay aligned own old (some x)) (hx : x.isLeaf = true) :
    own = some x ∨ own.filter isLeaf = none ∧ old = some x := by
  cases h with
  | absent => exact .inr ⟨rfl, rfl⟩
  | silent hown =>
    rcases eq_of_not_speaks hown with rfl | rfl <;> exact .inr ⟨rfl, rfl⟩
  | replaced => exact .inl rfl
  | tables => cases hx
  | lists => cases hx

/-- A leaf of the source is there after it. -/
theorem new_eq_of_isLeaf {x : Tree} (h : Overlay aligned (some x) old new) (hx : x.isLeaf = true) :
    new = some x := by
  cases h with
  | silent hown => rcases eq_of_not_speaks hown with rfl | rfl <;> cases hx
  | replaced => rfl
  | tables => cases hx
  | lists => cases hx

end Overlay

/-! ## What keeps overlays -/

section Keeps

variable {aligned : Prop}

/-- What a source does at a place keeps overlays over `old`, if doing it to either side leaves an
overlay again. -/
def Keeps (aligned : Prop) (old : Option Tree) (f : Option Tree → Tree) : Prop :=
  ∀ own new, Overlay aligned own old new → Overlay aligned (some (f own)) old (some (f new))

/-- Does something to the value of a key, in a table. -/
def underKey (k : Text) (f : Option Tree → Tree) (o : Option Tree) : Tree :=
  table (setEntry k (f ((entriesAt o).lookup k)) (entriesAt o))

/-- Does something to an item, in a list that is long enough. -/
def atItem (i : Int) (f : Option Tree → Tree) (o : Option Tree) : Tree :=
  let place := position (itemsAt o).length i
  let ts := filled place (itemsAt o)
  list (ts.set place (f ts[place]?))

/-- An item of a list that was made long enough. -/
theorem getElem?_filled (place : Nat) (ts : List Tree) (j : Nat) :
    (filled place ts)[j]? = ts[j]?.or (if j ≤ place then some nothing else none) := by
  by_cases hj : j < ts.length
  · rw [filled, List.getElem?_append_left hj, List.getElem?_eq_getElem hj, Option.some_or]
  · have hnone : ts[j]? = none := List.getElem?_eq_none (by omega)
    rw [filled, List.getElem?_append_right (by omega), List.getElem?_replicate, hnone,
      Option.none_or]
    congr 1
    rw [eq_iff_iff]
    omega

theorem getElem?_set_filled (place : Nat) (ts : List Tree) (t : Tree) (j : Nat) :
    ((filled place ts).set place t)[j]? = if j = place then some t else (filled place ts)[j]? := by
  have hlen : place < (filled place ts).length := by
    rw [filled, List.length_append, List.length_replicate]
    omega
  split
  · next hj =>
    subst hj
    rw [List.getElem?_set_self hlen]
  · next hj => rw [List.getElem?_set_ne fun h => hj h.symm]

namespace Keeps

variable {old : Option Tree} {f : Option Tree → Tree}

theorem const (t : Tree) (old : Option Tree) : Keeps aligned old fun _ => t :=
  fun _ _ _ => .replaced t old

theorem comp {g : Option Tree → Tree} (hg : Keeps aligned old g) (hf : Keeps aligned old f) :
    Keeps aligned old fun o => g (some (f o)) :=
  fun own new h => hg _ _ (hf own new h)

theorem underKey {k : Text} (hf : Keeps aligned ((entriesAt old).lookup k) f) :
    Keeps aligned old (underKey k f) := by
  intro own new h
  unfold Tree.underKey
  rcases h.entriesAt_eq_or with heq | hover
  · rw [heq]
    exact .replaced _ old
  · refine .tables fun k' => ?_
    rw [lookup_setEntry, lookup_setEntry]
    split
    · next hk =>
      subst hk
      exact hf _ _ (hover k')
    · exact hover k'

theorem atItem {i : Int} (hi : aligned ∨ 0 ≤ i)
    (hf : ∀ place : Nat, Keeps aligned (itemsAt old)[place]? f) :
    Keeps aligned old (atItem i f) := by
  intro own new h
  unfold Tree.atItem
  rcases h.itemsAt_eq_or with heq | hover
  · rw [heq]
    exact .replaced _ old
  · -- the number means the same place on both sides
    have hplace : position (itemsAt own).length i = position (itemsAt new).length i := by
      rcases hi with haligned | hi
      · rw [Overlay.length_eq hover haligned]
      · rw [position, position, if_pos hi, if_pos hi]
    rw [hplace]
    have hfilled (j : Nat) : Overlay aligned
        (filled (position (itemsAt new).length i) (itemsAt own))[j]? (itemsAt old)[j]?
        (filled (position (itemsAt new).length i) (itemsAt new))[j]? := by
      rw [getElem?_filled, getElem?_filled]
      split
      · exact (hover j).fill rfl
      · rw [Option.or_none, Option.or_none]
        exact hover j
    refine .lists fun j => ?_
    rw [getElem?_set_filled, getElem?_set_filled]
    split
    · next hj =>
      subst hj
      exact hf _ _ _ (hfilled _)
    · exact hfilled j

end Keeps

/-! ### Laying a tree over another -/

theorem merge_table_cons (k : Text) (v : Tree) (es : List (Text × Tree)) (o : Option Tree) :
    merge (table ((k, v) :: es)) o
      = merge (table es) (some (underKey (Text.lowercase k) (merge v) o)) := by
  cases es <;> rfl

mutual

theorem keeps_merge (old : Option Tree) : (v : Tree) → Keeps aligned old (merge v)
  | .table es => keeps_merge_table old es
  | .nothing => .const .nothing old
  | .bool b => .const (.bool b) old
  | .integer n => .const (.integer n) old
  | .floating x => .const (.floating x) old
  | .text t => .const (.text t) old
  | .list ts => .const (.list ts) old

/-- Entry by entry. -/
theorem keeps_merge_table (old : Option Tree) : (es : List (Text × Tree)) →
    Keeps aligned old (merge (.table es))
  | [] => fun own new h => by
    have hfill := h.fill (t := table []) rfl
    rw [merge, merge]
    cases own <;> cases new <;> exact hfill
  | (k, v) :: es => by
    have hone : Keeps aligned old (underKey (Text.lowercase k) (merge v)) :=
      (keeps_merge _ v).underKey
    have hmore := (keeps_merge_table old es).comp hone
    intro own new h
    rw [merge_table_cons, merge_table_cons]
    exact hmore own new h

end

/-! ### Putting a value at a place -/

/-- A step that does not count from the end. -/
def Step.isForward : Step → Bool
  | .key _ => true
  | .index i => 0 ≤ i

/-- The numbers of items on the way to a place count from the front. -/
def CountsForward (steps : List Step) : Prop := ∀ i, .index i ∈ steps → 0 ≤ i

instance (steps : List Step) : Decidable (CountsForward steps) :=
  decidable_of_iff (∀ step ∈ steps, step.isForward = true) <| by
    constructor
    · intro h i hi
      exact of_decide_eq_true (h _ hi)
    · rintro h (k | i) hstep
      · rfl
      · exact decide_eq_true (h i hstep)

theorem put_key (v : Tree) (k : Text) (steps : List Step) :
    put v (.key k :: steps) = underKey k (put v steps) := rfl

theorem put_index (v : Tree) (i : Int) (steps : List Step) :
    put v (.index i :: steps)
      = atItem i (if steps.isEmpty then fun _ => v else put v steps) := by
  funext o
  cases steps <;> rfl

theorem keeps_put (v : Tree) {steps : List Step} (h : aligned ∨ CountsForward steps)
    (old : Option Tree) : Keeps aligned old (put v steps) := by
  -- along the place; `old` is what was there at each step of it
  induction steps generalizing old with
  | nil => exact keeps_merge old v
  | cons step steps ih =>
    have hmore := ih (h.imp id fun hsteps i hi => hsteps i (List.mem_cons_of_mem step hi))
    cases step with
    | key k =>
      rw [put_key]
      exact (hmore _).underKey
    | index i =>
      rw [put_index]
      refine Keeps.atItem (h.imp id fun hsteps => hsteps i List.mem_cons_self) fun place => ?_
      split
      · exact .const v _
      · exact hmore _

end Keeps

/-! ## Files -/

section Files

variable {aligned : Prop} {es base own new : List (Text × Tree)}

/-- The steps to the place where a file puts what it has under a key. -/
def stepsOf (k : Text) : List Step := (readPlace? k).getD [.key (Text.lowercase k)]

/-- Lays the entries of a file over those that are there. -/
def lay (es root : List (Text × Tree)) : List (Text × Tree) :=
  es.foldl (fun root (k, v) => putTopLevel root k v) root

theorem exists_stepsOf (k : Text) : ∃ name steps, stepsOf k = .key name :: steps := by
  rw [stepsOf]
  cases hplace : readPlace? k with
  | none => exact ⟨_, _, rfl⟩
  | some steps =>
    unfold readPlace? at hplace
    cases hname : readName? k with
    | none =>
      rw [hname] at hplace
      cases hplace
    | some named =>
      rw [hname, Option.bind_some, Option.map_eq_some_iff] at hplace
      obtain ⟨more, -, rfl⟩ := hplace
      exact ⟨_, _, rfl⟩

theorem table_putTopLevel (root : List (Text × Tree)) (k : Text) (v : Tree) :
    table (putTopLevel root k v) = put v (stepsOf k) (some (table root)) := by
  obtain ⟨name, steps, hsteps⟩ := exists_stepsOf k
  have hput : putTopLevel root k v = (put v (stepsOf k) (some (table root))).entries := rfl
  rw [hput, hsteps]
  rfl

/-- A file that is laid over both sides of an overlay leaves an overlay. -/
theorem overlay_lay (hes : aligned ∨ ∀ e ∈ es, CountsForward (stepsOf e.1))
    (h : Overlay aligned (some (table own)) (some (table base)) (some (table new))) :
    Overlay aligned (some (table (lay es own))) (some (table base))
      (some (table (lay es new))) := by
  -- along the entries of the file, each of which keeps the overlay
  induction es generalizing own new with
  | nil => exact h
  | cons e es ih =>
    have hfirst := keeps_put e.2 (hes.imp id fun hes => hes e List.mem_cons_self) _ _ _ h
    rw [← table_putTopLevel, ← table_putTopLevel] at hfirst
    exact ih (hes.imp id fun hes e' he' => hes e' (List.mem_cons_of_mem e he')) hfirst

/-- A file lies over what was there before. -/
theorem overlay_lay_blank (es root : List (Text × Tree)) :
    Overlay True (some (table (lay es (blankEntries root)))) (some (table root))
      (some (table (lay es root))) :=
  overlay_lay (.inl trivial) (overlay_blank (table root))

/-- A file that counts from the front lies over what was there before as it would lie alone. -/
theorem overlay_lay_alone (hes : ∀ e ∈ es, CountsForward (stepsOf e.1))
    (root : List (Text × Tree)) :
    Overlay False (some (table (lay es []))) (some (table root)) (some (table (lay es root))) :=
  overlay_lay (.inr hes) (.silent rfl _ False.elim)

end Files

/-! ## Settings -/

section Settings

variable {aligned : Prop}

/-- What a section has for a setting: the value of its name, or the item at its place. -/
def inSection (name : Text) (place : Nat) : Option Tree → Option Tree
  | some (table es) => es.lookup name
  | some (list ts) => ts[place]?
  | _ => none

/-- What the sections of files have for a setting. -/
def settingIn (sectionName name : Text) (place : Nat) (root : List (Text × Tree)) : Option Tree :=
  inSection name place (root.lookup sectionName)

theorem inSection_of_lookup {o : Option Tree} {name : Text} {x : Tree} (place : Nat)
    (h : (entriesAt o).lookup name = some x) : inSection name place o = some x := by
  cases o with
  | none => cases h
  | some t => cases t with
    | table es => exact h
    | _ => cases h

theorem inSection_of_getElem? {o : Option Tree} {place : Nat} {x : Tree} (name : Text)
    (h : (itemsAt o)[place]? = some x) : inSection name place o = some x := by
  cases o with
  | none => cases h
  | some t => cases t with
    | list ts => exact h
    | _ => cases h

namespace Overlay

variable {own old new : Option Tree} {name : Text} {place : Nat} {x : Tree}

/-- A leaf found in a section comes from the source, or was there before and the source says nothing
about it. -/
theorem inSection_eq_or (h : Overlay aligned own old new)
    (hnew : inSection name place new = some x) (hx : x.isLeaf = true) :
    inSection name place own = some x
      ∨ (inSection name place own).filter isLeaf = none ∧ inSection name place old = some x := by
  cases h with
  | absent => exact .inr ⟨rfl, hnew⟩
  | @silent own hown old =>
    have hnone : inSection name place (some own) = none := by
      rcases eq_of_not_speaks hown with rfl | rfl <;> rfl
    rw [hnone]
    exact .inr ⟨rfl, hnew⟩
  | replaced => exact .inl hnew
  | tables h =>
    have hentry := h name
    rw [show List.lookup name _ = some x from hnew] at hentry
    exact (hentry.eq_or_of_isLeaf hx).imp id fun hold => ⟨hold.1, inSection_of_lookup place hold.2⟩
  | lists h =>
    have hitem := h place
    rw [show getElem? _ place = some x from hnew] at hitem
    exact (hitem.eq_or_of_isLeaf hx).imp id fun hold => ⟨hold.1, inSection_of_getElem? name hold.2⟩

/-- A leaf that the source has in a section is found there. -/
theorem inSection_new_eq (h : Overlay aligned own old new)
    (hown : inSection name place own = some x) (hx : x.isLeaf = true) :
    inSection name place new = some x := by
  cases h with
  | absent => cases hown
  | silent hsilent => rcases eq_of_not_speaks hsilent with rfl | rfl <;> cases hown
  | replaced => exact hown
  | tables h =>
    have hentry := h name
    rw [show List.lookup name _ = some x from hown] at hentry
    exact hentry.new_eq_of_isLeaf hx
  | lists h =>
    have hitem := h place
    rw [show getElem? _ place = some x from hown] at hitem
    exact hitem.new_eq_of_isLeaf hx

variable {sectionName : Text} {own old new : List (Text × Tree)}

theorem settingIn_eq_or
    (h : Overlay aligned (some (table own)) (some (table old)) (some (table new)))
    (hnew : settingIn sectionName name place new = some x) (hx : x.isLeaf = true) :
    settingIn sectionName name place own = some x
      ∨ (settingIn sectionName name place own).filter isLeaf = none
        ∧ settingIn sectionName name place old = some x := by
  rcases h.entriesAt_eq_or with heq | hentries
  · have heq : own = new := heq
    rw [heq]
    exact .inl hnew
  · exact (hentries sectionName).inSection_eq_or hnew hx

theorem settingIn_new_eq
    (h : Overlay aligned (some (table own)) (some (table old)) (some (table new)))
    (hown : settingIn sectionName name place own = some x) (hx : x.isLeaf = true) :
    settingIn sectionName name place new = some x := by
  rcases h.entriesAt_eq_or with heq | hentries
  · have heq : own = new := heq
    rw [← heq]
    exact hown
  · exact (hentries sectionName).inSection_new_eq hown hx

end Overlay

/-- Where there are no values, no setting has one. -/
theorem not_isLeaf_of_settingIn_blankEntries {sectionName name : Text} {place : Nat}
    {root : List (Text × Tree)} {x : Tree}
    (h : settingIn sectionName name place (blankEntries root) = some x) : x.isLeaf = false := by
  rw [settingIn, lookup_blankEntries] at h
  cases hsection : root.lookup sectionName with
  | none =>
    rw [hsection] at h
    cases h
  | some t =>
    rw [hsection, Option.map_some] at h
    cases t with
    | table es =>
      have hlookup : (blankEntries es).lookup name = some x := h
      rw [lookup_blankEntries, Option.map_eq_some_iff] at hlookup
      obtain ⟨v, -, rfl⟩ := hlookup
      exact isLeaf_blank v
    | list ts =>
      have hitem : (blankItems ts)[place]? = some x := h
      rw [getElem?_blankItems, Option.map_eq_some_iff] at hitem
      obtain ⟨v, -, rfl⟩ := hitem
      exact isLeaf_blank v
    | nothing | bool | integer | floating | text => cases h

end Settings
end Tree
end ProgressTable.Settings
