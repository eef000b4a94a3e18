import Mathlib.Tactic
import ProgressTable.Proofs.CommandLine.FileSystem
import ProgressTable.Proofs.Text.Dict

/-!
# Directories as file systems

A path leads to one file of a directory, which is there or is not there yet. Writing gives this file
its text and leaves all others as they were (`exists_of_write`), and the file is read by any path to
it (`LeadsTo.read_eq`). So the files of a directory are a file system (`Directory.fileSystem`).

`Follows` is the way along a path, one constructor for each kind of name. The way stays open when
the file is written, because a file is put only where there was a file or nothing, and what lies on
the way is a directory.
-/

namespace ProgressTable.CommandLine.Directory

variable {d : Directory} {names : List Text}

/-! ## The files of a directory -/

/-- The text of each file. -/
def contents (d : Directory) (names : List Text) : Option Text := d.files.lookup names

/-- One file changes. -/
theorem contents_put (d : Directory) (names : List Text) (t : Text) :
    (d.put names t).contents = Function.update d.contents names (some t) := by
  funext other
  by_cases h : other = names
  · subst h
    rw [Function.update_self]
    exact List.lookup_cons_self
  · rw [Function.update_of_ne h]
    have hbeq : (other == names) = false := beq_eq_false_iff_ne.2 h
    rw [contents, put, List.lookup_cons, hbeq]
    exact lookup_filter_ne h

/-- What was a directory stays one. -/
theorem isDirectory_put {above : List Text} (h : d.isDirectory above = true) (t : Text) :
    (d.put names t).isDirectory above = true := by
  rw [isDirectory, Bool.or_eq_true] at h ⊢
  refine h.imp id fun hbelow => ?_
  obtain ⟨f, hf, hbelow⟩ := List.any_eq_true.1 hbelow
  rw [List.any_eq_true]
  by_cases hname : f.1 = names
  · exact ⟨(names, t), List.mem_cons_self, by rw [← hname]; exact hbelow⟩
  · exact ⟨f, List.mem_cons_of_mem _ (List.mem_filter.2 ⟨hf, by simpa using hname⟩), hbelow⟩

/-! ## Where a path leads -/

/-- A name that goes on to what it names, and is not too long for that. -/
structure IsPlain (n : Text) : Prop where
  ne_here : n ≠ Path.here
  ne_above : n ≠ Path.above
  fits : ¬ Path.greatestName < Path.byteSize n

/-- Following names from a directory leads to a file, which is there or is not there yet. -/
inductive Follows (d : Directory) : List Text → List Text → List Text → Prop
  | here {here ns names} (h : Follows d here ns names) : Follows d here (Path.here :: ns) names
  | above {here ns names} (h : Follows d here.dropLast ns names) :
    Follows d here (Path.above :: ns) names
  | enter {here n ns names} (hn : IsPlain n) (hnone : d.contents (here ++ [n]) = none)
    (hbelow : d.isDirectory (here ++ [n]) = true) (h : Follows d (here ++ [n]) ns names) :
    Follows d here (n :: ns) names
  | last {here n} (hn : IsPlain n)
    (hfree : d.contents (here ++ [n]) = none → d.isDirectory (here ++ [n]) = false) :
    Follows d here [n] (here ++ [n])

theorem follow_plain {n : Text} (hn : IsPlain n) (here ns : List Text) :
    d.follow here (n :: ns) = match d.contents (here ++ [n]) with
      | some c => if ns.isEmpty then .ok (.file (here ++ [n]) c) else .error .notDirectory
      | none =>
        if d.isDirectory (here ++ [n]) then d.follow (here ++ [n]) ns
        else if ns.isEmpty then .ok (.absent (here ++ [n]))
        else .error .notFound := by
  rw [follow, if_neg hn.ne_here, if_neg hn.ne_above, if_neg hn.fits]
  rfl

/-- The file at a place, whether it is there or not. -/
def Place.target? : Place → Option (List Text)
  | .file names _ | .absent names => some names
  | .directory => none

/-- A path that leads to a file leads to it name by name. -/
theorem follows_of_follow {here ns : List Text} {p : Place} (h : d.follow here ns = .ok p)
    (hp : p.target? = some names) : d.Follows here ns names := by
  induction ns generalizing here with
  | nil =>
    obtain rfl : Place.directory = p := Except.ok.inj h
    cases hp
  | cons n ns ih =>
    by_cases hhere : n = Path.here
    · subst hhere
      rw [follow, if_pos rfl] at h
      exact .here (ih h)
    by_cases habove : n = Path.above
    · subst habove
      rw [follow, if_neg hhere, if_pos rfl] at h
      exact .above (ih h)
    by_cases hlong : Path.greatestName < Path.byteSize n
    · rw [follow, if_neg hhere, if_neg habove, if_pos hlong] at h
      cases h
    have hn : IsPlain n := ⟨hhere, habove, hlong⟩
    rw [follow_plain hn] at h
    -- only the last name may be that of a file, or of nothing
    cases hc : d.contents (here ++ [n]) with
    | some c =>
      simp only [hc] at h
      split at h
      · next hlast =>
        obtain rfl := List.isEmpty_iff.1 hlast
        obtain rfl := Except.ok.inj h
        obtain rfl := Option.some.inj hp
        exact .last hn fun hnone => absurd (hc.symm.trans hnone) (by simp)
      · cases h
    | none =>
      simp only [hc] at h
      split at h
      · next hbelow => exact .enter hn hc hbelow (ih h)
      · next hbelow =>
        split at h
        · next hlast =>
          obtain rfl := List.isEmpty_iff.1 hlast
          obtain rfl := Except.ok.inj h
          obtain rfl := Option.some.inj hp
          exact .last hn fun _ => Bool.eq_false_of_not_eq_true hbelow
        · cases h

/-- A file that is there is found. -/
theorem Follows.follow_eq {here ns : List Text} (h : d.Follows here ns names) {t : Text}
    (ht : d.contents names = some t) : d.follow here ns = .ok (.file names t) := by
  induction h with
  | here _ ih => rw [follow, if_pos rfl, ih ht]
  | above _ ih => rw [follow, if_neg (by decide), if_pos rfl, ih ht]
  | enter hn hnone hbelow _ ih => rw [follow_plain hn, hnone, if_pos hbelow, ih ht]
  | last hn _ => rw [follow_plain hn, ht]; rfl

/-- A file that is not there is no directory. -/
theorem Follows.isDirectory_eq {here ns : List Text} (h : d.Follows here ns names)
    (hnone : d.contents names = none) : d.isDirectory names = false := by
  induction h with
  | here _ ih | above _ ih | enter _ _ _ _ ih => exact ih hnone
  | last _ hfree => exact hfree hnone

/-- The way to a file stays open when a text is put into it. -/
theorem Follows.put {here ns : List Text} (h : d.Follows here ns names) (t : Text) :
    (d.put names t).Follows here ns names := by
  induction h with
  | here _ ih => exact .here ih
  | above _ ih => exact .above ih
  | @enter here n ns names hn hnone hbelow h ih =>
    have hne : here ++ [n] ≠ names := by
      rintro rfl
      rw [h.isDirectory_eq hnone] at hbelow
      exact Bool.false_ne_true hbelow
    refine .enter hn ?_ (isDirectory_put hbelow t) ih
    rw [contents_put, Function.update_of_ne hne, hnone]
  | last hn _ =>
    refine .last hn fun hnone => ?_
    rw [contents_put, Function.update_self] at hnone
    cases hnone

/-! ## Writing and reading -/

/-- A path leads to a file, which is there or is not there yet. -/
structure LeadsTo (d : Directory) (path : Text) (names : List Text) : Prop where
  ne_nil : path.isEmpty = false
  fits : ¬ Path.greatestLength < Path.byteSize path
  isFile : endsInSlash path = false
  follows : d.Follows (d.start path) (Path.names path) names

/-- A path leads somewhere if it says something, is not too long, and can be followed. -/
theorem place_eq_ok_iff {path : Text} {p : Place} : d.place path = .ok p ↔
    path.isEmpty = false ∧ ¬ Path.greatestLength < Path.byteSize path
      ∧ d.follow (d.start path) (Path.names path) = .ok p := by
  rw [place]
  cases path.isEmpty with
  | true => simp
  | false => by_cases hlong : Path.greatestLength < Path.byteSize path <;> simp [hlong]

/-- What was written was put where the path leads. -/
theorem exists_place_of_write {d' : Directory} {path t : Text} (h : d.write path t = .ok d') :
    ∃ p names, d.place path = .ok p ∧ p.target? = some names ∧ endsInSlash path = false
      ∧ d' = d.put names t := by
  rw [write] at h
  split at h
  · cases h
  · cases h
  all_goals
    next hplace =>
    split at h
    · cases h
    · next hslash =>
      exact ⟨_, _, hplace, rfl, Bool.eq_false_of_not_eq_true hslash, (Except.ok.inj h).symm⟩

/-- Writing puts a text into the file that the path leads to. -/
theorem exists_of_write {d' : Directory} {path t : Text} (h : d.write path t = .ok d') :
    ∃ names, d.LeadsTo path names ∧ d' = d.put names t := by
  obtain ⟨p, names, hplace, hp, hslash, hd⟩ := exists_place_of_write h
  obtain ⟨hsome, hfits, hfollow⟩ := place_eq_ok_iff.1 hplace
  exact ⟨names, ⟨hsome, hfits, hslash, follows_of_follow hfollow hp⟩, hd⟩

/-- A file that is there is read. -/
theorem LeadsTo.read_eq {path t : Text} (h : d.LeadsTo path names)
    (ht : d.contents names = some t) : d.read path = .ok t := by
  have hplace : d.place path = .ok (.file names t) :=
    place_eq_ok_iff.2 ⟨h.ne_nil, h.fits, h.follows.follow_eq ht⟩
  rw [read, hplace]
  exact if_neg (by rw [h.isFile]; exact Bool.false_ne_true)

/-- The files of a directory and those around it, each known by the names on the way to it. -/
def fileSystem : FileSystem Directory (List Text) Text where
  toStorage := storage
  ofText := id
  contents := contents
  LeadsTo := LeadsTo
  read_eq := LeadsTo.read_eq
  exists_of_write {d _ t _} h := by
    obtain ⟨names, hnames, rfl⟩ := exists_of_write h
    -- the text lies in the same directories, so the path still begins where it began
    exact ⟨names, hnames, { hnames with follows := hnames.follows.put t }, contents_put d names t⟩

theorem toStorage_fileSystem : fileSystem.toStorage = storage := rfl

end ProgressTable.CommandLine.Directory
