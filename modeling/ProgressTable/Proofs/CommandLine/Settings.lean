import Mathlib.Tactic
import ProgressTable.Proofs.CommandLine.Effect
import ProgressTable.Proofs.Settings.Key

/-!
# The settings of a run

A run that gets as far as its command carries it out with settings that each come from one source:
an extra parameter, the settings file that was named, the one of the working directory, or what
holds when nothing is said. Which source it is depends on nothing that was said of other settings
(`Settings.Key.effective?`). That is `run_settings`, which also says when a table is rendered as a
preview, and about which extra parameters the run warns.
-/

namespace ProgressTable

open CommandLine (exists_of_bind_eq_ok)

/-! ## Loading files -/

namespace Settings.Layer

/-- The entries of a settings file, none if it is not there or not well formed. -/
def entriesOf (source : Option Text) : List (Text × Tree) :=
  (source.bind Toml.Document.read?).getD []

theorem fileEntries_eq {required : Bool} {source : Option Text} {es : List (Text × Tree)}
    (h : fileEntries required source = .ok es) : es = entriesOf source := by
  unfold fileEntries at h
  split at h
  · next text =>
    split at h
    · next read hread =>
      rw [entriesOf, Option.bind_some, hread]
      exact (Except.ok.inj h).symm
    · cases h
  · split at h
    · cases h
    · exact (Except.ok.inj h).symm

/-- A file is laid over the entries that are there. -/
theorem addFile_eq {required : Bool} {source : Option Text} {root new : List (Text × Tree)}
    (h : addFile root (.file required source) = .ok new) :
    new = Tree.lay (entriesOf source) root := by
  obtain ⟨es, hes, h⟩ := exists_of_bind_eq_ok h
  rw [← fileEntries_eq hes]
  exact (Except.ok.inj h).symm

variable (files : List (Bool × Option Text))

/-- Files are laid over each other in their order. -/
theorem foldlM_addFile {root new : List (Text × Tree)}
    (h : (files.map fun f => Layer.file f.1 f.2).foldlM addFile root = .ok new) :
    new = files.foldl (fun root f => Tree.lay (entriesOf f.2) root) root := by
  induction files generalizing root with
  | nil => exact (Except.ok.inj h).symm
  | cons f files ih =>
    obtain ⟨laid, hlaid, h⟩ := exists_of_bind_eq_ok h
    rw [ih h, addFile_eq hlaid]
    rfl

/-- There are no single values among files. -/
theorem foldlM_addValue (root : List (Text × Tree)) :
    (files.map fun f => Layer.file f.1 f.2).foldlM addValue root = .ok root := by
  induction files with
  | nil => rfl
  | cons f files ih => exact ih

end Settings.Layer

open Settings.Layer (entriesOf) in
/-- The settings that files give together. -/
theorem Settings.ofEntries_of_load (files : List (Bool × Option Text)) {s : Settings}
    (h : load (files.map fun f => .file f.1 f.2) = .ok s) :
    ofEntries (files.foldl (fun root f => Tree.lay (entriesOf f.2) root)
      Settings.default.toEntries) = .ok s := by
  obtain ⟨root, hroot, h⟩ := exists_of_bind_eq_ok h
  have hplaced : (files.map fun f => Layer.file f.1 f.2).all Layer.isWellPlaced = true := by
    simp [Layer.isWellPlaced]
  rw [Layer.entries, hplaced] at hroot
  obtain ⟨laid, hlaid, hvalues⟩ := exists_of_bind_eq_ok hroot
  rw [Layer.foldlM_addValue] at hvalues
  rw [← Layer.foldlM_addFile files hlaid, Except.ok.inj hvalues]
  exact h

namespace CommandLine

/-! ## Settings files -/

namespace Storage

variable {σ : Type} (files : Storage σ) (s : σ)

/-- The entries of the settings file under a name, none if there is no such file. -/
def settingsEntries (path : Text) : List (Text × Settings.Tree) :=
  Settings.Layer.entriesOf (perform s (settingsFile files.host path)).1

/-- The entries of the settings file that is named, none if none is named. -/
def namedEntries (config : Option Text) : List (Text × Settings.Tree) :=
  (config.map (files.settingsEntries s)).getD []

/-- A run that is prepared has loaded its settings from both files, and then set by the extra
parameters what they say. -/
theorem exists_of_prepare {config : Option Text} {extras unused : Dict Text} {settings : Settings}
    (h : files.prepare s config extras = .ok (settings, unused)) :
    ∃ loaded, Settings.ofEntries (Settings.Tree.lay (files.namedEntries s config)
        (Settings.Tree.lay (files.settingsEntries s defaultConfig) Settings.default.toEntries))
        = .ok loaded
      ∧ loaded.override extras = .ok (settings, unused) := by
  rw [prepare] at h
  cases hload : Settings.load (perform s (settingsLayers files.host config)).1 with
  | error e =>
    rw [hload] at h
    cases h
  | ok loaded =>
    rw [hload] at h
    cases hoverride : loaded.override extras with
    | error e =>
      simp only [hoverride] at h
      cases h
    | ok r =>
      simp only [hoverride] at h
      refine ⟨loaded, ?_, hoverride.trans (congrArg Except.ok (Except.ok.inj h))⟩
      rw [settingsLayers, perform_bind, snd_perform_settingsFile] at hload
      cases config with
      | none =>
        exact Settings.ofEntries_of_load
          [(false, (perform s (settingsFile files.host defaultConfig)).1)] hload
      | some path =>
        exact Settings.ofEntries_of_load
          [(false, (perform s (settingsFile files.host defaultConfig)).1),
            (true, (perform s (settingsFile files.host path)).1)] hload

end Storage

/-! ## Renderings -/

/-- What the files of a rendering hold: an element, a store, and in it the course of the target. -/
structure RenderFiles {σ : Type} (files : Storage σ) (s : σ) (elementPath fixturePath : Text)
    (target : Command.Target) (c : TableConfig) (records : Store) (course : CourseId) : Prop where
  element : ∃ t, files.read s elementPath = .ok t ∧ (TableConfig.decode t).value = .ok c
  store : ∃ t, files.read s fixturePath = .ok t ∧ Store.ofJson t = .ok records
  course : (Command.courseOf records target).run.value = .ok course

theorem value_bind_of_ok {α β : Type} {x : Command.Run α} {a : α} (h : x.run.value = .ok a)
    (f : α → Command.Run β) : (x >>= f).run.value = (f a).run.value := by
  show (ExceptT.bindCont f x.run.value).value = _
  rw [h]
  rfl

theorem value_loadElement {element : Text} {c : TableConfig}
    (h : (TableConfig.decode element).value = .ok c) :
    (Command.loadElement element).run.value = .ok c := by
  have hlift : (liftM (TableConfig.decode element) : Command.Run _).run.value = .ok (.ok c) :=
    congrArg Except.ok h
  rw [Command.loadElement, value_bind_of_ok hlift]
  rfl

theorem value_loadStore {fixture : Text} {s : Store} (h : Store.ofJson fixture = .ok s) :
    (Command.loadStore fixture).run.value = .ok s := by
  rw [Command.loadStore, h]
  rfl

/-- An element is rendered in a context that says whether it is a preview. -/
theorem value_render {element fixture : Text} {target : Command.Target} {c : TableConfig}
    {s : Store} {course : CourseId} (helement : (TableConfig.decode element).value = .ok c)
    (hstore : Store.ofJson fixture = .ok s)
    (hcourse : (Command.courseOf s target).run.value = .ok course) (user : UserId)
    (preview : Bool) (settings : Settings) :
    (Command.render element fixture user target preview settings).run.value
      = .ok (Element.render c ⟨user, course, preview, s.backend⟩
        settings.createDateFormat.value.format).value := by
  rw [Command.render, value_bind_of_ok (value_loadElement helement),
    value_bind_of_ok (value_loadStore hstore), value_bind_of_ok hcourse]
  cases preview <;> rfl

variable {σ φ κ : Type} [DecidableEq φ]

/-- What a rendering prints, or leaves in its output file if that could be written. -/
theorem perform_render (fs : FileSystem σ φ κ) {s : σ} {elementPath fixturePath : Text}
    {target : Command.Target} {c : TableConfig} {records : Store} {course : CourseId}
    (h : RenderFiles fs.toStorage s elementPath fixturePath target c records course)
    (settings : Settings) (user : UserId) (flag : Bool) (output : Option Text) :
    let html := (Element.render c ⟨user, course, flag || settings.preview, records.backend⟩
      settings.createDateFormat.value.format).value
    let carried := perform s (carryOut fs.host settings
      (.render elementPath fixturePath user target flag output))
    match output with
    | none => carried.1.stdout = line html
    | some path => carried.1.code = 0 → fs.read carried.2 path = .ok html := by
  intro html carried
  obtain ⟨element, helement, hdecode⟩ := h.element
  obtain ⟨fixture, hfixture, hstore⟩ := h.store
  have hvalue := value_render hdecode hstore h.course user (flag || settings.preview) settings
  have hcarried : carried = perform s (carryOut fs.host settings
      (.render elementPath fixturePath user target flag output)) := rfl
  rw [carryOut, fs.perform_withFile_ok helement, fs.perform_withFile_ok hfixture] at hcarried
  dsimp only at hcarried
  rw [hvalue] at hcarried
  cases output with
  | none =>
    dsimp only at hcarried ⊢
    rw [hcarried, perform_pure, outcomeOf, hvalue]
    rfl
  | some path =>
    dsimp only at hcarried ⊢
    rw [hcarried]
    cases hwrite : fs.write s path html with
    | ok after =>
      rw [fs.perform_writeFile_ok hwrite]
      exact fun _ => fs.read_of_write hwrite
    | error e =>
      obtain ⟨report, hfailed⟩ := fs.perform_writeFile_error hwrite
        (Command.render element fixture user target (flag || settings.preview) settings).run.logs
      rw [hfailed]
      exact fun hcode => absurd hcode Nat.one_ne_zero

/-! ## Runs -/

/-- On any file system, a run that is asked to carry out a command and whose settings can be loaded
carries it out with settings each of which is the value of its extra parameter, if one is given; or
else what the named file sets it to, or else what the file of the working directory sets it to, or
else what holds when nothing is said. What a file sets is what it sets alone, unless it counts items
of a list from the end. The run warns about just those extra parameters that no setting takes. A
table is rendered as a preview if this is asked for or set, and only then. -/
theorem run_settings (fs : FileSystem σ φ κ) (s : σ) (args : List Text) {invocation : Invocation}
    {settings : Settings} {unused : Dict Text} (hrequested : requested args = .ok invocation)
    (hprepare : fs.prepare s invocation.config (Extra.split args).2 = .ok (settings, unused)) :
    let extras := (Extra.split args).2
    let own := fs.settingsEntries s defaultConfig
    let named := fs.namedEntries s invocation.config
    let carried := perform s (carryOut fs.host settings invocation.request)
    let ran := runOn fs.toStorage s args
    Settings.Key.maxRanges.effective? extras own named = some settings.maxRanges
    ∧ Settings.Key.dateFormat.effective? extras own named = some settings.dateFormat
    ∧ Settings.Key.utcOffset.effective? extras own named = some settings.utcOffset
    ∧ Settings.Key.preview.effective? extras own named = some settings.preview
    ∧ (∀ file ∈ [own, named],
      (∀ e ∈ file, Settings.Tree.CountsForward (Settings.Tree.stepsOf e.1)) →
      ∀ (α : Type) (key : Settings.Key α) (before : List (Text × Settings.Tree)),
        key.setBy before file
          = (key.found (Settings.Tree.lay file [])).filter Settings.Tree.isLeaf)
    ∧ unused.entries = extras.entries.filter (fun e => e.1 ∉ Settings.consumed extras)
    ∧ ran = (carried.1.ending (unused.keys.map unusedWarning)
      (logFilter invocation.verbose settings), carried.2)
    ∧ ∀ elementPath fixturePath user target flag output c records course,
      invocation.request = .render elementPath fixturePath user target flag output →
      RenderFiles fs.toStorage s elementPath fixturePath target c records course →
      ∃ preview : Bool, (preview = true ↔ flag = true ∨ settings.preview = true) ∧
        let html := (Element.render c ⟨user, course, preview, records.backend⟩
          settings.createDateFormat.value.format).value
        match output with
        | none => ran.1.stdout = line html
        | some path => ran.1.code = 0 → fs.read ran.2 path = .ok html := by
  intro extras own named carried ran
  obtain ⟨loaded, hload, hoverride⟩ := fs.exists_of_prepare s hprepare
  have hran : ran = (carried.1.ending (unused.keys.map unusedWarning)
      (logFilter invocation.verbose settings), carried.2) := by
    show runOn fs.toStorage s args = _
    rw [runOn, fs.perform_run hrequested, hprepare]
  refine ⟨Settings.Key.follows_maxRanges.effective_eq hload hoverride,
    Settings.Key.follows_dateFormat.effective_eq hload hoverride,
    Settings.Key.follows_utcOffset.effective_eq hload hoverride,
    Settings.Key.follows_preview.effective_eq hload hoverride,
    fun file _ hforward α key before => key.setBy_eq_alone hforward,
    Settings.entries_unused hoverride, hran, ?_⟩
  intro elementPath fixturePath user target flag output c records course hrequest hfiles
  refine ⟨flag || settings.preview, Bool.or_eq_true_iff, ?_⟩
  have hcarried : carried = perform s (carryOut fs.host settings
      (.render elementPath fixturePath user target flag output)) := by
    rw [← hrequest]
  have hrender := perform_render fs hfiles settings user flag output
  rw [hran, hcarried]
  cases output <;> exact hrender

/-- The number of slots comes from the first of two parameters, the format from the named file,
which sets it alone, the offset and the preview from the file of the working directory. The second
parameter is warned about, like one that does not exist. -/
theorem run_settings_layered :
    let d : Directory := {
      files := [
        (["author".toList, "ctable.toml".toList], Text.ofLines ["[dates]".toList,
          "format = '%Y'".toList, "utc_offset_minutes = 60".toList, "[render]".toList,
          "preview = true".toList]),
        (["etc".toList, "own.toml".toList], Text.ofLines ["[dates]".toList,
          "format = '%d'".toList]),
        (["author".toList, "table.json".toList], "\x7b\"content\": \"| Week 1 |\"\x7d".toList),
        (["srv".toList, "course.json".toList], "\x7b\x7d".toList)]
      here := ["author".toList]
      others := [] }
    let args := ["--config", "/etc/own", "render", "table.json", "--extra-maxranges", "5",
      "--fixture", "../srv/course.json", "--user", "7", "--course", "3", "--extra-max-ranges", "4",
      "--extra-color"].map String.toList
    let extras := (Extra.split args).2
    let own := Directory.storage.settingsEntries d defaultConfig
    let named := Directory.storage.namedEntries d (some "/etc/own".toList)
    let c : TableConfig := ⟨"| Week 1 |".toList, [], []⟩
    Settings.Key.maxRanges.effective? extras own named = some 4
    ∧ Settings.Key.dateFormat.effective? extras own named = some "%d".toList
    ∧ Settings.Key.utcOffset.effective? extras own named = some 60
    ∧ Settings.Key.preview.effective? extras own named = some true
    ∧ (∀ before, (Settings.Key.dateFormat.setBy before named).bind Settings.Tree.toText?
      = some "%d".toList)
    ∧ extras.entries.filter (fun e => e.1 ∉ Settings.consumed extras)
      = [("color".toList, "true".toList), ("maxranges".toList, ['5'])]
    ∧ (runOn Directory.storage d args).1.stdout
      = line (Element.render c ⟨7, 3, true, Store.empty.backend⟩
        (Settings.mk 4 "%d".toList 60 true "warn".toList).createDateFormat.value.format).value := by
  intro d args extras own named c
  have hrequested : requested args = .ok ⟨some "/etc/own".toList, false,
      .render "table.json".toList "../srv/course.json".toList 7 (.course 3) false none⟩ := by
    decide +kernel
  have hprepare : Directory.storage.prepare d (some "/etc/own".toList) extras
      = .ok (⟨4, "%d".toList, 60, true, "warn".toList⟩,
        .ofList [("color".toList, "true".toList), ("maxranges".toList, ['5'])]) := by
    decide +kernel
  have helement : d.read "table.json".toList
      = .ok "\x7b\"content\": \"| Week 1 |\"\x7d".toList := by
    decide +kernel
  have hfixture : d.read "../srv/course.json".toList = .ok "\x7b\x7d".toList := by decide +kernel
  have hfiles : RenderFiles Directory.storage d "table.json".toList "../srv/course.json".toList
      (.course 3) c .empty 3 :=
    ⟨⟨_, helement, by decide +kernel⟩, ⟨_, hfixture, by decide +kernel⟩, rfl⟩
  have hforward : ∀ e ∈ named, Settings.Tree.CountsForward (Settings.Tree.stepsOf e.1) := by
    decide +kernel
  obtain ⟨hmaxRanges, hdateFormat, hutcOffset, hpreview, halone, hunused, -, hrender⟩ :=
    run_settings Directory.fileSystem d args hrequested hprepare
  obtain ⟨preview, hmode, hstdout⟩ := hrender _ _ _ _ _ _ _ _ _ rfl hfiles
  obtain rfl := hmode.2 (.inr rfl)
  dsimp only at hstdout
  rw [Directory.toStorage_fileSystem] at hstdout
  have hnamed := halone named (List.mem_cons_of_mem _ List.mem_cons_self) hforward
  exact ⟨hmaxRanges, hdateFormat, hutcOffset, hpreview,
    fun before => by
      rw [hnamed Text .dateFormat before]
      decide +kernel,
    hunused.symm.trans (by decide +kernel), hstdout⟩

end CommandLine
end ProgressTable
