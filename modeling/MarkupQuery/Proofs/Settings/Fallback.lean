import MarkupQuery.Proofs.Settings.Consulting
import MarkupQuery.Settings.Loading

/-!
# The first access to the settings

Settings are loaded when they are first asked for. If the defaults are valid, and whatever the packages
are, as long as they are lawful, the outcome depends on the settings file only through its obstacle:
the failure that it ends in and that the defaults do not make up for. With an obstacle the access fails
with it and nothing is loaded; without one the settings of the file are loaded, or the defaults if it
makes none, and whatever happens afterwards, every access sees them until they are reset.

Main statement: `Surroundings.first_access_settles`.
-/

namespace MarkupQuery

/-- The same surroundings on another disk. -/
def Surroundings.onto (s : Surroundings) (disk : Disk) : Surroundings := { s with disk }

namespace Settings

/-! ## What is seen of settings -/

/-- What the settings answer to names. -/
def answer (c : Settings) (names : List String) : Except SettingsFailure Datum :=
  match c.toDatum.descend? names with
  | some d => .ok d
  | none => .error (.unknownSetting (String.intercalate "." names))

variable {packages : Packages} {s : Surroundings} {c d : Settings} {names : List String}

theorem run_get (s : Surroundings) : (get : Loading Surroundings).run s = (.ok s, s) := rfl

theorem run_outcome {α : Type} (a : Loading α) (s : Surroundings) :
    (Loading.outcome a).run s = (.ok (a.run s).1, (a.run s).2) := rfl

theorem current_of_loaded (h : s.loaded = some c) : (current packages).run s = (.ok c, s) := by
  rw [current, run_bind, run_get]
  dsimp only
  rw [h]
  rfl

theorem current_of_load (hnew : s.loaded = none) :
    (current packages).run s = match (load packages).run s with
      | (.ok c, e) => (.ok c, { e with loaded := some c })
      | (.error f, e) => (.error f, e) := by
  rw [current, run_bind, run_get]
  dsimp only
  rw [hnew]
  refine (run_bind _ _ s).trans ?_
  rcases (load packages).run s with ⟨_ | _, e⟩ <;> rfl

theorem lookUp_run (names : List String) (s : Surroundings) : (lookUp packages names).run s =
    match (current packages).run s with
    | (.ok c, e) => (c.answer names, e)
    | (.error f, e) => (.error f, e) := by
  rw [lookUp, run_bind]
  rcases (current packages).run s with ⟨_ | c, e⟩
  · rfl
  · dsimp only
    rw [answer]
    cases c.toDatum.descend? names <;> rfl

/-- Settings that are loaded stay as they are, and answer. -/
theorem lookUp_of_loaded (h : s.loaded = some c) (names : List String) :
    (lookUp packages names).run s = (c.answer names, s) := by
  rw [lookUp_run, current_of_loaded h]

/-! ## Consulting the packages -/

theorem ofFields_run (packages : Packages) (given : Datum.Fields) (s : Surroundings) :
    (ofFields packages given).run s =
      (((packages.construct s.environment given).runOn s.disk).1,
        s.onto ((packages.construct s.environment given).runOn s.disk).2) := rfl

theorem ofDatum_run (packages : Packages) (d : Datum) (s : Surroundings) :
    (ofDatum packages d).run s = (((packages.validate s.environment d).runOn s.disk).1,
      s.onto ((packages.validate s.environment d).runOn s.disk).2) := rfl

theorem ofDefaults_run (packages : Packages) (s : Surroundings) : (ofDefaults packages).run s =
    (match ((ofFields packages []).run s).1 with
      | .ok c => .ok c
      | .error (.invalid _) => .error .invalidDefaults
      | .error f => .error f, ((ofFields packages []).run s).2) := by
  rw [ofDefaults, run_bind, run_outcome]
  dsimp only
  rcases ((ofFields packages []).run s).1 with f | c
  · cases f <;> rfl
  · rfl

theorem ofDefaults_eq_ok_iff :
    ((ofDefaults packages).run s).1 = .ok d ↔
      ((packages.construct s.environment []).runOn s.disk).1 = .ok d := by
  rw [ofDefaults_run, ofFields_run]
  rcases ((packages.construct s.environment []).runOn s.disk).1 with f | c
  · cases f <;> simp
  · rfl

/-- Valid defaults are the same after directories were made. -/
theorem ofDefaults_of_grown (hlawful : packages.Lawful) (h : ((ofDefaults packages).run s).1 = .ok d)
    {disk : Disk} (hg : s.disk.Grown disk) :
    ∃ disk', (ofDefaults packages).run (s.onto disk) = (.ok d, s.onto disk') := by
  have hok : ((packages.construct s.environment []).runOn disk).1 = .ok d :=
    (Consultation.runOn_alike (hlawful.construct _ _) hg.kindred).eq_ok (ofDefaults_eq_ok_iff.mp h)
  refine ⟨((packages.construct s.environment []).runOn disk).2,
    Prod.ext ((ofDefaults_eq_ok_iff (s := s.onto disk)).mpr hok) ?_⟩
  rw [ofDefaults_run]
  rfl

theorem ofFile_run (path : DiskPath) (s : Surroundings) : (ofFile packages path).run s =
    (match s.disk.isFile path with
      | .error e => throw (.refused e)
      | .ok false => throw (.noFile path)
      | .ok true => match packages.read (s.disk.bytes path) with
        | .error f => throw f
        | .ok d => ofDatum packages (if d.saysSomething then d else .record []) :
          Loading Settings).run s := rfl

/-- Reading a file changes nothing but that directories may be made. -/
theorem ofFile_grown (packages : Packages) (path : DiskPath) (s : Surroundings) :
    ∃ disk, ((ofFile packages path).run s).2 = s.onto disk ∧ s.disk.Grown disk := by
  rw [ofFile_run]
  split
  · exact ⟨s.disk, rfl, .refl _⟩
  · exact ⟨s.disk, rfl, .refl _⟩
  · split
    · exact ⟨s.disk, rfl, .refl _⟩
    · rw [ofDatum_run]
      exact ⟨_, rfl, Consultation.grown_runOn _ _⟩

end Settings

namespace Surroundings

open Settings

/-- What reading the settings file comes to, if there is one. -/
def fromFile? (packages : Packages) (s : Surroundings) :
    Option (Except SettingsFailure Settings × Surroundings) :=
  (findFile s.disk).map fun name => (ofFile packages (DiskPath.ofText name)).run s

/-- The settings that the settings file makes, if there is one and it makes any. -/
def fileSettings? (packages : Packages) (s : Surroundings) : Option Settings :=
  (s.fromFile? packages).bind fun outcome => outcome.1.toOption

/-- The failure that the settings file ends in and that the defaults do not make up for, if there is
one. -/
def obstacle? (packages : Packages) (s : Surroundings) : Option SettingsFailure :=
  (s.fromFile? packages).bind fun outcome => match outcome.1 with
    | .ok _ => none
    | .error f => if f.isRecoverable then none else some f

variable {packages : Packages} {s : Surroundings} {c d : Settings}

/-! ## Loading -/

theorem load_run (s : Surroundings) : (load packages).run s = match s.fromFile? packages with
    | none => (ofDefaults packages).run s
    | some (.ok c, e) => (.ok c, e)
    | some (.error f, e) =>
      if f.isRecoverable then (ofDefaults packages).run e else (.error f, e) := by
  rw [load, run_bind, run_get, fromFile?]
  dsimp only
  cases findFile s.disk with
  | none => rfl
  | some name =>
    refine (run_bind _ _ s).trans ?_
    rw [run_outcome, Option.map_some]
    dsimp only
    rcases (ofFile packages (DiskPath.ofText name)).run s with ⟨f | c, e⟩
    · dsimp only
      split <;> rfl
    · rfl

/-- Reading the settings file changes nothing but that directories may be made. -/
theorem fromFile?_grown {outcome : Except SettingsFailure Settings × Surroundings}
    (h : s.fromFile? packages = some outcome) :
    ∃ disk, outcome.2 = s.onto disk ∧ s.disk.Grown disk := by
  obtain ⟨name, -, rfl⟩ := Option.map_eq_some_iff.mp h
  exact ofFile_grown packages (DiskPath.ofText name) s

/-- What loading comes to, going by the obstacle. -/
theorem load_of_obstacle {f : SettingsFailure} (h : s.obstacle? packages = some f) :
    ∃ disk, s.disk.Grown disk ∧ (load packages).run s = (.error f, s.onto disk) := by
  obtain ⟨⟨result, e⟩, hfile, hfailed⟩ := Option.bind_eq_some_iff.mp h
  obtain ⟨disk, rfl, hgrown⟩ := fromFile?_grown hfile
  refine ⟨disk, hgrown, ?_⟩
  rw [load_run, hfile]
  cases result with
  | ok c => cases hfailed
  | error g =>
    dsimp only at hfailed ⊢
    split at hfailed
    · cases hfailed
    · next hg =>
      cases hfailed
      rw [if_neg hg]

theorem load_of_clear (hlawful : packages.Lawful) (hdefaults : ((ofDefaults packages).run s).1 = .ok d)
    (h : s.obstacle? packages = none) :
    ∃ disk, (load packages).run s = (.ok ((s.fileSettings? packages).getD d), s.onto disk) := by
  rw [load_run, fileSettings?]
  rw [obstacle?] at h
  cases hfile : s.fromFile? packages with
  | none => exact ofDefaults_of_grown hlawful hdefaults (.refl s.disk)
  | some outcome =>
    obtain ⟨result, e⟩ := outcome
    obtain ⟨disk, rfl, hgrown⟩ := fromFile?_grown hfile
    cases result with
    | ok c => exact ⟨disk, rfl⟩
    | error f =>
      rw [hfile, Option.bind_some] at h
      obtain ⟨disk', hrun⟩ := ofDefaults_of_grown hlawful hdefaults hgrown
      refine ⟨disk', ?_⟩
      dsimp only at h ⊢
      split at h
      · next hf =>
        rw [if_pos hf]
        exact hrun
      · cases h

/-! ## What happens later -/

/-- What may happen to the surroundings: the operations on settings, and whatever changes files and
variables besides. -/
inductive Step where
  | lookUp (names : List String)
  | construct (given : Datum.Fields)
  | validate (d : Datum)
  | readFile (path : DiskPath)
  | openLog (log : LogSettings)
  | outside (disk : Disk) (environment : Environment)
  | reset (settings : Option Settings)

/-- The surroundings after a step, be it a failure or not. -/
def after (packages : Packages) (s : Surroundings) : Step → Surroundings
  | .lookUp names => ((lookUp packages names).run s).2
  | .construct given => ((ofFields packages given).run s).2
  | .validate d => ((ofDatum packages d).run s).2
  | .readFile path => ((ofFile packages path).run s).2
  | .openLog log => (log.openFile.run s).2
  | .outside disk environment => { s with disk, environment }
  | .reset settings => ((reset settings).run s).2

def Step.isReset : Step → Bool
  | .reset _ => true
  | _ => false

theorem loaded_ofFile (path : DiskPath) (s : Surroundings) :
    ((ofFile packages path).run s).2.loaded = s.loaded := by
  obtain ⟨disk, hrun, -⟩ := ofFile_grown packages path s
  rw [hrun]
  rfl

theorem loaded_openFile (log : LogSettings) (s : Surroundings) :
    (log.openFile.run s).2.loaded = s.loaded := by
  rw [LogSettings.openFile]
  cases log.file with
  | none => rfl
  | some path =>
    dsimp only
    rw [Loading.changeDisk, run_bind, run_get]
    dsimp only
    cases s.disk.open path <;> rfl

/-- Settings that are loaded stay until they are reset. -/
theorem loaded_after {step : Step} (hstep : step.isReset = false) (h : s.loaded = some c) :
    (s.after packages step).loaded = some c := by
  cases step with
  | lookUp names =>
    rw [after, lookUp_of_loaded h]
    exact h
  | construct given => exact h
  | validate d => exact h
  | readFile path => exact (loaded_ofFile path s).trans h
  | openLog log => exact (loaded_openFile log s).trans h
  | outside disk environment => exact h
  | reset settings => cases hstep

theorem loaded_afterAll {history : List Step} (hhistory : ∀ step ∈ history, step.isReset = false)
    (h : s.loaded = some c) : (history.foldl (after packages) s).loaded = some c := by
  induction history generalizing s with
  | nil => exact h
  | cons step history ih =>
    exact ih (fun other hother => hhistory other (List.mem_cons_of_mem _ hother))
      (loaded_after (hhistory step List.mem_cons_self) h)

/-! ## A single settings file -/

/-- A working directory with nothing but a settings file, and no variables. -/
def withFile (bytes : ByteArray) : Surroundings := { disk := ⟨[(["chisel.yaml"], .file bytes)]⟩ }

theorem find_withFile (bytes : ByteArray) :
    (withFile bytes).disk.find (DiskPath.ofText "chisel.yaml").text
      = .ok (.file ["chisel.yaml"] bytes) := by
  rw [Disk.find_text (DiskPath.plain_ofText _) (by decide)]
  rfl

theorem findFile_withFile (bytes : ByteArray) :
    findFile (withFile bytes).disk = some "chisel.yaml" := by
  rw [findFile, fileNames, List.find?_cons_of_pos]
  rw [Disk.exists, find_withFile]

theorem fromFile?_withFile (packages : Packages) (bytes : ByteArray) :
    (withFile bytes).fromFile? packages = some ((match packages.read bytes with
      | .error f => throw f
      | .ok d => ofDatum packages (if d.saysSomething then d else .record []) :
        Loading Settings).run (withFile bytes)) := by
  rw [fromFile?, findFile_withFile, Option.map_some, ofFile_run, Disk.isFile, Disk.bytes,
    find_withFile]

theorem ofDefaults_withFile (bytes : ByteArray) :
    ((ofDefaults .standard).run (withFile bytes)).1 = .ok {} := rfl

/-! ## The first access -/

/-- The first access finds settings, and every later one finds the same until they are reset. -/
structure Settles (packages : Packages) (s : Surroundings) (c : Settings) : Prop where
  first : ∀ names, ((lookUp packages names).run s).1 = c.answer names
  installed : ∀ names, ((lookUp packages names).run s).2.loaded = some c
  later : ∀ names (history : List Step), (∀ step ∈ history, step.isReset = false) → ∀ others,
    ((lookUp packages others).run
      (history.foldl (after packages) ((lookUp packages names).run s).2)).1 = c.answer others

/-- If the defaults are valid, the first access to the settings settles on those of the settings file,
or on the defaults if the file makes none, unless the file holds an obstacle. Then the access fails
with that obstacle, and nothing happens but that directories may be made: nothing is loaded. -/
theorem first_access_settles (hlawful : packages.Lawful) (hnew : s.loaded = none)
    (hdefaults : ((ofDefaults packages).run s).1 = .ok d) :
    match s.obstacle? packages with
    | none => s.Settles packages ((s.fileSettings? packages).getD d)
    | some f => ∃ disk, s.disk.Grown disk ∧
        ∀ names, (lookUp packages names).run s = (.error f, s.onto disk) := by
  cases hobstacle : s.obstacle? packages with
  | none =>
    obtain ⟨disk, hload⟩ := load_of_clear hlawful hdefaults hobstacle
    have hrun : ∀ names, (lookUp packages names).run s =
        (((s.fileSettings? packages).getD d).answer names,
          { s.onto disk with loaded := some ((s.fileSettings? packages).getD d) }) := fun names => by
      rw [lookUp_run, current_of_load hnew, hload]
    refine ⟨fun names => ?_, fun names => ?_, fun names history hhistory others => ?_⟩
    · rw [hrun]
    · rw [hrun]
    · rw [lookUp_of_loaded (loaded_afterAll hhistory (by rw [hrun]))]
  | some f =>
    obtain ⟨disk, hgrown, hload⟩ := load_of_obstacle hobstacle
    refine ⟨disk, hgrown, fun names => ?_⟩
    rw [lookUp_run, current_of_load hnew, hload]

theorem first_access_settles_unknown_backend :
    Packages.standard.Lawful ∧ (withFile "parser:\n  backend: regex\n".toUTF8).loaded = none ∧
      ((ofDefaults .standard).run (withFile "parser:\n  backend: regex\n".toUTF8)).1 = .ok {} ∧
      (withFile "parser:\n  backend: regex\n".toUTF8).Settles .standard {} := by
  have hclear : (withFile "parser:\n  backend: regex\n".toUTF8).obstacle? .standard = none := by
    rw [obstacle?, fromFile?_withFile]
    rfl
  have hnone : (withFile "parser:\n  backend: regex\n".toUTF8).fileSettings? .standard = none := by
    rw [fileSettings?, fromFile?_withFile]
    rfl
  have hsettles := first_access_settles (s := withFile "parser:\n  backend: regex\n".toUTF8)
    Packages.standard_lawful rfl (ofDefaults_withFile _)
  rw [hclear, hnone] at hsettles
  exact ⟨Packages.standard_lawful, rfl, ofDefaults_withFile _, hsettles⟩

/-- Valid defaults do not help against a file that is no text, or whose log file is a number: the access
fails and leaves everything as it was, so that the next one fails in the same way. -/
theorem first_access_fails :
    (((ofDefaults .standard).run (withFile ⟨#[0xff]⟩)).1 = .ok {} ∧
      (lookUp .standard ["version"]).run (withFile ⟨#[0xff]⟩)
        = (.error (.foreign Packages.undecodable), withFile ⟨#[0xff]⟩)) ∧
    ((ofDefaults .standard).run (withFile "log:\n  log_file: 5\n".toUTF8)).1 = .ok {} ∧
      (lookUp .standard ["version"]).run (withFile "log:\n  log_file: 5\n".toUTF8)
        = (.error (.notAPath "int"), withFile "log:\n  log_file: 5\n".toUTF8) := by
  have hfails : ∀ bytes f, (withFile bytes).fromFile? .standard = some (.error f, withFile bytes) →
      f.isRecoverable = false →
      (lookUp .standard ["version"]).run (withFile bytes) = (.error f, withFile bytes) :=
    fun bytes f h hf => by
      rw [lookUp_run, current_of_load rfl, load_run, h]
      dsimp only
      rw [hf]
      rfl
  refine ⟨⟨ofDefaults_withFile _, hfails _ _ ?_ rfl⟩, ofDefaults_withFile _, hfails _ _ ?_ rfl⟩
  · rw [fromFile?_withFile]
    rfl
  · rw [fromFile?_withFile]
    rfl

end Surroundings
end MarkupQuery
