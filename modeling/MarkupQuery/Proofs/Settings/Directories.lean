import MarkupQuery.Proofs.Settings.PathText

/-!
# Making directories

Making a directory with those missing on the way to it succeeds exactly if the system can follow the
path when everything that is missing counts as a directory (`Disk.makeDirectories_isOk_iff`). Whether it
succeeds or not, the disk only grows: it keeps what it has and gets further directories
(`Disk.grown_makeDirectories`). Growing makes no difference to where such a path can be followed, so
that disks which have grown from one another are kindred: what can be made on one can be made on the
other (`Disk.Kindred.makeDirectories_isOk_iff`). A null character in the path is met in any case
(`Disk.makeDirectories_eq_nullCharacter_iff`).
-/

namespace MarkupQuery
namespace Disk

variable {d e : Disk} {p : DiskPath} {here there : Option (List String)} {name : String}

/-! ## Growing -/

/-- The second disk has what the first one has, and beyond that directories only. -/
def Grown (d e : Disk) : Prop :=
  ∀ place, e.entries.find? place = d.entries.find? place ∨
    d.entries.find? place = none ∧ e.entries.find? place = some .directory

namespace Grown

theorem refl (d : Disk) : Grown d d := fun _ => Or.inl rfl

theorem trans {f : Disk} (h : Grown d e) (h' : Grown e f) : Grown d f := fun place => by
  rcases h' place with h' | ⟨hnone, hdir⟩
  · rw [h']
    exact h place
  · rcases h place with h | ⟨-, h⟩
    · exact Or.inr ⟨h.symm.trans hnone, hdir⟩
    · rw [h] at hnone
      cases hnone

/-- A new directory where nothing is. -/
theorem put {place : List String} (h : d.entries.find? place = none) :
    Grown d (d.put place .directory) := fun other => by
  by_cases hother : place = other
  · rw [← hother]
    exact Or.inr ⟨h, Mapping.find?_put_self _ _ _⟩
  · exact Or.inl (Mapping.find?_put_of_ne _ _ hother)

end Grown

/-! ## A single name -/

/-- Entering what is at a place. -/
def enterEntry (place : List String) : Option DiskEntry → Except Refusal (Option (List String))
  | some .directory => .ok (some place)
  | some (.file _) => .error .notADirectory
  | none => .error .missing

/-- What a name means that leads to a place. -/
def lookEntry (place : List String) : Option DiskEntry → Target
  | some .directory => .directory
  | some (.file bytes) => .file place bytes
  | none => .vacant place

/-- What a name means: the same on every disk, or what is at the place of its entry. -/
inductive Meaning (here : Option (List String)) (name : String) : Prop where
  | steady (there : Option (List String)) (enter : ∀ d : Disk, d.enter here name = .ok there)
      (look : ∀ d : Disk, d.look here name = .ok .directory ∨ d.look here name = .ok .outside)
  | tooLong (enter : ∀ d : Disk, d.enter here name = .error .tooLong)
      (look : ∀ d : Disk, d.look here name = .error .tooLong)
  | entry (place : List String) (spelled : here.map (· ++ [name]) = some place)
      (enter : ∀ d : Disk, d.enter here name = enterEntry place (d.entries.find? place))
      (look : ∀ d : Disk, d.look here name = .ok (lookEntry place (d.entries.find? place)))

theorem meaning (here : Option (List String)) (name : String) : Meaning here name := by
  cases here with
  | none =>
    refine .steady none (fun _ => rfl) fun d => ?_
    rw [look]
    split
    · exact Or.inl rfl
    · exact Or.inr rfl
  | some place =>
    by_cases hdot : name = "."
    · exact .steady (some place) (fun d => by rw [enter, if_pos hdot])
        fun d => Or.inl (by rw [look, if_pos (Or.inl hdot)])
    by_cases hdots : name = ".."
    · exact .steady _ (fun d => by rw [enter, if_neg hdot, if_pos hdots])
        fun d => Or.inl (by rw [look, if_pos (Or.inr hdots)])
    have hneither : ¬(name = "." ∨ name = "..") := not_or.mpr ⟨hdot, hdots⟩
    by_cases hlong : name.utf8ByteSize > longestName
    · exact .tooLong (fun d => by rw [enter, if_neg hdot, if_neg hdots, if_pos hlong])
        fun d => by rw [look, if_neg hneither]; exact if_pos hlong
    · refine .entry (place ++ [name]) rfl (fun d => ?_) fun d => ?_
      · rw [enter, if_neg hdot, if_neg hdots, if_neg hlong]
        cases d.entries.find? (place ++ [name]) with
        | none => rfl
        | some found => cases found <;> rfl
      · rw [look, if_neg hneither]
        refine (if_neg hlong).trans ?_
        cases d.entries.find? (place ++ [name]) with
        | none => rfl
        | some found => cases found <;> rfl

theorem Grown.enter (hg : Grown d e) (h : d.enter here name = .ok there) :
    e.enter here name = .ok there := by
  cases meaning here name with
  | steady _ henter => rwa [henter] at h ⊢
  | tooLong henter => rw [henter] at h; cases h
  | entry place _ henter =>
    rw [henter] at h ⊢
    rcases hg place with hsame | ⟨hnone, -⟩
    · rwa [hsame]
    · rw [hnone] at h
      cases h

/-- A last name that leads to a directory or outside can be entered. -/
theorem enter_of_look (h : d.look here name = .ok .directory ∨ d.look here name = .ok .outside) :
    ∃ there, d.enter here name = .ok there := by
  cases meaning here name with
  | steady there henter => exact ⟨there, henter d⟩
  | tooLong _ hlook => rw [hlook] at h; rcases h with h | h <;> cases h
  | entry place _ henter hlook =>
    rw [hlook] at h
    rw [henter]
    rcases hfound : d.entries.find? place with _ | _ | _ <;> rw [hfound] at h
    · rcases h with h | h <;> cases h
    · exact ⟨_, rfl⟩
    · rcases h with h | h <;> cases h

/-- A vacant place can be entered once a directory is made there. -/
theorem look_vacant {place : List String} (h : d.look here name = .ok (.vacant place)) :
    d.entries.find? place = none ∧ (d.put place .directory).enter here name = .ok (some place) := by
  cases meaning here name with
  | steady _ _ hlook => rcases hlook d with hl | hl <;> rw [hl] at h <;> cases h
  | tooLong _ hlook => rw [hlook] at h; cases h
  | entry other _ henter hlook =>
    rw [hlook] at h
    rcases hfound : d.entries.find? other with _ | _ | _ <;> rw [hfound] at h <;> cases h
    refine ⟨hfound, ?_⟩
    rw [henter, Disk.put, Mapping.find?_put_self]
    rfl

/-! ## Missing directories -/

/-- Enters a directory, which is made if nothing is there. -/
def enterNew (d : Disk) (here : Option (List String)) (name : String) :
    Except Refusal (Option (List String)) :=
  match d.enter here name with
  | .error .missing => .ok (here.map (· ++ [name]))
  | r => r

theorem enterNew_of_enter (h : d.enter here name = .ok there) : d.enterNew here name = .ok there := by
  rw [enterNew, h]

/-- What is entered when missing directories are made can be entered, or is missing. -/
theorem enter_of_enterNew (h : d.enterNew here name = .ok there) :
    d.enter here name = .ok there ∨ d.enter here name = .error .missing := by
  rw [enterNew] at h
  split at h
  · exact Or.inr ‹_›
  · exact Or.inl h

/-- Disks on which the same names can be entered when missing directories are made. -/
def Kindred (d e : Disk) : Prop := e.enterNew = d.enterNew

theorem Kindred.symm (h : Kindred d e) : Kindred e d := Eq.symm h

theorem Kindred.trans {f : Disk} (h : Kindred d e) (h' : Kindred e f) : Kindred d f := Eq.trans h' h

/-- For entering with missing directories made, a disk that has grown is as before. -/
theorem Grown.kindred (hg : Grown d e) : Kindred d e := by
  funext here name
  rw [enterNew, enterNew]
  cases meaning here name with
  | steady _ henter => rw [henter, henter]
  | tooLong henter => rw [henter, henter]
  | entry place hspelled henter =>
    rw [henter, henter, hspelled]
    rcases hg place with hsame | ⟨hnone, hdir⟩
    · rw [hsame]
    · rw [hnone, hdir]
      rfl

/-- What the last name leads to where it can be entered or made. -/
theorem look_of_enterNew (h : d.enterNew here name = .ok there) :
    d.look here name = .ok .directory ∨ d.look here name = .ok .outside ∨
      ∃ place, d.look here name = .ok (.vacant place) := by
  cases meaning here name with
  | steady _ _ hlook => exact (hlook d).imp_right Or.inl
  | tooLong henter => rw [enterNew, henter] at h; cases h
  | entry place _ henter hlook =>
    rw [enterNew, henter] at h
    rw [hlook]
    rcases hfound : d.entries.find? place with _ | _ | bytes
    · exact Or.inr (Or.inr ⟨place, rfl⟩)
    · exact Or.inl rfl
    · rw [hfound] at h
      cases h

/-! ## The names of a path -/

/-- Where the names of a path lead, all of them directories. -/
def reach (d : Disk) (p : DiskPath) : Except Refusal (Option (List String)) :=
  p.names.foldlM d.enter p.start

/-- Where the names of a path lead when missing directories are made. -/
def reachNew (d : Disk) (p : DiskPath) : Except Refusal (Option (List String)) :=
  p.names.foldlM d.enterNew p.start

/-- A disk that has grown leads where it led before. -/
theorem Grown.reach (hg : Grown d e) (h : d.reach p = .ok there) : e.reach p = .ok there :=
  foldlM_eq_ok_of_step (fun _ _ _ => hg.enter) h

theorem reachNew_of_reach (h : d.reach p = .ok there) : d.reachNew p = .ok there :=
  foldlM_eq_ok_of_step (fun _ _ _ => enterNew_of_enter) h

theorem Kindred.reachNew_eq (h : Kindred d e) : e.reachNew p = d.reachNew p := by
  rw [reachNew, reachNew, show e.enterNew = d.enterNew from h]

/-- Where missing directories can be made, nothing else hinders. -/
theorem reach_of_reachNew (h : d.reachNew p = .ok there) :
    d.reach p = .ok there ∨ d.reach p = .error .missing := by
  rw [reachNew] at h
  rw [reach]
  generalize p.start = here at h ⊢
  generalize p.names = names at h ⊢
  induction names generalizing here with
  | nil => exact Or.inl h
  | cons name names ih =>
    rw [List.foldlM_cons] at h ⊢
    cases hname : d.enterNew here name with
    | error r => rw [hname] at h; cases h
    | ok mid =>
      rw [hname] at h
      rcases enter_of_enterNew hname with henter | henter <;> rw [henter]
      · exact ih mid h
      · exact Or.inr rfl

section Parent

variable {init : List String} (hn : p.names = init ++ [name])

include hn

theorem parent_of_names : p.parent = { p with names := init } := by
  rw [DiskPath.parent, hn, List.dropLast_concat]

theorem reach_concat : d.reach p = d.reach p.parent >>= fun here => d.enter here name := by
  rw [reach, hn, List.foldlM_append, reach, parent_of_names hn]
  refine bind_congr fun here => ?_
  rw [List.foldlM_cons]
  exact bind_pure _

theorem reachNew_concat : d.reachNew p = d.reachNew p.parent >>= fun here => d.enterNew here name := by
  rw [reachNew, hn, List.foldlM_append, reachNew, parent_of_names hn]
  refine bind_congr fun here => ?_
  rw [List.foldlM_cons]
  exact bind_pure _

theorem find_concat (hp : p.Plain) (h : p.barred? = none) :
    d.find p.text = d.reach p.parent >>= fun here => d.look here name := by
  rw [find_text hp h, hn, List.dropLast_concat, List.getLast?_concat, reach, parent_of_names hn]
  rfl

end Parent

/-! ## Making one directory -/

theorem makeDirectory_eq (d : Disk) (path : String) :
    d.makeDirectory path = d.find path >>= fun
      | .directory | .file _ _ => .error .alreadyThere
      | .vacant place => .ok (d.put place .directory)
      | .outside => .ok d := rfl

/-- Makes the last directory of a path, or finds it made. -/
def makeLast (d : Disk) (p : DiskPath) : Except Refusal Unit × Disk :=
  match d.makeDirectory p.text with
  | .ok d' => (.ok (), d')
  | .error .missing => (.error .missing, d)
  | .error r => (if d.isDirectory p then .ok () else .error r, d)

/-- The directories before the last one are made where they are missing. -/
theorem makeDirectories_of_missing (h : d.makeDirectory p.text = .error .missing)
    (hn : p.names ≠ []) : d.makeDirectories p = match d.makeDirectories p.parent with
      | (.error r, d') => (.error r, d')
      | (.ok _, d') => d'.makeLast p := by
  rw [makeDirectories, h]
  dsimp only
  rw [dif_neg hn]
  rcases d.makeDirectories p.parent with ⟨_ | _, d'⟩ <;> rfl

theorem makeDirectories_of_last (h : d.makeDirectory p.text ≠ .error .missing ∨ p.names = []) :
    d.makeDirectories p = d.makeLast p := by
  rw [makeDirectories, makeLast]
  cases hm : d.makeDirectory p.text with
  | ok d' => rfl
  | error r =>
    cases r with
    | missing =>
      have hn : p.names = [] := h.resolve_left fun hne => hne hm
      dsimp only
      rw [dif_pos hn]
    | _ => rfl

theorem grown_makeDirectory {path : String} {d' : Disk} (h : d.makeDirectory path = .ok d') :
    Grown d d' := by
  rw [makeDirectory_eq] at h
  cases hfind : d.find path with
  | error r => rw [hfind] at h; cases h
  | ok target =>
    rw [hfind] at h
    cases target with
    | directory => cases h
    | file => cases h
    | outside => cases h; exact Grown.refl d
    | vacant place =>
      obtain ⟨here, name, hlook⟩ := look_of_find hfind
      cases h
      exact Grown.put (look_vacant hlook).1

theorem grown_makeLast (d : Disk) (p : DiskPath) : Grown d (d.makeLast p).2 := by
  rw [makeLast]
  split
  · exact grown_makeDirectory ‹_›
  · exact Grown.refl d
  · exact Grown.refl d

/-- Making directories takes nothing away and changes no file, also when it fails. -/
theorem grown_makeDirectories (d : Disk) (p : DiskPath) : Grown d (d.makeDirectories p).2 := by
  by_cases hn : p.names = []
  · rw [makeDirectories_of_last (Or.inr hn)]
    exact grown_makeLast d p
  · cases hm : d.makeDirectory p.text with
    | ok d' =>
      rw [makeDirectories_of_last (Or.inl (by simp [hm]))]
      exact grown_makeLast d p
    | error r =>
      by_cases hr : r = .missing
      · rw [makeDirectories_of_missing (hr ▸ hm) hn]
        have ih := grown_makeDirectories d p.parent
        split
        · next d' hparent => rwa [hparent] at ih
        · next d' hparent =>
          rw [hparent] at ih
          exact ih.trans (grown_makeLast d' p)
      · rw [makeDirectories_of_last (Or.inl (by simpa [hm] using hr))]
        exact grown_makeLast d p
termination_by p.names.length
decreasing_by
  have := List.length_pos_iff.2 hn
  simp [DiskPath.parent]; omega

/-! ## When making directories succeeds -/

theorem isDirectory_eq_true_iff : d.isDirectory p = true ↔ d.find p.text = .ok .directory := by
  rw [isDirectory]
  split
  · next h => simp [h]
  · next h => simpa using h

/-- A path that leads to a directory or outside can be entered to its end. -/
theorem reach_of_find (hp : p.Plain) (hbar : p.barred? = none)
    (h : d.find p.text = .ok .directory ∨ d.find p.text = .ok .outside) :
    ∃ there, d.reach p = .ok there := by
  rcases List.eq_nil_or_concat p.names with hn | ⟨init, name, hn⟩
  · exact ⟨p.start, by rw [reach, hn]; rfl⟩
  · rw [List.concat_eq_append] at hn
    rw [find_concat hn hp hbar] at h
    cases hinit : d.reach p.parent with
    | error r => rw [hinit] at h; rcases h with h | h <;> cases h
    | ok here =>
      rw [hinit] at h
      obtain ⟨there, hthere⟩ := enter_of_look h
      exact ⟨there, by rw [reach_concat hn, hinit]; exact hthere⟩

/-- A directory that was made can be entered. -/
theorem reach_of_makeDirectory (hp : p.Plain) (hbar : p.barred? = none) {d' : Disk}
    (h : d.makeDirectory p.text = .ok d') : ∃ there, d'.reach p = .ok there := by
  have hgrown := grown_makeDirectory h
  rw [makeDirectory_eq] at h
  obtain ⟨target, hfind, h⟩ := bind_eq_ok_iff.mp h
  cases target with
  | directory => cases h
  | file => cases h
  | outside => cases h; exact reach_of_find hp hbar (Or.inr hfind)
  | vacant place =>
    cases h
    rcases List.eq_nil_or_concat p.names with hn | ⟨init, name, hn⟩
    · exact ⟨p.start, by rw [reach, hn]; rfl⟩
    · rw [List.concat_eq_append] at hn
      rw [find_concat hn hp hbar] at hfind
      obtain ⟨here, hinit, hlook⟩ := bind_eq_ok_iff.mp hfind
      refine ⟨some place, ?_⟩
      rw [reach_concat hn, hgrown.reach hinit]
      exact (look_vacant hlook).2

theorem reach_of_makeLast (hp : p.Plain) (hbar : p.barred? = none)
    (h : (d.makeLast p).1 = .ok ()) : ∃ there, (d.makeLast p).2.reach p = .ok there := by
  rw [makeLast] at h ⊢
  split at h
  · next hmade => exact reach_of_makeDirectory hp hbar hmade
  · cases h
  · split at h
    · next hdir => exact reach_of_find hp hbar (Or.inl (isDirectory_eq_true_iff.mp hdir))
    · cases h

theorem makeLast_isOk (hp : p.Plain) (hbar : p.barred? = none) (h : d.reachNew p = .ok there)
    (hparent : p.names = [] ∨ ∃ here, d.reach p.parent = .ok here) : (d.makeLast p).1 = .ok () := by
  have hfind : d.find p.text = .ok .directory ∨ d.find p.text = .ok .outside ∨
      ∃ place, d.find p.text = .ok (.vacant place) := by
    rcases List.eq_nil_or_concat p.names with hn | ⟨init, name, hn⟩
    · left
      rw [find_text hp hbar, hn]
      rfl
    · rw [List.concat_eq_append] at hn
      obtain ⟨here, hhere⟩ := hparent.resolve_left (by simp [hn])
      rw [reachNew_concat hn, reachNew_of_reach hhere] at h
      rw [find_concat hn hp hbar, hhere]
      exact look_of_enterNew h
  rw [makeLast, makeDirectory_eq]
  rcases hfind with hfind | hfind | ⟨place, hfind⟩
  · rw [hfind]
    exact if_pos (isDirectory_eq_true_iff.mpr hfind)
  · rw [hfind]
    rfl
  · rw [hfind]
    rfl

/-- A path whose text is refused is refused as a directory, and nothing is made. -/
theorem makeDirectories_of_barred {r : Refusal} (h : p.barred? = some r) :
    d.makeDirectories p = (.error r, d) := by
  have hne : r ≠ .missing := by
    rintro rfl
    rw [DiskPath.barred?] at h
    split at h
    · cases h
    · split at h <;> cases h
  have hmake : d.makeDirectory p.text = .error r := by
    rw [makeDirectory_eq, find_barred h]
    rfl
  have hdir : ¬ d.isDirectory p = true := by
    simp [isDirectory_eq_true_iff, find_barred h]
  rw [makeDirectories_of_last (Or.inl (by simpa [hmake] using hne)), makeLast, hmake]
  split
  · next heq => cases heq
  · next heq => exact absurd (Except.error.inj heq) hne
  · next heq =>
    cases heq
    rw [if_neg hdir]

/-- The path of a directory that could be made can be followed: no text is refused, and every name is
that of a directory. -/
theorem reach_of_makeDirectories (hp : p.Plain) (h : (d.makeDirectories p).1 = .ok ()) :
    p.barred? = none ∧ ∃ there, (d.makeDirectories p).2.reach p = .ok there := by
  cases hbar : p.barred? with
  | some r =>
    rw [makeDirectories_of_barred hbar] at h
    cases h
  | none =>
    refine ⟨rfl, ?_⟩
    by_cases hmissing : d.makeDirectory p.text = .error .missing ∧ p.names ≠ []
    · rw [makeDirectories_of_missing hmissing.1 hmissing.2] at h ⊢
      split at h
      · cases h
      · exact reach_of_makeLast hp hbar h
    · rw [makeDirectories_of_last ((Classical.em (p.names = [])).elim Or.inr
        fun hn => Or.inl fun hm => hmissing ⟨hm, hn⟩)] at h ⊢
      exact reach_of_makeLast hp hbar h

theorem makeDirectories_isOk {p : DiskPath} {there : Option (List String)} (hp : p.Plain)
    (hbar : p.barred? = none) (h : d.reachNew p = .ok there) : (d.makeDirectories p).1 = .ok () := by
  rcases List.eq_nil_or_concat p.names with hn | ⟨init, name, hn⟩
  · rw [makeDirectories_of_last (Or.inr hn)]
    exact makeLast_isOk hp hbar h (Or.inl hn)
  · rw [List.concat_eq_append] at hn
    have hnew := h
    rw [reachNew_concat hn] at hnew
    obtain ⟨here, hinit, hname⟩ := bind_eq_ok_iff.mp hnew
    rcases reach_of_reachNew hinit with hreach | hreach
    · -- the directories before the last one are there
      have hmake : d.makeDirectory p.text ≠ .error .missing := by
        rw [makeDirectory_eq, find_concat hn hp hbar, hreach]
        show (d.look here name >>= _) ≠ _
        rcases look_of_enterNew hname with hlook | hlook | ⟨place, hlook⟩ <;> rw [hlook] <;> exact nofun
      rw [makeDirectories_of_last (Or.inl hmake)]
      exact makeLast_isOk hp hbar h (Or.inr ⟨here, hreach⟩)
    · -- they are made first
      have hmake : d.makeDirectory p.text = .error .missing := by
        rw [makeDirectory_eq, find_concat hn hp hbar, hreach]
        rfl
      have ih := makeDirectories_isOk hp.parent (hp.barred?_parent hbar) hinit
      have hgrown := grown_makeDirectories d p.parent
      obtain ⟨-, hmade⟩ := reach_of_makeDirectories hp.parent ih
      rw [makeDirectories_of_missing hmake (by simp [hn])]
      rcases hparent : d.makeDirectories p.parent with ⟨_ | _, d'⟩
      · rw [hparent] at ih
        cases ih
      · rw [hparent] at hgrown hmade
        exact makeLast_isOk hp hbar (hgrown.kindred.reachNew_eq.trans h) (Or.inr hmade)
termination_by p.names.length
decreasing_by simp [DiskPath.parent, hn]

/-- Directories can be made where the system can follow the path, with what is missing taken for
directories. -/
theorem makeDirectories_isOk_iff (hp : p.Plain) :
    (d.makeDirectories p).1 = .ok () ↔ p.barred? = none ∧ ∃ there, d.reachNew p = .ok there := by
  constructor
  · intro h
    obtain ⟨hbar, there, hreach⟩ := reach_of_makeDirectories hp h
    exact ⟨hbar, there,
      (grown_makeDirectories d p).kindred.reachNew_eq.symm.trans (reachNew_of_reach hreach)⟩
  · rintro ⟨hbar, there, h⟩
    exact makeDirectories_isOk hp hbar h

/-- On kindred disks the same directories can be made. -/
theorem Kindred.makeDirectories_isOk_iff (h : Kindred d e) (hp : p.Plain) :
    (e.makeDirectories p).1 = .ok () ↔ (d.makeDirectories p).1 = .ok () := by
  rw [Disk.makeDirectories_isOk_iff hp, Disk.makeDirectories_isOk_iff hp, h.reachNew_eq]

/-! ## Null characters -/

/-- A text with no null character in it leads to none. -/
theorem find_ne_nullCharacter (hp : p.Plain) (hbar : p.barred? = none) :
    d.find p.text ≠ .error .nullCharacter := by
  rw [find_text hp hbar]
  refine bind_ne_error (foldlM_ne_error fun here name => ?_) fun here => ?_
  · cases meaning here name with
    | steady _ henter => rw [henter]; exact nofun
    | tooLong henter => rw [henter]; exact nofun
    | entry place _ henter =>
      rw [henter]
      rcases d.entries.find? place with _ | _ | _ <;> exact nofun
  · cases meaning here (p.names.getLast?.getD ".") with
    | steady _ _ hlook => rcases hlook d with hl | hl <;> rw [hl] <;> exact nofun
    | tooLong _ hlook => rw [hlook]; exact nofun
    | entry _ _ _ hlook => rw [hlook]; exact nofun

theorem makeDirectory_ne_nullCharacter (hp : p.Plain) (hbar : p.barred? = none) :
    d.makeDirectory p.text ≠ .error .nullCharacter := by
  rw [makeDirectory_eq]
  exact bind_ne_error (find_ne_nullCharacter hp hbar) fun target => by cases target <;> exact nofun

theorem makeLast_ne_nullCharacter (hp : p.Plain) (hbar : p.barred? = none) :
    (d.makeLast p).1 ≠ .error .nullCharacter := by
  rw [makeLast]
  split
  · simp
  · simp
  · next r hr =>
    dsimp only
    split
    · simp
    · intro h
      cases h
      exact makeDirectory_ne_nullCharacter hp hbar hr

theorem makeDirectories_ne_nullCharacter {p : DiskPath} (hp : p.Plain) (hbar : p.barred? = none) :
    (d.makeDirectories p).1 ≠ .error .nullCharacter := by
  by_cases hmissing : d.makeDirectory p.text = .error .missing ∧ p.names ≠ []
  · rw [makeDirectories_of_missing hmissing.1 hmissing.2]
    have ih := makeDirectories_ne_nullCharacter hp.parent (hp.barred?_parent hbar)
    split
    · next hparent => rwa [hparent] at ih
    · exact makeLast_ne_nullCharacter hp hbar
  · rw [makeDirectories_of_last ((Classical.em (p.names = [])).elim Or.inr
      fun hn => Or.inl fun hm => hmissing ⟨hm, hn⟩)]
    exact makeLast_ne_nullCharacter hp hbar
termination_by p.names.length
decreasing_by
  have := List.length_pos_iff.2 hmissing.2
  simp [DiskPath.parent]; omega

/-- Making directories meets a null character exactly if the text of the path has one. -/
theorem makeDirectories_eq_nullCharacter_iff (hp : p.Plain) :
    (d.makeDirectories p).1 = .error .nullCharacter ↔ p.barred? = some .nullCharacter := by
  cases hbar : p.barred? with
  | none => exact iff_of_false (makeDirectories_ne_nullCharacter hp hbar) nofun
  | some r => simp [makeDirectories_of_barred hbar]

end Disk
end MarkupQuery
