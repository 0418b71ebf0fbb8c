import MarkupQuery.Proofs.Settings.Directories
import MarkupQuery.Settings.Standard

/-!
# How a consultation ends

Whatever a package asks, the disk only grows meanwhile (`Consultation.grown_runOn`). If it lets every
failure of the library's checks pass that is no complaint, a consultation comes to the same on kindred
disks, or else to failures that the defaults make up for on both (`Consultation.runOn_alike`). The reason
is that a directory can be made on both disks or on neither.

The standard packages let such failures pass (`Packages.standard_lawful`).
-/

namespace MarkupQuery

variable {α β : Type}

namespace SettingsFailure

/-- What the defaults make up for is not reported as a fault of the data. -/
theorem not_isComplaint_of_isRecoverable {f : SettingsFailure} (h : f.isRecoverable = true) :
    f.isComplaint = false := by
  cases f with
  | refused e => cases e <;> first | rfl | cases h
  | _ => first | rfl | cases h

/-- Two outcomes that lead to the same settings: the same one, or failures that the defaults make up
for. -/
inductive Alike : Except SettingsFailure α → Except SettingsFailure α → Prop where
  | same (r : Except SettingsFailure α) : Alike r r
  | recoverable {f g : SettingsFailure} (left : f.isRecoverable = true)
      (right : g.isRecoverable = true) : Alike (.error f) (.error g)

theorem Alike.eq_ok {r r' : Except SettingsFailure α} {a : α} (h : Alike r r') (hr : r = .ok a) :
    r' = .ok a := by
  cases h with
  | same => exact hr
  | recoverable => cases hr

end SettingsFailure

open SettingsFailure (Alike)

/-! ## The library's checks -/

namespace Disk

variable {d e : Disk} {p : DiskPath}

theorem makeDirectories_refused {r : Refusal} (h : (d.makeDirectories p).1 = .error r)
    (hnull : (d.makeDirectories p).1 ≠ .error .nullCharacter) :
    (SettingsFailure.refused r).isRecoverable = true := by
  rw [h] at hnull
  simpa [SettingsFailure.isRecoverable] using hnull

/-- On kindred disks making directories comes to the same, or is refused by the system on both. -/
theorem Kindred.makeDirectories_alike (h : Kindred d e) (hp : p.Plain) :
    Alike ((d.makeDirectories p).1.mapError .refused) ((e.makeDirectories p).1.mapError .refused) := by
  cases hd : (d.makeDirectories p).1 with
  | ok =>
    rw [(h.makeDirectories_isOk_iff hp).mpr hd]
    exact .same _
  | error r =>
    by_cases hnull : p.barred? = some .nullCharacter
    · rw [(makeDirectories_eq_nullCharacter_iff hp).mpr hnull] at hd
      rw [(makeDirectories_eq_nullCharacter_iff hp).mpr hnull, ← hd]
      exact .same _
    · cases he : (e.makeDirectories p).1 with
      | ok =>
        rw [(h.makeDirectories_isOk_iff hp).mp he] at hd
        cases hd
      | error r' =>
        exact .recoverable
          (makeDirectories_refused hd fun hn => hnull ((makeDirectories_eq_nullCharacter_iff hp).mp hn))
          (makeDirectories_refused he fun hn => hnull ((makeDirectories_eq_nullCharacter_iff hp).mp hn))

end Disk

namespace Settings

variable {d e : Disk} {given kept : Datum} {path : DiskPath}

theorem plain_of_readLogFile (h : readLogFile given = .ok (some path, kept)) : path.Plain := by
  cases given with
  | text s =>
    cases h
    exact (DiskPath.plain_ofText s).parent
  | brokenText points =>
    rw [readLogFile] at h
    split at h
    · cases h
      exact DiskPath.plain_ofText _
    · cases h
  | _ => cases h

theorem checkLogFile_of_path (h : readLogFile given = .ok (some path, kept)) (d : Disk) :
    checkLogFile given d = (((d.makeDirectories path).1.mapError .refused).map fun _ => kept,
      (d.makeDirectories path).2) := by
  rw [checkLogFile, h]
  dsimp only
  rcases d.makeDirectories path with ⟨_ | _, _⟩ <;> rfl

theorem grown_checkLogFile (given : Datum) (d : Disk) : d.Grown (checkLogFile given d).2 := by
  cases hread : readLogFile given with
  | error f =>
    rw [checkLogFile, hread]
    exact .refl d
  | ok needed =>
    obtain ⟨_ | path, kept⟩ := needed
    · rw [checkLogFile, hread]
      exact .refl d
    · rw [checkLogFile_of_path hread]
      exact Disk.grown_makeDirectories d path

theorem checkLogFile_alike (given : Datum) (h : d.Kindred e) :
    Alike (checkLogFile given d).1 (checkLogFile given e).1 := by
  cases hread : readLogFile given with
  | error f =>
    rw [checkLogFile, checkLogFile, hread]
    exact .same _
  | ok needed =>
    obtain ⟨_ | path, kept⟩ := needed
    · rw [checkLogFile, checkLogFile, hread]
      exact .same _
    · rw [checkLogFile_of_path hread, checkLogFile_of_path hread]
      generalize hr : (d.makeDirectories path).1.mapError SettingsFailure.refused = r
      generalize hr' : (e.makeDirectories path).1.mapError SettingsFailure.refused = r'
      have halike := h.makeDirectories_alike (plain_of_readLogFile hread)
      rw [hr, hr'] at halike
      cases halike with
      | same => exact .same _
      | recoverable left right => exact .recoverable left right

end Settings

/-! ## Consultations -/

namespace Consultation

variable {c : Consultation α} {k : α → Consultation β} {d e : Disk}

/-- A failure of the library's checks that is no complaint ends the consultation as it is. -/
def Propagates : Consultation α → Prop
  | done _ => True
  | fail _ => True
  | level _ next => (∀ f, f.isComplaint = false → next (.error f) = fail f) ∧
    ∀ answer, (next answer).Propagates
  | logFile _ next => (∀ f, f.isComplaint = false → next (.error f) = fail f) ∧
    ∀ answer, (next answer).Propagates

/-- A consultation takes nothing away from the disk and changes no file. -/
theorem grown_runOn (c : Consultation α) (d : Disk) : d.Grown (c.runOn d).2 := by
  induction c generalizing d with
  | done => exact .refl d
  | fail => exact .refl d
  | level given next ih => exact ih (Settings.readLevel given) d
  | logFile given next ih => exact (Settings.grown_checkLogFile given d).trans (ih _ _)

/-- On kindred disks a consultation comes to the same, or to failures that the defaults make up for. -/
theorem runOn_alike (hc : c.Propagates) (h : d.Kindred e) : Alike (c.runOn d).1 (c.runOn e).1 := by
  induction c generalizing d e with
  | done => exact .same _
  | fail => exact .same _
  | level given next ih => exact ih _ (hc.2 _) h
  | logFile given next ih =>
    show Alike ((next (Settings.checkLogFile given d).1).runOn (Settings.checkLogFile given d).2).1
      ((next (Settings.checkLogFile given e).1).runOn (Settings.checkLogFile given e).2).1
    have hd := (Settings.grown_checkLogFile given d).kindred
    have he := (Settings.grown_checkLogFile given e).kindred
    generalize hanswer : (Settings.checkLogFile given d).1 = answer
    generalize hanswer' : (Settings.checkLogFile given e).1 = answer'
    have halike := Settings.checkLogFile_alike given h
    rw [hanswer, hanswer'] at halike
    cases halike with
    | same => exact ih answer (hc.2 answer) ((hd.symm.trans h).trans he)
    | recoverable left right =>
      -- the system refuses the directory, and the package lets that pass
      rw [hc.1 _ (SettingsFailure.not_isComplaint_of_isRecoverable left),
        hc.1 _ (SettingsFailure.not_isComplaint_of_isRecoverable right)]
      exact .recoverable left right

theorem Propagates.bind (hc : c.Propagates) (hk : ∀ a, (k a).Propagates) : (c >>= k).Propagates := by
  show (c.bind k).Propagates
  induction c with
  | done a => exact hk a
  | fail => exact trivial
  | level given next ih =>
    exact ⟨fun f hf => congrArg (·.bind k) (hc.1 f hf), fun answer => ih answer (hc.2 answer)⟩
  | logFile given next ih =>
    exact ⟨fun f hf => congrArg (·.bind k) (hc.1 f hf), fun answer => ih answer (hc.2 answer)⟩

end Consultation

/-! ## The standard packages -/

/-- What is asked of the packages: a failure of the library's checks that is no complaint passes through
them unchanged. -/
structure Packages.Lawful (packages : Packages) : Prop where
  construct : ∀ environment given, (packages.construct environment given).Propagates
  validate : ∀ environment d, (packages.validate environment d).Propagates

namespace Settings

theorem objection_of_not_isComplaint (place : List String) {f : SettingsFailure}
    (h : f.isComplaint = false) :
    objection place (.error f : Except SettingsFailure α) = .fail f := by
  rw [objection, h]
  rfl

theorem propagates_objection (place : List String) (answer : Except SettingsFailure α) :
    (objection place answer).Propagates := by
  cases answer with
  | ok => exact trivial
  | error f =>
    rw [objection]
    split <;> exact trivial

theorem propagates_checkLevel (place : List String) (d? : Option Datum) :
    (checkLevel place d?).Propagates := by
  cases d? with
  | none => exact trivial
  | some d =>
    rw [checkLevel]
    split
    · exact ⟨fun _ => objection_of_not_isComplaint place, propagates_objection place⟩
    · exact trivial

theorem propagates_checkLogPath (place : List String) (d? : Option Datum) :
    (checkLogPath place d?).Propagates := by
  cases d? with
  | none => exact trivial
  | some d =>
    have hasked : (Consultation.logFile d (objection place)).Propagates :=
      ⟨fun _ => objection_of_not_isComplaint place, propagates_objection place⟩
    exact hasked.bind fun _ => trivial

theorem propagates_checkLog (place : List String) (d? : Option Datum) :
    (checkLog place d?).Propagates := by
  rw [checkLog]
  split
  · exact trivial
  · exact (propagates_checkLevel _ _).bind fun _ => (propagates_checkLogPath _ _).bind fun _ => trivial

theorem propagates_check (fields : Datum.Fields) : (check fields).Propagates :=
  (propagates_checkLog _ _).bind fun _ => trivial

end Settings

namespace Packages

theorem propagates_accept (v : Verdict α) : (accept v).Propagates := by
  cases v <;> exact trivial

theorem propagates_ofFields (onMalformed : PackageError → SettingsFailure) (environment : Environment)
    (given : Datum.Fields) : (ofFields onMalformed environment given).Propagates := by
  rw [ofFields]
  split
  · exact trivial
  · split
    · exact trivial
    · exact (Settings.propagates_check _).bind propagates_accept

theorem standard_lawful : standard.Lawful where
  construct := propagates_ofFields .foreign
  validate environment d := by
    cases d with
    | record given => exact propagates_ofFields _ environment given
    | _ => exact trivial

end Packages
end MarkupQuery
