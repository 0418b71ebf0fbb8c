import MarkupQuery.Proofs.Steps
import MarkupQuery.Settings.Disk

/-!
# Following the text of a path

A path is followed by its text, which is cut into names again. For a path in its plain form these are
the names that it was made of, so that following the text is following the names
(`Disk.find_text`). What the system refuses for the text alone, it refuses on every disk.
-/

namespace MarkupQuery

/-! ## Cutting at slashes -/

theorem cutAtSlashes_of_notMem {cs : List Char} (h : '/' ∉ cs) : cutAtSlashes cs = [cs] := by
  induction cs with
  | nil => rfl
  | cons c cs ih =>
    obtain ⟨hc, hcs⟩ : '/' ≠ c ∧ '/' ∉ cs := by simpa using h
    rw [cutAtSlashes, if_neg (Ne.symm hc), ih hcs]

theorem cutAtSlashes_append {cs ds : List Char} (h : '/' ∉ cs) :
    cutAtSlashes (cs ++ '/' :: ds) = cs :: cutAtSlashes ds := by
  induction cs with
  | nil => rw [List.nil_append, cutAtSlashes, if_pos rfl]
  | cons c cs ih =>
    obtain ⟨hc, hcs⟩ : '/' ≠ c ∧ '/' ∉ cs := by simpa using h
    rw [List.cons_append, cutAtSlashes, if_neg (Ne.symm hc), ih hcs]

theorem cutAtSlashes_intercalate {names : List (List Char)} (hne : names ≠ [])
    (h : ∀ n ∈ names, '/' ∉ n) : cutAtSlashes (List.intercalate ['/'] names) = names := by
  induction names with
  | nil => exact absurd rfl hne
  | cons n names ih =>
    have hn := h n List.mem_cons_self
    cases names with
    | nil => rw [List.intercalate_singleton, cutAtSlashes_of_notMem hn]
    | cons m names =>
      rw [List.intercalate_cons_cons, List.append_assoc, List.singleton_append,
        cutAtSlashes_append hn, ih (by simp) fun k hk => h k (List.mem_cons_of_mem _ hk)]

theorem notMem_of_mem_cutAtSlashes {cs n : List Char} (h : n ∈ cutAtSlashes cs) : '/' ∉ n := by
  induction cs generalizing n with
  | nil => simp [cutAtSlashes] at h; simp [h]
  | cons c cs ih =>
    rw [cutAtSlashes] at h
    split at h
    · rcases List.mem_cons.mp h with rfl | h
      · simp
      · exact ih h
    · next hc =>
      split at h
      · simp only [List.mem_singleton] at h
        rw [h]
        simpa using Ne.symm hc
      · next first rest hcut =>
        rcases List.mem_cons.mp h with rfl | h
        · have hfirst : '/' ∉ first := ih (by rw [hcut]; exact List.mem_cons_self)
          simpa using ⟨Ne.symm hc, hfirst⟩
        · exact ih (by rw [hcut]; exact List.mem_cons_of_mem _ h)

theorem intercalate_concat {sep n : List Char} {names : List (List Char)} (h : names ≠ []) :
    List.intercalate sep (names ++ [n]) = List.intercalate sep names ++ (sep ++ n) := by
  induction names with
  | nil => exact absurd rfl h
  | cons m names ih =>
    cases names with
    | nil => simp [List.intercalate_cons_cons]
    | cons k names =>
      rw [List.cons_append, List.cons_append, List.intercalate_cons_cons, ← List.cons_append,
        ih (by simp), List.intercalate_cons_cons, List.append_assoc, List.append_assoc,
        List.append_assoc]

namespace DiskPath

/-- A path in its plain form: at most two slashes in front, and names that are not empty and have no
slash in them. -/
structure Plain (p : DiskPath) : Prop where
  root : p.root = "" ∨ p.root = "/" ∨ p.root = "//"
  names : ∀ n ∈ p.names, n ≠ "" ∧ '/' ∉ n.toList

variable {p : DiskPath}

theorem plain_ofText (s : String) : (ofText s).Plain where
  root := by
    unfold ofText
    dsimp only
    split
    · exact Or.inl rfl
    · split
      · exact Or.inr (Or.inr rfl)
      · exact Or.inr (Or.inl rfl)
  names n hn := by
    obtain ⟨cs, hcs, rfl⟩ := List.mem_map.mp hn
    obtain ⟨hcut, hkept⟩ := List.mem_filter.mp hcs
    have hslash := notMem_of_mem_cutAtSlashes hcut
    rw [String.toList_ofList]
    refine ⟨fun hempty => ?_, hslash⟩
    have hnil : cs = [] := by simpa using congrArg String.toList hempty
    simp [hnil] at hkept

theorem Plain.parent (hp : p.Plain) : p.parent.Plain :=
  ⟨hp.root, fun n hn => hp.names n ((List.dropLast_sublist _).subset hn)⟩

/-- Where following a path starts: in the working directory, or outside. -/
def start (p : DiskPath) : Option (List String) := if p.root = "" then some [] else none

/-- Why a path cannot be followed on any disk. -/
def barred? (p : DiskPath) : Option Refusal :=
  if p.text.toList.contains '\x00' then some .nullCharacter
  else if p.text.utf8ByteSize > Disk.longestPath then some .tooLong
  else none

/-! ## The text -/

theorem text_eq_dot (hroot : p.root = "") (hnames : p.names = []) : p.text = "." := by
  simp [text, hroot, hnames]

/-- The names of a path that has any make up more than nothing. -/
theorem Plain.intercalate_ne_nil (hp : p.Plain) (hnames : p.names ≠ []) :
    List.intercalate ['/'] (p.names.map String.toList) ≠ [] := by
  cases hn : p.names with
  | nil => exact absurd hn hnames
  | cons n names =>
    have hne : n.toList ≠ [] := by
      have hfirst := (hp.names n (by rw [hn]; exact List.mem_cons_self)).1
      simpa using hfirst
    cases names with
    | nil => simpa using hne
    | cons m names => simp [List.intercalate_cons_cons, hne]

theorem Plain.toList_text (hp : p.Plain) (h : p.root ≠ "" ∨ p.names ≠ []) :
    p.text.toList = p.root.toList ++ List.intercalate ['/'] (p.names.map String.toList) := by
  have hlist : (p.root ++ String.intercalate "/" p.names).toList
      = p.root.toList ++ List.intercalate ['/'] (p.names.map String.toList) := by
    rw [String.toList_append, String.toList_intercalate]
    rfl
  have hne : (p.root ++ String.intercalate "/" p.names).isEmpty = false := by
    rw [← Bool.not_eq_true, String.isEmpty_iff, ← String.toList_eq_nil_iff, hlist]
    rcases h with hroot | hnames
    · simp [hroot]
    · simp [hp.intercalate_ne_nil hnames]
  rw [text, hne]
  exact hlist

/-- What the text of a path is cut into: the names, or a dot where there are none. -/
theorem Plain.cut_text (hp : p.Plain) :
    ((cutAtSlashes p.text.toList).filter (!·.isEmpty)).map String.ofList
      = if p.root = "" ∧ p.names = [] then ["."] else p.names := by
  have hnames : (p.names.map String.toList).filter (!·.isEmpty) = p.names.map String.toList := by
    rw [List.filter_eq_self]
    intro cs hcs
    obtain ⟨n, hn, rfl⟩ := List.mem_map.mp hcs
    simpa using (hp.names n hn).1
  have hback : (p.names.map String.toList).map String.ofList = p.names := by simp
  split
  · next h => rw [text_eq_dot h.1 h.2]; rfl
  · next h =>
    have hsome : p.root ≠ "" ∨ p.names ≠ [] := by
      by_cases hroot : p.root = ""
      · exact Or.inr fun hn => h ⟨hroot, hn⟩
      · exact Or.inl hroot
    have hcut : ∀ cs, cs = List.intercalate ['/'] (p.names.map String.toList) →
        ((cutAtSlashes cs).filter (!·.isEmpty)).map String.ofList = p.names := by
      rintro cs rfl
      by_cases hn : p.names = []
      · rw [hn]
        rfl
      · rw [cutAtSlashes_intercalate (by simpa using hn), hnames, hback]
        intro cs hcs
        obtain ⟨n, hn, rfl⟩ := List.mem_map.mp hcs
        exact (hp.names n hn).2
    -- each slash in front cuts off an empty name
    have hslash : ∀ cs, (cutAtSlashes ('/' :: cs)).filter (!·.isEmpty)
        = (cutAtSlashes cs).filter (!·.isEmpty) := fun cs => rfl
    rw [hp.toList_text hsome]
    rcases hp.root with hroot | hroot | hroot <;> rw [hroot]
    · exact hcut _ rfl
    · exact (congrArg (List.map String.ofList) (hslash _)).trans (hcut _ rfl)
    · refine (congrArg (List.map String.ofList) ?_).trans (hcut _ rfl)
      exact (hslash _).trans (hslash _)

/-- What the text of a path without slashes in front begins with is not a slash. -/
theorem Plain.not_slash_prefix (hp : p.Plain) (hnames : p.names ≠ []) :
    ¬ ['/'] <+: List.intercalate ['/'] (p.names.map String.toList) := by
  cases hn : p.names with
  | nil => exact absurd hn hnames
  | cons n names =>
    obtain ⟨hempty, hslash⟩ := hp.names n (by rw [hn]; exact List.mem_cons_self)
    cases hcs : n.toList with
    | nil => exact absurd (String.toList_eq_nil_iff.mp hcs) hempty
    | cons c cs =>
      have hc : '/' ≠ c := by
        rintro rfl
        exact hslash (by rw [hcs]; exact List.mem_cons_self)
      cases names <;> simp [List.intercalate_cons_cons, hcs, hc]

theorem Plain.startsWith_text (hp : p.Plain) : p.text.startsWith "/" = true ↔ p.root ≠ "" := by
  rw [String.startsWith_string_iff]
  by_cases hroot : p.root = ""
  · simp only [hroot, ne_eq, not_true_eq_false, iff_false]
    by_cases hn : p.names = []
    · rw [text_eq_dot hroot hn]
      decide
    · rw [hp.toList_text (Or.inr hn), hroot]
      exact hp.not_slash_prefix hn
  · simp only [hroot, ne_eq, not_false_eq_true, iff_true]
    rw [hp.toList_text (Or.inl hroot)]
    rcases hp.root with h | h | h
    · exact absurd h hroot
    · rw [h]
      exact List.prefix_append _ _
    · rw [h]
      exact ⟨'/' :: List.intercalate ['/'] (p.names.map String.toList), rfl⟩

/-- The text of a directory is the beginning of the text of what is in it. -/
theorem Plain.text_parent (hp : p.Plain) (h : p.root ≠ "" ∨ p.names.dropLast ≠ []) :
    ∃ t, p.text = p.parent.text ++ t := by
  have hsome : p.root ≠ "" ∨ p.names ≠ [] :=
    h.imp_right fun hd hn => hd (by rw [hn]; rfl)
  suffices hlist : ∃ t : List Char, p.text.toList = p.parent.text.toList ++ t by
    obtain ⟨t, ht⟩ := hlist
    exact ⟨String.ofList t,
      String.toList_injective (by rw [ht, String.toList_append, String.toList_ofList])⟩
  rw [hp.toList_text hsome, hp.parent.toList_text h]
  rcases List.eq_nil_or_concat p.names with hn | ⟨init, n, hn⟩
  · exact ⟨[], by simp [DiskPath.parent, hn]⟩
  · have hdrop : p.names.dropLast = init := by simp [hn]
    by_cases hinit : init = []
    · exact ⟨n.toList, by simp [DiskPath.parent, hn, hinit]⟩
    · refine ⟨'/' :: n.toList, ?_⟩
      rw [DiskPath.parent, hdrop, hn, List.concat_eq_append, List.map_append, List.map_singleton,
        intercalate_concat (by simpa using hinit), List.append_assoc]
      rfl

/-- A path that can be followed has a parent that can be followed. -/
theorem Plain.barred?_parent (hp : p.Plain) (h : p.barred? = none) : p.parent.barred? = none := by
  by_cases hsome : p.root ≠ "" ∨ p.names.dropLast ≠ []
  · obtain ⟨t, ht⟩ := hp.text_parent hsome
    rw [barred?, ht, String.toList_append, String.utf8ByteSize_append] at h
    rw [barred?]
    split at h
    · cases h
    · next hnull =>
      split at h
      · cases h
      · next hlong =>
        rw [if_neg (by simp_all), if_neg (by omega)]
  · have hroot : p.parent.root = "" := Decidable.not_not.mp fun hr => hsome (Or.inl hr)
    have hnames : p.parent.names = [] := Decidable.not_not.mp fun hn => hsome (Or.inr hn)
    rw [barred?, text_eq_dot hroot hnames]
    rfl

theorem text_ne_empty (p : DiskPath) : p.text.isEmpty = false := by
  rw [text]
  split
  · rfl
  · next h => simpa using h

end DiskPath

namespace Disk

variable {d : Disk} {p : DiskPath}

/-- The names that are followed for a text. -/
def namesIn (path : String) : List String :=
  ((cutAtSlashes path.toList).filter (!·.isEmpty)).map String.ofList

theorem find_eq (d : Disk) (path : String) :
    d.find path = if path.toList.contains '\x00' then .error .nullCharacter
      else if path.isEmpty then .error .missing
      else if path.utf8ByteSize > longestPath then .error .tooLong
      else (namesIn path).dropLast.foldlM d.enter (if path.startsWith "/" then none else some []) >>=
        fun here => d.look here ((namesIn path).getLast?.getD ".") := by
  rw [find]
  split
  · rfl
  · split
    · rfl
    · split <;> rfl

/-- What a text leads to is what some last name leads to. -/
theorem look_of_find {path : String} {target : Target} (h : d.find path = .ok target) :
    ∃ here name, d.look here name = .ok target := by
  rw [find_eq] at h
  split at h
  · cases h
  · split at h
    · cases h
    · split at h
      · cases h
      · obtain ⟨here, -, h⟩ := bind_eq_ok_iff.mp h
        exact ⟨here, _, h⟩

/-- What is refused for the text of a path alone is refused on every disk. -/
theorem find_barred {r : Refusal} (h : p.barred? = some r) : d.find p.text = .error r := by
  rw [DiskPath.barred?] at h
  rw [find_eq]
  split at h
  · next hnull => rw [if_pos hnull, ← Option.some.inj h]
  · next hnull =>
    split at h
    · next hlong =>
      rw [if_neg hnull, DiskPath.text_ne_empty, if_neg Bool.false_ne_true, if_pos hlong,
        ← Option.some.inj h]
    · cases h

/-- Following the text of a path is following the names that it is made of. -/
theorem find_text (hp : p.Plain) (h : p.barred? = none) :
    d.find p.text = p.names.dropLast.foldlM d.enter p.start >>= fun here =>
      d.look here (p.names.getLast?.getD ".") := by
  obtain ⟨hnull, hlong⟩ : ¬ p.text.toList.contains '\x00' = true ∧
      ¬ p.text.utf8ByteSize > longestPath := by
    rw [DiskPath.barred?] at h
    split at h
    · cases h
    · split at h
      · cases h
      · exact ⟨‹_›, ‹_›⟩
  have hstart : (if p.text.startsWith "/" then none else some []) = p.start := by
    rw [DiskPath.start]
    by_cases hroot : p.root = ""
    · rw [if_pos hroot, if_neg fun hs => hp.startsWith_text.mp hs hroot]
    · rw [if_neg hroot, if_pos (hp.startsWith_text.mpr hroot)]
  rw [find_eq, if_neg hnull, DiskPath.text_ne_empty, if_neg Bool.false_ne_true, if_neg hlong, namesIn,
    hp.cut_text, hstart]
  split
  · next hnone =>
    rw [hnone.2]
    rfl
  · rfl

end Disk
end MarkupQuery
