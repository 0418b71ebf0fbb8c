import MarkupQuery.Mapping

/-!
# Mappings spelled by pairs

Setting pairs one after the other gives the mapping in which every key stands where it was mentioned
first and has the value that it was given last (`Mapping.spells_ofPairs`). Nothing is asked of the
equality of keys: a key counts as repeated when it equals the one that was mentioned first. Where keys
are equal only to themselves, none stands twice (`Mapping.Spells.nodup_keys`), and a look-up sees the
last value (`Mapping.find?_ofPairs`).
-/

namespace MarkupQuery
namespace Mapping

variable {κ ν : Type} [BEq κ]

/-- A list of pairs spells a mapping: the first pair has the first place, with the last of the values
under its key, and the pairs under other keys spell the rest. -/
inductive Spells : List (κ × ν) → Mapping κ ν → Prop
  | nil : Spells [] []
  | cons {k : κ} {v : ν} {rest : List (κ × ν)} {m : Mapping κ ν}
      (h : Spells (rest.filter fun p => !(k == p.1)) m) :
      Spells ((k, v) :: rest) ((k, ((rest.filter fun p => k == p.1).map Prod.snd).getLastD v) :: m)

/-- Setting pairs changes the value of the first key and leaves its place. -/
theorem putAll_cons (k : κ) (v : ν) (m : Mapping κ ν) (pairs : List (κ × ν)) :
    putAll ((k, v) :: m) pairs =
      (k, ((pairs.filter fun p => k == p.1).map Prod.snd).getLastD v) ::
        putAll m (pairs.filter fun p => !(k == p.1)) := by
  induction pairs generalizing v m with
  | nil => rfl
  | cons p pairs ih =>
    obtain ⟨j, w⟩ := p
    show putAll (put ((k, v) :: m) j w) pairs = _
    rw [put]
    cases hkj : k == j with
    | true =>
      -- the value of the first key is overwritten, so the earlier one is forgotten
      rw [if_pos rfl, ih, List.filter_cons_of_pos (by simpa using hkj),
        List.filter_cons_of_neg (by simp [hkj]), List.map_cons, List.getLastD_cons]
    | false =>
      rw [if_neg (by simp), ih, List.filter_cons_of_neg (by simp [hkj]),
        List.filter_cons_of_pos (by simp [hkj])]
      rfl

/-- A mapping made from pairs is the one that they spell. -/
theorem spells_ofPairs : ∀ pairs : List (κ × ν), Spells pairs (ofPairs pairs)
  | [] => .nil
  | (k, v) :: rest => by
    show Spells ((k, v) :: rest) (putAll [(k, v)] rest)
    rw [putAll_cons]
    exact .cons (spells_ofPairs (rest.filter fun p => !(k == p.1)))
termination_by pairs => pairs.length
decreasing_by exact Nat.lt_succ_of_le (List.length_filter_le _ _)

example : Spells [("a", 1), ("b", 2), ("a", 3)] [("a", 3), ("b", 2)] :=
  spells_ofPairs [("a", 1), ("b", 2), ("a", 3)]

/-! ## Parts of a mapping -/

theorem find?_append (m n : Mapping κ ν) (k : κ) :
    find? (m ++ n) k = (m.find? k).or (n.find? k) := by
  induction m with
  | nil => rfl
  | cons p m ih =>
    rw [List.cons_append, find?, find?, ih]
    split <;> rfl

/-- A new key is set behind all others. -/
theorem put_of_find?_eq_none {m : Mapping κ ν} {k : κ} (h : m.find? k = none) (v : ν) :
    m.put k v = m ++ [(k, v)] := by
  induction m with
  | nil => rfl
  | cons p m ih =>
    rw [find?] at h
    split at h
    · cases h
    · next hk => rw [put, if_neg hk, ih h, List.cons_append]

/-! ## Keys that are equal only to themselves -/

variable [LawfulBEq κ]

/-- The keys stand in the order in which they were mentioned first. -/
theorem Spells.keys {pairs : List (κ × ν)} {m : Mapping κ ν} (h : Spells pairs m) :
    m.map Prod.fst = (pairs.map Prod.fst).eraseDups := by
  induction h with
  | nil => rfl
  | @cons k v rest m _ ih =>
    have hothers : (rest.map Prod.fst).filter (fun j => !(j == k))
        = (rest.filter fun p => !(k == p.1)).map Prod.fst := by
      rw [List.filter_map]
      refine congrArg (List.map Prod.fst) (List.filter_congr fun p _ => ?_)
      show (!(p.1 == k)) = !(k == p.1)
      rw [BEq.comm]
    rw [List.map_cons, ih, List.map_cons, List.eraseDups_cons, hothers]

/-- No key stands twice. -/
theorem Spells.nodup_keys {pairs : List (κ × ν)} {m : Mapping κ ν} (h : Spells pairs m) :
    (m.map Prod.fst).Nodup := by
  induction h with
  | nil => exact List.nodup_nil
  | @cons k v rest m hrest ih =>
    rw [List.map_cons, List.nodup_cons]
    refine ⟨?_, ih⟩
    rw [hrest.keys, List.mem_eraseDups, List.mem_map]
    rintro ⟨p, hp, rfl⟩
    simp [List.mem_filter] at hp

/-- Under a key stands the value that it was given last. -/
theorem find?_putAll (m : Mapping κ ν) (pairs : List (κ × ν)) (k : κ) :
    (putAll m pairs).find? k
      = (((pairs.filter fun p => p.1 == k).getLast?).map Prod.snd).or (m.find? k) := by
  induction pairs generalizing m with
  | nil => rfl
  | cons p pairs ih =>
    show (putAll (m.put p.1 p.2) pairs).find? k = _
    rw [ih]
    by_cases hk : p.1 = k
    · rw [hk, find?_put_self, List.filter_cons_of_pos (by simpa using hk), List.getLast?_cons]
      cases (pairs.filter fun q => q.1 == k).getLast? <;> rfl
    · rw [find?_put_of_ne _ _ hk, List.filter_cons_of_neg (by simpa using hk)]

theorem find?_ofPairs (pairs : List (κ × ν)) (k : κ) :
    (ofPairs pairs).find? k = ((pairs.filter fun p => p.1 == k).getLast?).map Prod.snd := by
  rw [ofPairs, find?_putAll, find?, Option.or_none]

/-- Leaving pairs out that are told by their keys leaves the values of the other keys. -/
theorem find?_filter (m : Mapping κ ν) (keep : κ → Bool) (k : κ) :
    find? (m.filter fun p => keep p.1) k = if keep k then m.find? k else none := by
  induction m with
  | nil => simp [find?]
  | cons p m ih =>
    by_cases hk : p.1 = k
    · subst hk
      by_cases hkeep : keep p.1 <;> simp [find?, hkeep, ih]
    · by_cases hkeep : keep p.1 <;> simp [find?, hkeep, hk, ih]

theorem find?_eq_none_of_forall_ne {m : Mapping κ ν} {k : κ} (h : ∀ p ∈ m, p.1 ≠ k) :
    m.find? k = none := by
  induction m with
  | nil => rfl
  | cons p m ih =>
    obtain ⟨hp, hm⟩ := List.forall_mem_cons.mp h
    rw [find?, if_neg (by simpa using hp), ih hm]

/-- What is set and then taken out leaves no trace. -/
theorem remove_put (m : Mapping κ ν) (k : κ) (v : ν) : (m.put k v).remove k = m.remove k := by
  induction m with
  | nil => simp [put, remove]
  | cons p m ih =>
    rw [put]
    split
    · next hk => simp [remove, hk]
    · next hk =>
      rw [remove, remove, List.filter_cons_of_pos (by simpa using hk),
        List.filter_cons_of_pos (by simpa using hk)]
      exact congrArg _ ih

/-- Where no key stands twice, there is at most one pair under a key. -/
theorem filter_key_eq {m : Mapping κ ν} (hm : (m.map Prod.fst).Nodup) (k : κ) :
    (m.filter fun p => p.1 == k) = [] ∨ ∃ v, (m.filter fun p => p.1 == k) = [(k, v)] := by
  have hkeys : ∀ p ∈ m.filter fun p => p.1 == k, p.1 = k := fun p hp => by
    simpa using (List.mem_filter.mp hp).2
  have hnodup := (List.filter_sublist (p := fun p : κ × ν => p.1 == k)).map Prod.fst |>.nodup hm
  generalize (m.filter fun p => p.1 == k) = found at hkeys hnodup ⊢
  rcases found with _ | ⟨p, _ | ⟨q, rest⟩⟩
  · exact Or.inl rfl
  · obtain rfl := hkeys p List.mem_cons_self
    exact Or.inr ⟨p.2, rfl⟩
  · have hp := hkeys p List.mem_cons_self
    have hq := hkeys q (List.mem_cons_of_mem _ List.mem_cons_self)
    simp [hp, hq] at hnodup

/-- Setting a key for a while and then putting back what was there gives the same mapping, but for the
place of the key. -/
theorem restored_perm {m : Mapping κ ν} (hm : (m.map Prod.fst).Nodup) (k : κ) (v : ν) :
    (((m.put k v).remove k).putAll (m.filter fun p => p.1 == k)).Perm m := by
  have hothers : (m.remove k).find? k = none := by
    refine find?_eq_none_of_forall_ne fun p hp => ?_
    simpa using (List.mem_filter.mp hp).2
  rw [remove_put]
  have hback : (m.remove k).putAll (m.filter fun p => p.1 == k)
      = m.remove k ++ m.filter fun p => p.1 == k := by
    rcases filter_key_eq hm k with h | ⟨w, h⟩
    · rw [h, List.append_nil]
      rfl
    · rw [h]
      exact put_of_find?_eq_none hothers w
  rw [hback]
  exact List.perm_append_comm.trans (List.filter_append_perm _ m)

end Mapping
end MarkupQuery
