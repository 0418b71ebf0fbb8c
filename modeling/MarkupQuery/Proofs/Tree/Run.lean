import MarkupQuery.Proofs.Tree.Walk

/-!
# Runs of moves and edits

A run starts at the root location of a tree and takes any steps in any order. A move that leads
nowhere ends it. What holds at the start and is kept by every step holds at every location that a
run reaches, first of all the invariant `Location.Sound`.
-/

namespace MarkupQuery

/-- A move or an edit. -/
inductive Step where
  | down
  | right
  | left
  | up
  | next
  | replace (n : Node)
  | edit (f : Node → Node)

/-- A step that is no edit. -/
def Step.IsMove : Step → Prop
  | .replace _ => False
  | .edit _ => False
  | _ => True

namespace Location

/-- Where a step leads, if anywhere. -/
def step? (l : Location) : Step → Option Location
  | .down => l.down?
  | .right => l.right?
  | .left => l.left?
  | .up => l.up?
  | .next => some l.next
  | .replace n => some (l.replace n)
  | .edit f => some (l.edit f)

/-- Takes steps in turn. -/
def run? (l : Location) (steps : List Step) : Option Location := steps.foldlM step? l

theorem run?_cons (l : Location) (s : Step) (steps : List Step) :
    l.run? (s :: steps) = (l.step? s).bind (·.run? steps) := rfl

theorem run?_append (l : Location) (before after : List Step) :
    l.run? (before ++ after) = (l.run? before).bind (·.run? after) := List.foldlM_append

theorem Sound.step {l m : Location} (hl : l.Sound) {s : Step} (h : l.step? s = some m) :
    m.Sound := by
  cases s with
  | down => exact (hl.down h).1
  | right => obtain ⟨-, -, -, hm, -⟩ := hl.right h; exact hm
  | left => obtain ⟨-, -, -, -, -, hm, -⟩ := hl.left h; exact hm
  | up => obtain ⟨-, -, hm, -⟩ := hl.up h; exact hm
  | next => obtain rfl := Option.some.inj h; exact hl.next.1
  | replace n => obtain rfl := Option.some.inj h; exact (hl.replace n).1
  | edit f => obtain rfl := Option.some.inj h; exact (hl.replace _).1

theorem Sound.whole_of_move {l m : Location} (hl : l.Sound) {s : Step} (hs : s.IsMove)
    (h : l.step? s = some m) : m.whole = l.whole := by
  cases s with
  | down => exact (hl.down h).2.1
  | right => obtain ⟨-, -, -, -, hw, -⟩ := hl.right h; exact hw
  | left => obtain ⟨-, -, -, -, -, -, hw, -⟩ := hl.left h; exact hw
  | up => obtain ⟨-, -, -, hw, -⟩ := hl.up h; exact hw
  | next => obtain rfl := Option.some.inj h; exact hl.next.2.1
  | replace n => exact hs.elim
  | edit f => exact hs.elim

/-- Moves alone stay in the tree. -/
theorem Sound.whole_of_moves {l m : Location} (hl : l.Sound) {steps : List Step}
    (hmoves : ∀ s ∈ steps, s.IsMove) (h : l.run? steps = some m) : m.whole = l.whole := by
  induction steps generalizing l with
  | nil => rw [Option.some.inj h]
  | cons s steps ih =>
    rw [run?_cons, Option.bind_eq_some_iff] at h
    obtain ⟨k, hk, h⟩ := h
    rw [ih (hl.step hk) (fun u hu => hmoves u (List.mem_cons_of_mem _ hu)) h]
    exact hl.whole_of_move (hmoves s List.mem_cons_self) hk

/-- What every step keeps, every run keeps. -/
theorem run_induction {P : Location → Prop} (hstep : ∀ l s m, P l → l.step? s = some m → P m)
    {l m : Location} {steps : List Step} (hl : P l) (h : l.run? steps = some m) : P m := by
  induction steps generalizing l with
  | nil => exact Option.some.inj h ▸ hl
  | cons s steps ih =>
    rw [run?_cons, Option.bind_eq_some_iff] at h
    obtain ⟨k, hk, h⟩ := h
    exact ih (hstep l s k hl hk) h

theorem sound_of_run {t : Node} {steps : List Step} {l : Location}
    (h : (ofRoot t).run? steps = some l) : l.Sound :=
  run_induction (fun _ _ _ hl hs => hl.step hs) (sound_ofRoot t) h

end Location
end MarkupQuery
