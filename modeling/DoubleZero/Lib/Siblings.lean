import Mathlib.Tactic

/-!
# Sibling instructions

Instructions run inside each other: each is invoked by the innermost instruction still running, its
parent, and all with one parent are siblings. `Frames` keeps, for every instruction still running,
the sibling that completed last among those it invoked. Completed instructions are numbered, and
`Used` is the discipline of a program that looks at its last sibling and completes: no instruction
is looked at twice, since whoever looks becomes the last sibling itself.
-/

namespace DoubleZero.Lib

/-- The open frames of a tree of instructions, innermost first, each with the last one completed in
it. The outermost frame is the list of instructions that is being executed. -/
structure Frames (ι : Type) where
  completed : Nat
  stack : List (Option (Nat × ι))

namespace Frames

variable {ι : Type} {f : Frames ι} {ix : ι} {used : List Nat} {x : Nat × ι}

/-- Nothing has run yet. -/
def initial : Frames ι := ⟨0, [none]⟩

/-- The last sibling of whoever is invoked next. -/
def last (f : Frames ι) : Option (Nat × ι) := f.stack.head?.join

/-- An instruction that invokes others starts. -/
def enter (f : Frames ι) : Frames ι := { f with stack := none :: f.stack }

/-- An instruction completes in the innermost frame. -/
def complete (f : Frames ι) (ix : ι) : Frames ι :=
  ⟨f.completed + 1, some (f.completed, ix) :: f.stack.tail⟩

/-- The innermost instruction completes, and its frame is closed. -/
def leave (f : Frames ι) (ix : ι) : Frames ι := complete { f with stack := f.stack.tail } ix

/-- The list of instructions is at its end, and another begins. -/
def restart (f : Frames ι) : Frames ι := { f with stack := [none] }

@[simp] theorem last_initial : (initial : Frames ι).last = none := rfl
@[simp] theorem last_enter : f.enter.last = none := rfl
@[simp] theorem last_restart : f.restart.last = none := rfl
@[simp] theorem last_complete : (f.complete ix).last = some (f.completed, ix) := rfl
@[simp] theorem last_leave : (f.leave ix).last = some (f.completed, ix) := rfl
@[simp] theorem completed_enter : f.enter.completed = f.completed := rfl
@[simp] theorem completed_restart : f.restart.completed = f.completed := rfl
@[simp] theorem completed_complete : (f.complete ix).completed = f.completed + 1 := rfl
@[simp] theorem completed_leave : (f.leave ix).completed = f.completed + 1 := rfl

/-- The numbers of the instructions looked at so far: no two are the same, and the last sibling is
none of them. -/
structure Used (f : Frames ι) (used : List Nat) : Prop where
  nodup : used.Nodup
  lt : ∀ i ∈ used, i < f.completed
  last_lt : ∀ x, f.last = some x → x.1 < f.completed
  last_unused : ∀ x, f.last = some x → x.1 ∉ used

namespace Used

theorem initial : (Frames.initial : Frames ι).Used [] :=
  ⟨List.nodup_nil, by simp, by simp, by simp⟩

/-- Nobody has a last sibling in a new frame. -/
theorem of_last_eq_none {f' : Frames ι} (h : f.Used used) (hlast : f'.last = none)
    (hcompleted : f'.completed = f.completed) : f'.Used used := by
  refine ⟨h.nodup, ?_, ?_, ?_⟩
  · rw [hcompleted]
    exact h.lt
  · simp [hlast]
  · simp [hlast]

/-- Whoever completes is looked at next, and was not before. -/
theorem of_last_eq_new {f' : Frames ι} (h : f.Used used) (hlast : f'.last = some (f.completed, ix))
    (hcompleted : f'.completed = f.completed + 1) : f'.Used used := by
  refine ⟨h.nodup, fun i hi => ?_, fun x hx => ?_, fun x hx => ?_⟩
  · rw [hcompleted]
    exact (h.lt i hi).trans (Nat.lt_succ_self _)
  · cases hlast.symm.trans hx
    rw [hcompleted]
    exact Nat.lt_succ_self _
  · cases hlast.symm.trans hx
    exact fun hmem => Nat.lt_irrefl _ (h.lt _ hmem)

theorem enter (h : f.Used used) : f.enter.Used used := h.of_last_eq_none rfl rfl

theorem restart (h : f.Used used) : f.restart.Used used := h.of_last_eq_none rfl rfl

theorem complete (h : f.Used used) : (f.complete ix).Used used := h.of_last_eq_new rfl rfl

theorem leave (h : f.Used used) : (f.leave ix).Used used := h.of_last_eq_new rfl rfl

/-- Looking at the last sibling, and completing. -/
theorem look (h : f.Used used) (hx : f.last = some x) : (f.complete ix).Used (x.1 :: used) := by
  refine ⟨List.nodup_cons.2 ⟨h.last_unused x hx, h.nodup⟩, fun i hi => ?_, fun y hy => ?_,
    fun y hy => ?_⟩
  · rcases List.mem_cons.1 hi with rfl | hi
    · exact (h.last_lt x hx).trans (Nat.lt_succ_self _)
    · exact (h.lt i hi).trans (Nat.lt_succ_self _)
  · cases hy
    exact Nat.lt_succ_self _
  · cases hy
    intro hmem
    rcases List.mem_cons.1 hmem with heq | hmem
    · exact Nat.lt_irrefl _ (heq ▸ h.last_lt x hx)
    · exact Nat.lt_irrefl _ (h.lt _ hmem)

end Used

end Frames

end DoubleZero.Lib
