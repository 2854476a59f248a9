import Mathlib.Data.List.Basic
import Mathlib.Tactic

/-! Lexical resolution of a path, component by component, from the root. -/
namespace LexicalPath

variable {κ : Type} [DecidableEq κ] (skip : κ → Bool) (up : κ)

/-- The directories entered so far, after one more component. -/
def enter (dirs : List κ) (c : κ) : List κ :=
  if skip c then dirs else if c = up then dirs.dropLast else dirs ++ [c]

/-- The directories a path leads through. -/
def resolve (cs : List κ) : List κ := cs.foldl (enter skip up) []

theorem resolve_append (cs ds : List κ) :
    resolve skip up (cs ++ ds) = ds.foldl (enter skip up) (resolve skip up cs) :=
  List.foldl_append

variable {skip up}

/-- Without the component that leads up, no directory is left again. -/
theorem prefix_foldl_enter {cs : List κ} (h : up ∉ cs) (dirs : List κ) :
    dirs <+: cs.foldl (enter skip up) dirs := by
  induction cs generalizing dirs with
  | nil => exact List.prefix_rfl
  | cons c cs ih =>
    obtain ⟨hc, hcs⟩ : up ≠ c ∧ up ∉ cs := by simpa using h
    have hstep : dirs <+: enter skip up dirs c := by
      unfold enter
      split_ifs with hskip hup
      · exact List.prefix_rfl
      · exact absurd hup.symm hc
      · exact List.prefix_append _ _
    exact hstep.trans (ih hcs _)

/-- A path that enters a directory and never leads up stays below it. -/
theorem resolve_below {cs ds : List κ} (h : up ∉ ds) :
    resolve skip up cs <+: resolve skip up (cs ++ ds) := by
  rw [resolve_append]
  exact prefix_foldl_enter h _

end LexicalPath
