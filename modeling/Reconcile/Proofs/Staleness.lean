import Mathlib
import Reconcile.Proofs.ApplySafety
import Reconcile.Proofs.Failing

/-!
# Suggestions for files that have moved

A suggestion is made for a conflict, and its text takes the place of the whole file. Whether the file
still holds that conflict is not looked at before it is overwritten: a run refuses exactly the files
without marker lines.
-/

namespace Reconcile

variable {κ ν : Type}

/-- What a text says outside its blocks. -/
def Block.outside (text : String) : String := replaceAll text (ofText text) fun _ => ""

/-- A text still holds a conflict: the sides of each of its blocks are those of a block of the text,
and outside the blocks nothing has changed. -/
structure Conflict.HeldBy (conflict : Conflict) (text : String) : Prop where
  blocks : ∀ block ∈ conflict.blocks, ∃ other ∈ Block.ofText text,
    other.ours = block.ours ∧ other.theirs = block.theirs
  outside : Block.outside text = Block.outside conflict.text

/-- A suggestion that has not been applied is stored, and a text is read from its file. -/
structure Environment.Finds (env : Environment ν) (id : String) (suggestion : Suggestion ν)
    (path text : String) : Prop where
  loads : env.faults .load = none
  stored : env.store.get id = .ok (some suggestion)
  isUnapplied : suggestion.isApplied = false
  resolved : env.disk.resolveIn suggestion.repository suggestion.path = .ok path
  reads : env.faults .read = none
  text : env.disk.readText path = .ok text

/-- An environment after one more step that changed nothing. -/
def Environment.noted (env : Environment ν) (stage : Stage) (touched : List Place) : Environment ν :=
  { env with trail := ⟨stage, touched, env.disk, env.store⟩ :: env.trail }

/-- An environment once the suggestion has been loaded and its file read. -/
def Environment.checked (env : Environment ν) (path : String) : Environment ν :=
  (env.noted .load []).noted .read (Course.entryOf path env.disk)

namespace Engine

open Course Environment

variable {engine : Engine κ ν} {env : Environment ν} {id path text : String}
  {suggestion : Suggestion ν} {options : ApplyOptions}

theorem load_of_get (hloads : env.faults .load = none)
    (hget : env.store.get id = .ok (some suggestion)) :
    load id env = (.ok suggestion, env.noted .load []) := by
  have hstep : onStore .load (fun store => (store.get id).map (·, store)) env =
      (.ok (some suggestion), env.noted .load []) := by
    simp only [onStore, hloads, hget, Except.map, noted]
  rw [load, bind_of_ok hstep]
  rfl

theorem target_of_resolveIn
    (h : env.disk.resolveIn suggestion.repository suggestion.path = .ok path) :
    target suggestion env = (.ok path, env) := by
  have hstep : Course.disk env = (.ok env.disk, env) := rfl
  rw [target, bind_of_ok hstep]
  simp only [h]
  rfl

theorem current_of_readText (hreads : env.faults .read = none)
    (h : env.disk.readText path = .ok text) :
    current path env = (.ok (some text), env.noted .read (entryOf path env.disk)) := by
  simp only [current, onFiles, hreads, h, noted]

/-- A run looks at the text of the file only to see whether it has marker lines. -/
theorem apply_of_finds (h : env.Finds id suggestion path text) : engine.apply id options env =
    (if Text.countMarkers text = 0 then
      throw (.stale id "target file no longer contains conflict markers")
    else if options.isDryRun then
      let verification := engine.verify suggestion text suggestion.resolution
      return unwritten suggestion verification verification.passed none
        (if verification.passed then none else some verification.detail)
    else engine.applyTo suggestion path text options.keepsBackup) (env.checked path) := by
  have hload := load_of_get h.loads h.stored
  have htarget : target suggestion (env.noted .load []) = (.ok path, env.noted .load []) :=
    target_of_resolveIn h.resolved
  have hcurrent : current path (env.noted .load []) = (.ok (some text), env.checked path) :=
    current_of_readText h.reads h.text
  rw [apply, bind_of_ok hload, if_neg (by simp [h.isUnapplied]), bind_of_ok htarget,
    bind_of_ok hcurrent]
  by_cases hnone : Text.countMarkers text = 0
  · simp only [Validity.of, hnone, if_true]
    rfl
  · simp only [Validity.of, hnone, if_false]

/-- A run refuses: it says that the suggestion is stale, and nothing is changed. -/
def Refuses (engine : Engine κ ν) (id : String) (options : ApplyOptions) (env : Environment ν) :
    Prop :=
  (∃ reason, (engine.apply id options env).1 = .error (.stale id reason)) ∧
    env.Unmoved (engine.apply id options env).2

theorem refuses_iff_countMarkers_eq_zero (h : env.Finds id suggestion path text)
    (hdry : options.isDryRun = false)
    (hfaults : env.FailsWith fun error => ∀ reason, error ≠ .stale id reason) :
    engine.Refuses id options env ↔ Text.countMarkers text = 0 := by
  unfold Refuses
  rw [apply_of_finds h]
  by_cases hnone : Text.countMarkers text = 0
  · rw [if_pos hnone]
    exact ⟨fun _ => hnone, fun _ => ⟨⟨_, rfl⟩, rfl, rfl, List.suffix_rfl⟩⟩
  · rw [if_neg hnone, if_neg (by simp [hdry])]
    have happly := failsWith_applyTo (by simp) (by simp) suggestion engine (by simp) path text
      options.keepsBackup (env.checked path) hfaults
    refine ⟨?_, fun hzero => absurd hzero hnone⟩
    rintro ⟨⟨reason, hstale⟩, -⟩
    exact absurd rfl (happly.2 _ hstale reason)

/-- Files that no longer hold the conflict of a suggestion are refused just if they hold no marker
lines at all. -/
theorem refuses_moved_iff (h : env.Finds id suggestion path text) (hdry : options.isDryRun = false)
    (hfaults : env.FailsWith fun error => ∀ reason, error ≠ .stale id reason)
    (conflict : Conflict) :
    (¬conflict.HeldBy text → engine.Refuses id options env) ↔
      conflict.HeldBy text ∨ Text.countMarkers text = 0 := by
  rw [refuses_iff_countMarkers_eq_zero h hdry hfaults]
  tauto

/-! ### A conflict that has moved -/

def unmovedText : String := "<<<<<<<\na\n=======\n>>>>>>>\n"

def movedText : String := "b\n<<<<<<<\na\n=======\n>>>>>>>\n"

/-- The conflict that is found in the text before a line is added above it. -/
def formerConflict : Conflict where
  path := "f"
  kind := .unknown
  severity := .medium
  blocks := Block.ofText unmovedText
  analysis := none
  text := unmovedText
  ours := none
  theirs := none
  base := none

def moved : Environment Rat where
  disk := ⟨[(["r"], .directory), (["r", "f"], .file (.text movedText) 0o644)], []⟩
  store := ⟨2, some [{ unappliedRow with resolution := "a\n" }], some [], false⟩
  clock _ := ⟨⟨2024, 1, 2⟩, 0, 0, 0, 0⟩
  readings := 0
  ids _ := ""
  issued := 0
  faults _ := none
  trail := []

theorem not_heldBy_movedText : ¬formerConflict.HeldBy movedText := by
  intro h
  have hmoved : Block.outside movedText = "b\n" := by cbv
  have hformer : Block.outside formerConflict.text = "" := by cbv
  have houtside := h.outside
  rw [hmoved, hformer] at houtside
  exact absurd houtside (by decide)

theorem moved_refuses_iff : ∃ suggestion, moved.Finds "s" suggestion "r/f" movedText ∧
    ((¬formerConflict.HeldBy movedText → plainEngine.Refuses "s" ⟨false, false⟩ moved) ↔
      formerConflict.HeldBy movedText ∨ Text.countMarkers movedText = 0) := by
  obtain ⟨suggestion, hstored⟩ : ∃ suggestion, moved.store.get "s" = .ok (some suggestion) :=
    ⟨_, by cbv⟩
  obtain ⟨row, hrow, hholds⟩ := Store.row?_of_get hstored
  obtain rfl : { unappliedRow with resolution := "a\n" } = row := Option.some.inj hrow
  have hresolved : moved.disk.resolveIn "r" "f" = .ok "r/f" := by cbv
  have hread : moved.disk.readText "r/f" = .ok movedText := by cbv
  have hfinds : moved.Finds "s" suggestion "r/f" movedText := by
    refine ⟨rfl, hstored, hholds.isApplied, ?_, rfl, hread⟩
    rw [hholds.repository, hholds.path]
    exact hresolved
  have hfaults : moved.FailsWith fun error => ∀ reason, error ≠ .stale "s" reason := by
    rintro stage error ⟨⟩
  exact ⟨suggestion, hfinds, refuses_moved_iff hfinds rfl hfaults formerConflict⟩

/-- The line above the conflict is lost. -/
theorem moved_is_overwritten : ¬formerConflict.HeldBy movedText ∧
    (plainEngine.apply "s" ⟨false, false⟩ moved).1.toOption.map (·.applied) = some true ∧
      (plainEngine.apply "s" ⟨false, false⟩ moved).2.disk.readText "r/f" = .ok "a\n" :=
  ⟨not_heldBy_movedText, by cbv, by cbv⟩

end Engine

end Reconcile
