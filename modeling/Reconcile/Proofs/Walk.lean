import Mathlib.Tactic.Common
import Reconcile.Files.Disk

/-!
# Where walks lead

A walk follows steps from place to place and gives up after a number of links. `Leads` says where
steps lead without a limit on links, and counts them instead; `walk_eq_ok_iff` joins the two. What
a change of the tree does to walks is said for `Leads`: walks that end in a directory see directories
and the links that lead to them, and nothing else.
-/

namespace Reconcile.Disk

variable {disk : Disk} {links : Nat} {place goal : Place} {steps : List Step}

/-- The place from which the target of a link is walked. -/
def linkStart (place : Place) (target : String) : Place :=
  if Path.isAbsolute target then [] else place

/-- Steps lead from one place to another, some number of links being followed on the way. -/
inductive Leads (disk : Disk) : Nat → Place → List Step → Place → Prop where
  | arrived (place : Place) : Leads disk 0 place [] place
  | here {links : Nat} {place goal : Place} {rest : List Step}
      (hplace : disk.at? place = some .directory) (hrest : Leads disk links place rest goal) :
      Leads disk links place (.here :: rest) goal
  | up {links : Nat} {place goal : Place} {rest : List Step}
      (hplace : disk.at? place = some .directory)
      (hrest : Leads disk links place.dropLast rest goal) :
      Leads disk links place (.up :: rest) goal
  | down {links : Nat} {place goal : Place} {rest : List Step} {name : String} {entry : Entry}
      (hplace : disk.at? place = some .directory)
      (hentry : disk.at? (place ++ [name]) = some entry) (hlink : ∀ target, entry ≠ .link target)
      (hrest : Leads disk links (place ++ [name]) rest goal) :
      Leads disk links place (.down name :: rest) goal
  | follow {links : Nat} {place goal : Place} {rest : List Step} {name target : String}
      (hplace : disk.at? place = some .directory)
      (hentry : disk.at? (place ++ [name]) = some (.link target))
      (hrest : Leads disk links (linkStart place target) (Step.ofPath target ++ rest) goal) :
      Leads disk (links + 1) place (.down name :: rest) goal

theorem leads_of_walk_eq_ok {fuel : Nat} (h : disk.walk fuel place steps = .ok goal) :
    ∃ links ≤ fuel, disk.Leads links place steps goal := by
  fun_induction walk disk fuel place steps with
  | case1 fuel place =>
      obtain rfl : place = goal := by simpa using h
      exact ⟨0, Nat.zero_le _, .arrived place⟩
  | case2 => simp at h
  | case3 fuel place rest hplace ih =>
      obtain ⟨links, hle, hrest⟩ := ih h
      exact ⟨links, hle, .here (not_not.mp hplace) hrest⟩
  | case4 fuel place rest hplace ih =>
      obtain ⟨links, hle, hrest⟩ := ih h
      exact ⟨links, hle, .up (not_not.mp hplace) hrest⟩
  | case5 => simp at h
  | case6 fuel place rest hplace name hentry ih =>
      obtain ⟨links, hle, hrest⟩ := ih h
      exact ⟨links, hle, .down (not_not.mp hplace) hentry (by simp) hrest⟩
  | case7 fuel place rest hplace name contents mode hentry ih =>
      obtain ⟨links, hle, hrest⟩ := ih h
      exact ⟨links, hle, .down (not_not.mp hplace) hentry (by simp) hrest⟩
  | case8 => simp at h
  | case9 place rest hplace name target hentry fuel ih =>
      obtain ⟨links, hle, hrest⟩ := ih h
      exact ⟨links + 1, Nat.succ_le_succ hle, .follow (not_not.mp hplace) hentry hrest⟩

theorem Leads.walk_eq_ok {fuel : Nat} (h : disk.Leads links place steps goal)
    (hfuel : links ≤ fuel) : disk.walk fuel place steps = .ok goal := by
  induction h generalizing fuel with
  | arrived place => rw [walk]
  | here hplace _ ih =>
      rw [walk]
      simpa [hplace] using ih hfuel
  | up hplace _ ih =>
      rw [walk]
      simpa [hplace] using ih hfuel
  | @down _ _ _ _ _ entry hplace hentry hlink _ ih =>
      rw [walk]
      cases entry with
      | directory => simpa [hplace, hentry] using ih hfuel
      | file contents mode => simpa [hplace, hentry] using ih hfuel
      | link target => exact absurd rfl (hlink target)
  | follow hplace hentry _ ih =>
      obtain ⟨fuel, rfl⟩ : ∃ less, fuel = less + 1 := ⟨fuel - 1, by omega⟩
      rw [walk]
      simpa [hplace, hentry, linkStart] using ih (by omega)

theorem walk_eq_ok_iff {fuel : Nat} :
    disk.walk fuel place steps = .ok goal ↔ ∃ links ≤ fuel, disk.Leads links place steps goal :=
  ⟨leads_of_walk_eq_ok, fun ⟨_, hle, h⟩ => h.walk_eq_ok hle⟩

namespace Leads

theorem unique_links {links' : Nat} {goal' : Place} (h : disk.Leads links place steps goal)
    (h' : disk.Leads links' place steps goal') : links = links' ∧ goal = goal' := by
  induction h generalizing links' goal' with
  | arrived => cases h'; exact ⟨rfl, rfl⟩
  | here _ _ ih => cases h' with | here _ hrest => exact ih hrest
  | up _ _ ih => cases h' with | up _ hrest => exact ih hrest
  | down _ hentry hlink _ ih =>
      cases h' with
      | down _ _ _ hrest => exact ih hrest
      | follow _ hentry' _ => exact absurd (Option.some.inj (hentry.symm.trans hentry')) (hlink _)
  | follow _ hentry _ ih =>
      cases h' with
      | down _ hentry' hlink' _ =>
          exact absurd (Option.some.inj (hentry'.symm.trans hentry)) (hlink' _)
      | follow _ hentry' hrest =>
          obtain rfl := Entry.link.inj (Option.some.inj (hentry.symm.trans hentry'))
          exact (ih hrest).imp_left (congrArg (· + 1))

theorem unique {links' : Nat} {goal' : Place} (h : disk.Leads links place steps goal)
    (h' : disk.Leads links' place steps goal') : goal = goal' := (h.unique_links h').2

theorem start_eq_directory (h : disk.Leads links place steps goal) (hsteps : steps ≠ []) :
    disk.at? place = some .directory := by
  cases h with
  | arrived => exact absurd rfl hsteps
  | here hplace _ => exact hplace
  | up hplace _ => exact hplace
  | down hplace _ _ _ => exact hplace
  | follow hplace _ _ => exact hplace

theorem append {more : Nat} {middle : Place} {others : List Step}
    (h : disk.Leads links place steps middle) (h' : disk.Leads more middle others goal) :
    disk.Leads (links + more) place (steps ++ others) goal := by
  induction h with
  | arrived => simpa using h'
  | here hplace _ ih => exact .here hplace (ih h')
  | up hplace _ ih => exact .up hplace (ih h')
  | down hplace hentry hlink _ ih => exact .down hplace hentry hlink (ih h')
  | @follow links _ _ _ _ _ hplace hentry _ ih =>
      rw [Nat.add_right_comm]
      refine .follow hplace hentry ?_
      simpa using ih h'

theorem of_append {first second : List Step} (h : disk.Leads links place (first ++ second) goal) :
    ∃ before after middle, links = before + after ∧ disk.Leads before place first middle ∧
      disk.Leads after middle second goal := by
  generalize hsteps : first ++ second = steps at h
  induction h generalizing first with
  | arrived place =>
      obtain ⟨rfl, rfl⟩ := List.append_eq_nil_iff.mp hsteps
      exact ⟨0, 0, place, rfl, .arrived place, .arrived place⟩
  | here hplace hrest ih =>
      rcases first with - | ⟨step, first⟩
      · obtain rfl : second = _ := hsteps
        exact ⟨0, _, _, (Nat.zero_add _).symm, .arrived _, .here hplace hrest⟩
      · obtain ⟨rfl, htail⟩ := List.cons_eq_cons.mp hsteps
        obtain ⟨before, after, middle, hlinks, hfirst, hsecond⟩ := ih htail
        exact ⟨before, after, middle, hlinks, .here hplace hfirst, hsecond⟩
  | up hplace hrest ih =>
      rcases first with - | ⟨step, first⟩
      · obtain rfl : second = _ := hsteps
        exact ⟨0, _, _, (Nat.zero_add _).symm, .arrived _, .up hplace hrest⟩
      · obtain ⟨rfl, htail⟩ := List.cons_eq_cons.mp hsteps
        obtain ⟨before, after, middle, hlinks, hfirst, hsecond⟩ := ih htail
        exact ⟨before, after, middle, hlinks, .up hplace hfirst, hsecond⟩
  | down hplace hentry hlink hrest ih =>
      rcases first with - | ⟨step, first⟩
      · obtain rfl : second = _ := hsteps
        exact ⟨0, _, _, (Nat.zero_add _).symm, .arrived _, .down hplace hentry hlink hrest⟩
      · obtain ⟨rfl, htail⟩ := List.cons_eq_cons.mp hsteps
        obtain ⟨before, after, middle, hlinks, hfirst, hsecond⟩ := ih htail
        exact ⟨before, after, middle, hlinks, .down hplace hentry hlink hfirst, hsecond⟩
  | @follow links place goal rest name target hplace hentry hrest ih =>
      rcases first with - | ⟨step, first⟩
      · obtain rfl : second = _ := hsteps
        exact ⟨0, _, _, (Nat.zero_add _).symm, .arrived _, .follow hplace hentry hrest⟩
      · obtain ⟨rfl, rfl⟩ := List.cons_eq_cons.mp hsteps
        obtain ⟨before, after, middle, hlinks, hfirst, hsecond⟩ :=
          ih (List.append_assoc (Step.ofPath target) first second)
        exact ⟨before + 1, after, middle, by omega, .follow hplace hentry hfirst, hsecond⟩

theorem start_eq_directory_of_goal (h : disk.Leads links place steps goal)
    (hgoal : disk.at? goal = some .directory) : disk.at? place = some .directory := by
  by_cases hsteps : steps = []
  · subst hsteps
    cases h with | arrived => exact hgoal
  · exact h.start_eq_directory hsteps

theorem goal_eq_directory_of_here (h : disk.Leads links place (steps ++ [.here]) goal) :
    disk.at? goal = some .directory := by
  obtain ⟨_, _, middle, -, -, hlast⟩ := h.of_append
  cases hlast with
  | here hplace hrest => cases hrest with | arrived => exact hplace

theorem stay {stays : List Step} (hstays : ∀ step ∈ stays, step = .here)
    (hplace : disk.at? place = some .directory) (h : disk.Leads links place steps goal) :
    disk.Leads links place (stays ++ steps) goal := by
  induction stays with
  | nil => exact h
  | cons step stays ih =>
      obtain rfl := hstays step List.mem_cons_self
      exact .here hplace (ih fun step hstep => hstays step (List.mem_cons_of_mem _ hstep))

theorem of_filter_eq {others : List Step} (h : disk.Leads links place steps goal)
    (hgoal : disk.at? goal = some .directory)
    (hothers : others.filter (· ≠ .here) = steps.filter (· ≠ .here)) :
    disk.Leads links place others goal := by
  induction h generalizing others with
  | arrived place =>
      have hstays : ∀ step ∈ others, step = .here := by
        simpa [List.filter_eq_nil_iff] using hothers
      simpa using stay hstays hgoal (.arrived place)
  | here _ _ ih => exact ih hgoal (by simpa using hothers)
  | up hplace _ ih =>
      rw [List.filter_cons_of_pos (by simp)] at hothers
      obtain ⟨stays, more, rfl, hstays, -, hmore⟩ := List.filter_eq_cons_iff.mp hothers
      exact stay (by simpa using hstays) hplace (.up hplace (ih hgoal hmore))
  | down hplace hentry hlink _ ih =>
      rw [List.filter_cons_of_pos (by simp)] at hothers
      obtain ⟨stays, more, rfl, hstays, -, hmore⟩ := List.filter_eq_cons_iff.mp hothers
      exact stay (by simpa using hstays) hplace (.down hplace hentry hlink (ih hgoal hmore))
  | @follow _ _ _ _ _ target hplace hentry _ ih =>
      rw [List.filter_cons_of_pos (by simp)] at hothers
      obtain ⟨stays, more, rfl, hstays, -, hmore⟩ := List.filter_eq_cons_iff.mp hothers
      refine stay (by simpa using hstays) hplace (.follow hplace hentry (ih hgoal ?_))
      rw [List.filter_append, List.filter_append, hmore]

end Leads

/-- A place that walks go through: a directory, or a link that leads to one. -/
def IsPassage (disk : Disk) (place : Place) : Prop :=
  disk.at? place = some .directory ∨
    ∃ target links goal, disk.at? place = some (.link target) ∧
      disk.Leads links (linkStart place.dropLast target) (Step.ofPath target) goal ∧
      disk.at? goal = some .directory

theorem not_isPassage_of_file {contents : Contents} {mode : Nat}
    (h : disk.at? place = some (.file contents mode)) : ¬disk.IsPassage place := by
  simp [IsPassage, h]

/-- A tree that has the passages of another leads to the same directories. -/
theorem Leads.of_passages {other : Disk} (h : disk.Leads links place steps goal)
    (hgoal : disk.at? goal = some .directory)
    (hother : ∀ place, disk.IsPassage place → other.at? place = disk.at? place) :
    other.Leads links place steps goal := by
  have hkept {place : Place} (hplace : disk.at? place = some .directory) :
      other.at? place = some .directory := (hother place (.inl hplace)).trans hplace
  induction h with
  | arrived place => exact .arrived place
  | here hplace _ ih => exact .here (hkept hplace) (ih hgoal)
  | up hplace _ ih => exact .up (hkept hplace) (ih hgoal)
  | down hplace _ _ hrest ih =>
      have hnext := hrest.start_eq_directory_of_goal hgoal
      exact .down (hkept hplace) (hkept hnext) (by simp) (ih hgoal)
  | @follow _ place _ _ name target hplace hentry hrest ih =>
      obtain ⟨links, _, middle, -, htarget, hmore⟩ := hrest.of_append
      have hmiddle := hmore.start_eq_directory_of_goal hgoal
      have hpassage : disk.IsPassage (place ++ [name]) :=
        .inr ⟨target, links, middle, hentry, by simpa using htarget, hmiddle⟩
      exact .follow (hkept hplace) ((hother _ hpassage).trans hentry) (ih hgoal)

end Reconcile.Disk
