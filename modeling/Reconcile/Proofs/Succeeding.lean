import Mathlib
import Reconcile.Proofs.Supersession

/-!
# Runs that succeed

A run fails by a step that fails by itself, or because something is not there that it needs: the row, the
file, a directory. Where no step fails by itself and the row and the file are there, a suggestion whose
text is in order is applied. A backup that is made first is in the way of this only if it takes the place
of a link through which the file is reached.
-/

namespace Reconcile

variable {κ ν α β : Type}

namespace Disk

variable {before after disk : Disk} {path text name : String} {directory place goal : Place}
  {steps : List Step}

/-- Walks that follow no links are not changed by what links are replaced by. -/
theorem Leads.of_unlinked {links : Nat} (h : before.Leads links place steps goal) (hnone : links = 0)
    (hkept : ∀ other entry, before.at? other = some entry → (∀ target, entry ≠ .link target) →
      after.at? other = some entry) : after.Leads 0 place steps goal := by
  induction h with
  | arrived place => exact .arrived place
  | here hplace _ ih => exact .here (hkept _ _ hplace (by simp)) (ih hnone)
  | up hplace _ ih => exact .up (hkept _ _ hplace (by simp)) (ih hnone)
  | down hplace hentry hlink _ ih =>
      exact .down (hkept _ _ hplace (by simp)) (hkept _ _ hentry hlink) hlink (ih hnone)
  | follow _ _ _ _ => cases hnone

namespace ReadsAt

theorem at?_entry_ne_directory (h : disk.ReadsAt path text directory name place) :
    disk.at? (directory ++ [name]) ≠ some .directory := by
  intro hdirectory
  obtain ⟨links, hleads⟩ := h.leads
  obtain ⟨mode, hfile⟩ := h.file
  cases hleads with
  | down _ _ _ hrest =>
      cases hrest with
      | arrived => cases hfile.symm.trans hdirectory
  | follow _ hlink _ => cases hlink.symm.trans hdirectory

/-- A backup does not change what is read, unless it takes the place of a link on the way. -/
theorem readText_of_backUp {millis : Int} (h : before.ReadsAt path text directory name place)
    (hfree : before.hasPath (Backup.pathAt path millis) = false)
    (hlinks : before.canonical (Backup.pathAt path millis) = .error .tooManyLinks →
      before.Leads 0 (before.start path) (Step.ofPath path) place)
    (hreplaced : before.Replaced (Backup.pathAt path millis) text after) :
    after.readText path = .ok text := by
  by_cases hmany : before.canonical (Backup.pathAt path millis) = .error .tooManyLinks
  swap
  · exact h.readText_of_not_needsLink hfree (fun hneeds => hmany hneeds.tooMany) hreplaced
  obtain ⟨steps, hpath, henters⟩ := h.named
  have hfile := h.fileAt_of_backUp hreplaced
  have hkept (other : Place) (entry : Entry) (hentry : before.at? other = some entry)
      (hlink : ∀ target, entry ≠ .link target) : after.at? other = some entry := by
    rw [hfile.others other, hentry]
    rintro rfl
    obtain ⟨target, htarget⟩ := Backup.link_of_hasPath_eq_false hpath henters hfree hentry
    exact hlink target htarget
  have hstart : after.start path = before.start path := by simp [start, hfile.home]
  obtain ⟨mode, hplace⟩ := h.file
  have hleads := (hlinks hmany).of_unlinked rfl hkept
  have hcanonical : after.canonical path = .ok place :=
    canonical_eq_ok_iff.mpr ⟨Step.ne_empty_of_ofPath hpath, 0, Nat.zero_le _, hstart ▸ hleads⟩
  exact readText_eq_ok_iff.mpr
    (contents_eq_ok_iff.mpr ⟨place, mode, hcanonical, hkept place _ hplace (by simp)⟩)

end ReadsAt

end Disk

namespace Course

variable {course : Course ν α} {next : α → Course ν β} {env : Environment ν}
  {mid : α → Environment ν → Prop} {post : β → Environment ν → Prop}

/-- A course gives a result, and something holds of it and of what is left by then. -/
def Succeeds (course : Course ν α) (env : Environment ν) (post : α → Environment ν → Prop) : Prop :=
  Ensures course env fun result after => ∃ a, result = .ok a ∧ post a after

theorem succeeds_pure {a : α} (h : mid a env) : (pure a : Course ν α).Succeeds env mid := ⟨a, rfl, h⟩

theorem succeeds_bind (h : course.Succeeds env mid)
    (hnext : ∀ a middle, mid a middle → (next a).Succeeds middle post) :
    (course >>= next).Succeeds env post := by
  refine ensures_bind (h.mono ?_)
  rintro _ middle ⟨a, rfl, hmiddle⟩
  exact hnext a middle hmiddle

theorem succeeds_of_gives {post : α → Environment ν → Prop}
    (hok : Ensures course env fun result _ => ∃ a, result = .ok a) (h : course.Gives env post) :
    course.Succeeds env post := by
  obtain ⟨a, hresult⟩ := hok
  exact ⟨a, hresult, h a hresult⟩

theorem succeeds_orRollBack {suggestion : Suggestion ν} {guard : Guard} (h : course.Succeeds env mid) :
    (Engine.orRollBack suggestion guard course).Succeeds env mid := by
  refine ensures_bind (ensures_attempt (h.mono ?_))
  rintro _ middle ⟨a, rfl, hmiddle⟩
  exact succeeds_pure hmiddle

end Course

/-- No step fails by itself. -/
def Environment.IsFaultless (env : Environment ν) : Prop := ∀ stage, env.faults stage = none

namespace Environment

/-- The store is as it was, and as before no step fails by itself. -/
structure GoesOn (env after : Environment ν) : Prop where
  store : after.store = env.store
  isFaultless : after.IsFaultless

variable {env middle after : Environment ν}

theorem GoesOn.trans (h : env.GoesOn middle) (h' : middle.GoesOn after) : env.GoesOn after :=
  ⟨h'.store.trans h.store, h'.isFaultless⟩

end Environment

/-! ### The steps of a run -/

namespace Course

open Environment

variable {course : Course ν α} {env : Environment ν} {path text name : String}
  {directory place : Place}

theorem ensures_isFaultless (h : env.IsFaultless) (hcourse : course.FailsWith fun _ => True) :
    Ensures course env fun _ after => after.IsFaultless := by
  intro stage
  rw [(hcourse env fun _ _ _ => trivial).1]
  exact h stage

theorem succeeds_now (h : env.IsFaultless) : now.Succeeds env fun _ after => env.GoesOn after :=
  ⟨_, rfl, rfl, h⟩

theorem succeeds_readText {stage : Stage} (h : env.IsFaultless)
    (hread : env.disk.readText path = .ok text) :
    (readText stage path).Succeeds env fun found after => found = text ∧ env.GoesOn after := by
  have hact : (env.disk.readText path).map (·, env.disk) = .ok (text, env.disk) := by rw [hread]; rfl
  exact ensures_onFiles_of_ok (h stage) hact ⟨text, rfl, rfl, rfl, h⟩

theorem succeeds_writeText {stage : WriteStep → Stage} (h : env.IsFaultless)
    (hreads : env.disk.ReadsAt path text directory name place) (content : String) :
    (writeText stage path content).Succeeds env fun _ after =>
      env.disk.Replaced path content after.disk ∧ env.GoesOn after := by
  have hok : Ensures (writeText stage path content) env fun result _ => result = .ok () :=
    ensures_writeText_ok (fun step _ => h (stage step)) hreads.locate hreads.at?_entry_ne_directory
  have hfaultless := ensures_isFaultless h (failsWith_writeText (by simp) stage path content)
  refine succeeds_of_gives (hok.mono fun _ _ hresult => ⟨(), hresult⟩) ?_
  refine gives_of_ensures ((ensures_writeText stage path content env).and hfaultless) ?_
  rintro ⟨⟩ after ⟨hresult, hlater⟩
  exact ⟨hresult.replaced, hresult.store, hlater⟩

theorem succeeds_onStore {stage : Stage} {act : Store ν → Except StoreError (α × Store ν)} {a : α}
    {store : Store ν} {post : α → Environment ν → Prop} (hfault : env.faults stage = none)
    (hact : act env.store = .ok (a, store))
    (h : post a { env with store, trail := ⟨stage, [], env.disk, store⟩ :: env.trail }) :
    (onStore stage act).Succeeds env post := by
  unfold Succeeds Ensures onStore
  rw [hfault, hact]
  exact ⟨a, rfl, h⟩

end Course

open Course Environment

/-- A guard is made, and the file is read as before. -/
theorem Guard.succeeds_create {env : Environment ν} {path text name : String} {directory place : Place}
    (h : env.IsFaultless) (hreads : env.disk.ReadsAt path text directory name place)
    (hlinks : ∀ millis, env.disk.canonical (Backup.pathAt path millis) = .error .tooManyLinks →
      env.disk.Leads 0 (env.disk.start path) (Step.ofPath path) place) (keepsBackup : Bool) :
    (Guard.create path text keepsBackup).Succeeds env fun guard after =>
      guard.target = path ∧ guard.former = text ∧ guard.Holds after.disk ∧
        after.disk.readText path = .ok text ∧ env.GoesOn after := by
  have hok : Ensures (Guard.create path text keepsBackup) env fun result _ =>
      ∃ guard, result = .ok guard := by
    refine (Guard.ensures_create_fault hreads keepsBackup).mono ?_
    rintro (error | guard) _ hfault
    · obtain ⟨step, -, hstep⟩ := hfault error rfl
      exact absurd (h _) hstep
    · exact ⟨guard, rfl⟩
  have hfaultless := ensures_isFaultless h (Guard.failsWith_create (by simp) path text keepsBackup)
  refine succeeds_of_gives hok (gives_of_ensures (((Guard.ensures_create hreads.readText
    keepsBackup).and (Guard.ensures_create_made path text keepsBackup env)).and hfaultless) ?_)
  rintro guard after ⟨⟨⟨-, -, hstore, htarget, hformer, hholds⟩, hmade⟩, hlater⟩
  refine ⟨htarget, hformer, hholds, ?_, hstore, hlater⟩
  have hmade := hmade guard rfl
  cases keepsBackup with
  | false =>
      rw [hmade.2]
      exact hreads.readText
  | true =>
      obtain ⟨steps, hpath, henters⟩ := hreads.named
      have hfree := Backup.hasPath_freePath hpath henters (env.clock env.readings).millis
      exact hreads.readText_of_backUp hfree (hlinks _) hmade.2

namespace Engine

variable {engine : Engine κ ν} {env : Environment ν} {suggestion : Suggestion ν} {guard : Guard}
  {id path text name : String} {directory place : Place} {row : Row ν} {options : ApplyOptions}

theorem succeeds_overwrite (h : env.IsFaultless) (hholds : guard.Holds env.disk)
    (hreads : env.disk.ReadsAt guard.target text directory name place)
    (hpassed : (engine.verify suggestion guard.former suggestion.resolution).passed) :
    (engine.overwrite suggestion guard).Succeeds env fun verification after =>
      verification = engine.verify suggestion guard.former suggestion.resolution ∧
        env.GoesOn after := by
  refine succeeds_bind (succeeds_orRollBack (succeeds_writeText h hreads suggestion.resolution)) ?_
  rintro ⟨⟩ written ⟨hreplaced, hwritten⟩
  have htext := hholds.readText_of_replaced hreplaced
  refine succeeds_bind (succeeds_orRollBack (succeeds_readText hwritten.isFaultless htext)) ?_
  rintro _ reread ⟨rfl, hreread⟩
  dsimp only
  rw [if_pos hpassed]
  exact succeeds_pure ⟨rfl, hwritten.trans hreread⟩

theorem succeeds_mark {stage : Stage} (h : env.IsFaultless) (hrow : env.store.row? id = some row)
    (isRollback : Bool) :
    (mark stage id isRollback).Succeeds env fun _ after => after.IsFaultless := by
  obtain ⟨rows, hrows, hfind⟩ := Option.bind_eq_some_iff.mp hrow
  refine succeeds_bind (succeeds_now h) fun time middle hmiddle => ?_
  have hmark := Store.mark_eq hrows id isRollback time
  rw [hfind, if_neg (by simp), ← hmiddle.store] at hmark
  exact succeeds_onStore (hmiddle.isFaultless stage) (by rw [hmark]; rfl) hmiddle.isFaultless

/-- A suggestion whose text is in order is applied. -/
theorem succeeds_applyTo (h : env.IsFaultless)
    (hreads : env.disk.ReadsAt path text directory name place)
    (hlinks : ∀ millis, env.disk.canonical (Backup.pathAt path millis) = .error .tooManyLinks →
      env.disk.Leads 0 (env.disk.start path) (Step.ofPath path) place)
    (hrow : env.store.row? suggestion.id = some row)
    (hpassed : (engine.verify suggestion text suggestion.resolution).passed) (keepsBackup : Bool) :
    (engine.applyTo suggestion path text keepsBackup).Succeeds env fun application _ =>
      application.verification = engine.verify suggestion text suggestion.resolution := by
  obtain ⟨steps, hpath, -⟩ := hreads.named
  refine succeeds_bind (Guard.succeeds_create h hreads hlinks keepsBackup) ?_
  rintro guard first ⟨rfl, rfl, hholds, hread, hfirst⟩
  obtain ⟨_, _, _, hstill⟩ := Disk.ReadsAt.of_readText ⟨steps, name, hpath⟩ hread
  refine succeeds_bind (succeeds_overwrite hfirst.isFaultless hholds hstill hpassed) ?_
  rintro _ second ⟨rfl, hsecond⟩
  have hkept : second.store.row? suggestion.id = some row := by
    rw [hsecond.store, hfirst.store, hrow]
  refine succeeds_bind (succeeds_orRollBack (succeeds_mark hsecond.isFaultless hkept false)) ?_
  intro _ third hthird
  exact succeeds_bind (succeeds_now hthird) fun time _ _ => succeeds_pure rfl

/-- A run that comes upon marker lines applies a suggestion whose text is in order, and leaves its text in
the file. -/
theorem succeeds_apply (hfinds : env.Finds id suggestion path text) (h : env.IsFaultless)
    (hmarkers : Text.countMarkers text ≠ 0) (hdry : options.isDryRun = false)
    (hreads : env.disk.ReadsAt path text directory name place)
    (hlinks : ∀ millis, env.disk.canonical (Backup.pathAt path millis) = .error .tooManyLinks →
      env.disk.Leads 0 (env.disk.start path) (Step.ofPath path) place)
    (hpassed : (engine.verify suggestion text suggestion.resolution).passed) :
    (engine.apply id options).Succeeds env fun application after =>
      application.applied = true ∧
        application.verification = engine.verify suggestion text suggestion.resolution ∧
          after.disk.readText path = .ok suggestion.resolution := by
  obtain ⟨row, hrow, hholds⟩ := Store.row?_of_get hfinds.stored
  have hid : suggestion.id = id := hholds.id.trans (Store.id_of_row? hrow)
  have hfaultless : (env.checked path).IsFaultless := h
  have hread : (env.checked path).disk.readText path = .ok text := hfinds.text
  obtain ⟨application, hresult, hverification⟩ :=
    succeeds_applyTo hfaultless hreads hlinks (hid ▸ hrow) hpassed options.keepsBackup
  have happlied : Ensures (engine.applyTo suggestion path text options.keepsBackup)
    (env.checked path) _ := ensures_applyTo hread options.keepsBackup
  unfold Succeeds Ensures
  rw [apply_of_finds hfinds, if_neg hmarkers, if_neg (by simp [hdry])]
  unfold Ensures at happlied
  rw [hresult] at happlied
  exact ⟨application, hresult, happlied.1, hverification, happlied.2.1⟩

end Engine

end Reconcile
