import Reconcile.Proofs.Course

/-!
# What holds all along a course

A course leaves a moment in the trail after each of its steps. `Throughout` says what holds of the tree
of files at each of them, and where the entries lie that the steps are about. It is put together along
a course as `Ensures` is. While a file is written in one go the tree differs from the former one by a
draft at most, until the file is in place.
-/

namespace Reconcile

namespace Disk

variable {before middle after : Disk} {place directory : Place} {path text name : String}
  {steps : List Step} {entry : Entry}

theorem Narrows.refl (disk : Disk) : disk.Narrows disk := ⟨rfl, fun _ _ => rfl⟩

theorem Narrows.trans (h : before.Narrows middle) (h' : middle.Narrows after) :
    before.Narrows after where
  home := h'.home.trans h.home
  passages place hplace := by
    rw [h.passages place (h'.isPassage hplace), h'.passages place hplace]

theorem Replaced.narrows (h : before.Replaced path text after) : before.Narrows after := by
  obtain ⟨directory, name, -, hfile⟩ := h
  exact hfile.narrows

end Disk

namespace Course

variable {ν α β : Type} {course : Course ν α} {env : Environment ν} {within : Place → Prop}
  {holds : Disk → Prop}

/-- At the beginning of a course, after each of its steps and at its end something holds of the tree
of files, and the entries that the steps are about lie within something. -/
structure Throughout (course : Course ν α) (env : Environment ν) (within : Place → Prop)
    (holds : Disk → Prop) : Prop where
  first : holds env.disk
  last : holds (course env).2.disk
  between : ∃ moments, (course env).2.trail = moments ++ env.trail ∧
    ∀ moment ∈ moments, (∀ place ∈ moment.touched, within place) ∧ holds moment.disk

theorem Throughout.mono {holds' : Disk → Prop} (h : Throughout course env within holds)
    (hholds : ∀ disk, holds disk → holds' disk) : Throughout course env within holds' := by
  obtain ⟨hfirst, hlast, moments, htrail, hmoments⟩ := h
  refine ⟨hholds _ hfirst, hholds _ hlast, moments, htrail, fun moment hmoment => ?_⟩
  exact ⟨(hmoments moment hmoment).1, hholds _ (hmoments moment hmoment).2⟩

theorem Throughout.widen {within' : Place → Prop} (h : Throughout course env within holds)
    (hwithin : ∀ place, within place → within' place) : Throughout course env within' holds := by
  obtain ⟨hfirst, hlast, moments, htrail, hmoments⟩ := h
  refine ⟨hfirst, hlast, moments, htrail, fun moment hmoment => ⟨fun place hplace => ?_, ?_⟩⟩
  · exact hwithin place ((hmoments moment hmoment).1 place hplace)
  · exact (hmoments moment hmoment).2

theorem throughout_of_unmoved (h : holds env.disk) (hdisk : (course env).2.disk = env.disk)
    (htrail : (course env).2.trail = env.trail) : Throughout course env within holds :=
  ⟨h, hdisk ▸ h, [], htrail, by simp⟩

theorem throughout_pure {a : α} (h : holds env.disk) :
    Throughout (pure a : Course ν α) env within holds := throughout_of_unmoved h rfl rfl

theorem throughout_throw {error : FixError} (h : holds env.disk) :
    Throughout (throw error : Course ν α) env within holds := throughout_of_unmoved h rfl rfl

theorem throughout_now (h : holds env.disk) : Throughout (now : Course ν Timestamp) env within holds :=
  throughout_of_unmoved h rfl rfl

theorem throughout_disk (h : holds env.disk) : Throughout (disk : Course ν Disk) env within holds :=
  throughout_of_unmoved h rfl rfl

theorem throughout_attempt (h : Throughout course env within holds) :
    Throughout (attempt course) env within holds := ⟨h.first, h.last, h.between⟩

/-- The rule for courses one after another; what is known of the first may be used for the second. -/
theorem throughout_bind_of_ensures {next : α → Course ν β}
    {post : Except FixError α → Environment ν → Prop} (h : Throughout course env within holds)
    (hpost : Ensures course env post)
    (hnext : ∀ a middle, post (.ok a) middle → holds middle.disk →
      Throughout (next a) middle within holds) :
    Throughout (course >>= next) env within holds := by
  obtain ⟨hfirst, hlast, moments, htrail, hmoments⟩ := h
  have hrun := bind_apply course next env
  rcases hcourse : course env with ⟨error | a, middle⟩
  · rw [hcourse] at hrun hlast htrail
    exact ⟨hfirst, by rwa [hrun], moments, by rwa [hrun], hmoments⟩
  · rw [hcourse] at hrun hlast htrail
    obtain ⟨-, hend, more, hmore, hafter⟩ := hnext a middle (hpost.of_eq hcourse) hlast
    refine ⟨hfirst, by rwa [hrun], more ++ moments, ?_, fun moment hmoment => ?_⟩
    · rw [hrun, List.append_assoc]
      exact htrail ▸ hmore
    · obtain hlater | hearlier := List.mem_append.mp hmoment
      · exact hafter moment hlater
      · exact hmoments moment hearlier

theorem throughout_bind {next : α → Course ν β} (h : Throughout course env within holds)
    (hnext : ∀ a middle, holds middle.disk → Throughout (next a) middle within holds) :
    Throughout (course >>= next) env within holds := by
  have hpost : Ensures course env fun _ _ => True := trivial
  exact throughout_bind_of_ensures h hpost fun a middle _ => hnext a middle

theorem throughout_bind_attempt {next : Except FixError α → Course ν β}
    {post : Except FixError α → Environment ν → Prop} (h : Throughout course env within holds)
    (hpost : Ensures course env post)
    (hnext : ∀ result middle, post result middle → holds middle.disk →
      Throughout (next result) middle within holds) :
    Throughout (attempt course >>= next) env within holds := by
  have hattempt : Ensures (attempt course) env fun result after =>
      ∀ a, result = .ok a → post a after := by
    refine ensures_attempt (hpost.mono ?_)
    rintro result after hresult _ ⟨⟩
    exact hresult
  refine throughout_bind_of_ensures (throughout_attempt h) hattempt fun a middle hmiddle => ?_
  exact hnext a middle (hmiddle a rfl)

/-- A step leaves a moment in the trail, or it fails and leaves the tree as it was. -/
theorem throughout_of_step (h : holds env.disk)
    (hstep : Ensures course env fun _ after =>
      (after.disk = env.disk ∧ after.trail = env.trail) ∨ ∃ moment,
        after.trail = moment :: env.trail ∧ after.disk = moment.disk ∧
          (∀ place ∈ moment.touched, within place) ∧ holds moment.disk) :
    Throughout course env within holds := by
  obtain ⟨hdisk, htrail⟩ | ⟨moment, htrail, hdisk, htouched, hholds⟩ := hstep
  · exact throughout_of_unmoved h hdisk htrail
  · refine ⟨h, hdisk ▸ hholds, [moment], htrail, fun other hother => ?_⟩
    obtain rfl := List.mem_singleton.mp hother
    exact ⟨htouched, hholds⟩

theorem throughout_onFiles {stage : Stage} {touched : Disk → List Place}
    {act : Disk → Except FileError (α × Disk)} (h : holds env.disk)
    (hact : ∀ a disk, act env.disk = .ok (a, disk) →
      (∀ place ∈ touched env.disk, within place) ∧ holds disk) :
    Throughout (onFiles stage touched act) env within holds := by
  refine throughout_of_step h (ensures_onFiles (fun _ => .inl ⟨rfl, rfl⟩) fun a disk heq => .inr ?_)
  exact ⟨⟨stage, touched env.disk, disk, env.store⟩, rfl, rfl, hact a disk heq⟩

theorem throughout_onStore {stage : Stage} {act : Store ν → Except StoreError (α × Store ν)}
    (h : holds env.disk) : Throughout (onStore stage act) env within holds := by
  refine throughout_of_step h (ensures_onStore (fun _ => .inl ⟨rfl, rfl⟩) fun a store _ => .inr ?_)
  exact ⟨⟨stage, [], env.disk, store⟩, rfl, rfl, by simp, h⟩

/-- A step on the tree of files, and what is done with the tree that it leaves. -/
theorem throughout_onFiles_bind {stage : Stage} {touched : Disk → List Place}
    {act : Disk → Except FileError (α × Disk)} {next : α → Course ν β} (h : holds env.disk)
    (hact : ∀ a disk, act env.disk = .ok (a, disk) →
      (∀ place ∈ touched env.disk, within place) ∧ holds disk ∧
        ∀ middle, middle.disk = disk → Throughout (next a) middle within holds) :
    Throughout (onFiles stage touched act >>= next) env within holds := by
  have hstep : Ensures (onFiles stage touched act) env fun result after =>
      ∀ a, result = .ok a → act env.disk = .ok (a, after.disk) :=
    ensures_onFiles (by simp) fun a disk heq => by simp [heq]
  refine throughout_bind_of_ensures
    (throughout_onFiles h fun a disk heq => ⟨(hact a disk heq).1, (hact a disk heq).2.1⟩) hstep
    fun a middle hmiddle _ => ?_
  exact (hact a _ (hmiddle a rfl)).2.2 middle rfl

/-! ### Reading and writing files -/

variable {path text : String}

theorem throughout_entryOf {disk : Disk}
    (hentry : ∀ directory name, disk.locate path = .ok (directory, name) →
      within (directory ++ [name])) : ∀ place ∈ entryOf path disk, within place := by
  intro place hplace
  unfold entryOf at hplace
  split at hplace
  · rename_i directory name hlocate
    obtain rfl := List.mem_singleton.mp hplace
    exact hentry directory name hlocate
  · cases hplace

theorem throughout_readText {stage : Stage} (h : holds env.disk)
    (hentry : ∀ directory name, env.disk.locate path = .ok (directory, name) →
      within (directory ++ [name])) :
    Throughout (readText stage path) env within holds := by
  refine throughout_onFiles h fun text disk hread => ⟨throughout_entryOf hentry, ?_⟩
  obtain ⟨found, -, heq⟩ := map_eq_ok_iff.mp hread
  obtain ⟨-, rfl⟩ := Prod.mk.inj heq
  exact h

section Writing

variable {stage : WriteStep → Stage} {before : Disk}
  (hdrafts : ∀ disk, before.Drafts disk → holds disk)
  (hreplaced : ∀ disk, before.Replaced path text disk → holds disk)
  (hwithin : ∀ directory name, before.locate path = .ok (directory, name) →
    ∀ last, within (directory ++ [last]))

include hdrafts hreplaced hwithin

omit hreplaced in
theorem throughout_permitDraft {directory : Place} {draft last : String}
    (hlocate : before.locate path = .ok (directory, last))
    (hfree : before.at? (directory ++ [draft]) = none)
    (hfilled : before.FileAt (directory ++ [draft]) text env.disk) :
    Throughout (permitDraft stage (directory ++ [draft]) path text) env within holds := by
  have hplace : directory ++ [draft] ≠ [] := by simp
  have hdrafted {found : String} {disk : Disk} (h : before.FileAt (directory ++ [draft]) found disk) :
      holds disk := hdrafts disk ⟨_, .of_fileAt hfree h⟩
  have hlook : Ensures (onFiles (stage .look) (entryOf path) fun disk =>
      .ok ((disk.mode path).toOption, disk)) env fun _ after => after.disk = env.disk := by
    refine ensures_onFiles (fun _ => rfl) fun found disk hact => ?_
    cases hact
    rfl
  refine throughout_bind_attempt (throughout_onFiles (hdrafted hfilled) fun found disk hact => ?_)
    hlook fun result middle hmiddle _ => ?_
  · cases hact
    refine ⟨throughout_entryOf fun directory' name hlocate' => ?_, hdrafted hfilled⟩
    exact hwithin directory' name (hfilled.narrows.locate hlocate') name
  rw [← hmiddle] at hfilled
  split
  · rename_i mode
    refine throughout_onFiles (hdrafted hfilled) fun _ permitted hpermit => ⟨fun place hmem => ?_, ?_⟩
    · obtain rfl := List.mem_singleton.mp hmem
      exact hwithin directory last hlocate draft
    · cases hpermit
      exact hdrafted (hfilled.put hplace text mode)
  · exact throughout_pure (hdrafted hfilled)

/-- While a draft is filled and finished nothing but the draft is there to see. -/
theorem throughout_finishDraft {directory : Place} {draft last : String}
    (hlocate : before.locate path = .ok (directory, last))
    (hfree : before.at? (directory ++ [draft]) = none)
    (hmade : before.FileAt (directory ++ [draft]) "" env.disk) :
    Throughout (finishDraft stage (directory ++ [draft]) path text) env within holds := by
  have hplace : directory ++ [draft] ≠ [] := by simp
  have htouched : ∀ place ∈ [directory ++ [draft]], within place := by
    intro place hplace
    obtain rfl := List.mem_singleton.mp hplace
    exact hwithin directory last hlocate draft
  have hdrafted {found : String} {disk : Disk} (h : before.FileAt (directory ++ [draft]) found disk) :
      holds disk := hdrafts disk ⟨_, .of_fileAt hfree h⟩
  refine throughout_onFiles_bind (hdrafted hmade) fun _ filled hfill => ?_
  cases hfill
  have hfilled := hmade.put hplace text draftMode
  refine ⟨htouched, hdrafted hfilled, fun second hsecond => ?_⟩
  rw [← hsecond] at hfilled
  refine throughout_onFiles_bind (hdrafted hfilled) fun _ synced hsync => ?_
  cases hsync
  refine ⟨htouched, hdrafted hfilled, fun third hthird => ?_⟩
  rw [← hthird] at hfilled
  refine throughout_bind_of_ensures
    (throughout_permitDraft hdrafts hwithin hlocate hfree hfilled)
    (ensures_permitDraft hplace hfree hfilled) ?_
  rintro ⟨⟩ fourth ⟨-, hpermitted, -⟩ -
  refine throughout_onFiles (hdrafted hpermitted) fun _ swapped hswap => ⟨?_, hreplaced swapped ?_⟩
  · intro place hplace
    obtain rfl | hentry := List.mem_cons.mp hplace
    · exact hwithin directory last hlocate draft
    · refine throughout_entryOf (fun directory' name hlocate' => ?_) place hentry
      exact hwithin directory' name (hpermitted.narrows.locate hlocate') name
  · obtain ⟨⟨directory', name⟩, hlocate', hmap⟩ := bind_eq_ok_iff.mp hswap
    obtain ⟨renamed, hrename, heq⟩ := map_eq_ok_iff.mp hmap
    obtain rfl := (Prod.mk.inj heq).2
    exact ⟨directory', name, hpermitted.narrows.locate hlocate',
      hpermitted.rename hplace hfree (by simp) hrename⟩

end Writing

/-- While a file is written in one go the tree differs from the former one by a draft at most, until
the file is in place. -/
theorem throughout_writeText {stage : WriteStep → Stage}
    (hdrafts : ∀ disk, env.disk.Drafts disk → holds disk)
    (hreplaced : ∀ disk, env.disk.Replaced path text disk → holds disk)
    (hwithin : ∀ directory name, env.disk.locate path = .ok (directory, name) →
      ∀ last, within (directory ++ [last])) :
    Throughout (writeText stage path text) env within holds := by
  refine throughout_onFiles_bind (hdrafts _ (.refl env.disk)) fun draft made hmake => ?_
  obtain ⟨⟨directory, name⟩, hlocate, hput⟩ := bind_eq_ok_iff.mp hmake
  obtain ⟨rfl, rfl⟩ := Prod.mk.inj (Except.ok.inj hput)
  have hfree := env.disk.at?_draftName directory
  have hplace : directory ++ [env.disk.draftName directory] ≠ [] := by simp
  have hmade := Disk.FileAt.of_put env.disk hplace "" draftMode
  refine ⟨?_, hdrafts _ ⟨_, .of_fileAt hfree hmade⟩, fun middle hmiddle => ?_⟩
  · intro place hmem
    rw [hlocate] at hmem
    obtain rfl := List.mem_singleton.mp hmem
    exact hwithin directory name hlocate _
  rw [← hmiddle] at hmade
  refine throughout_bind_attempt
    (throughout_finishDraft hdrafts hreplaced hwithin hlocate hfree hmade)
    (ensures_finishDraft hplace hfree hmade) ?_
  rintro (error | ⟨⟩) after ⟨-, hresult⟩ hafter
  · obtain ⟨⟨found, hfile⟩, -⟩ := hresult
    refine throughout_bind (throughout_bind (throughout_attempt (throughout_onFiles hafter
      fun _ last hdrop => ?_)) fun _ _ => throughout_pure) fun _ _ => throughout_throw
    cases hdrop
    refine ⟨fun place hmem => ?_, hdrafts _ ⟨[], (hfile.same_remove hplace hfree).litters⟩⟩
    obtain rfl := List.mem_singleton.mp hmem
    exact hwithin directory name hlocate _
  · exact throughout_pure hafter

end Course

end Reconcile
