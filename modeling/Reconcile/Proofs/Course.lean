import Reconcile.Proofs.Reaching
import Reconcile.Fix.Environment

/-!
# What courses come to

`Ensures` says of a course and an environment what holds of the result and of the environment after
it, failures included. There is one rule for each way in which courses are put together, and one for
each kind of step; what an operation does is said once with them and is then used without opening it.
-/

namespace Reconcile

variable {ν α β : Type}

/-- Whether a file is not written where the step fails. -/
def WriteStep.isVital : WriteStep → Bool
  | .look | .discard => false
  | _ => true

namespace Environment

/-- A file has been put in place in one go, with the permissions of what its path led to, unless these
could not be looked at. -/
structure Puts (env : Environment ν) (stage : WriteStep → Stage) (path text : String)
    (after : Environment ν) : Prop where
  store : after.store = env.store
  replaced : env.disk.Replaced path text after.disk
  noted : after.failures = env.failures ∧ env.disk.KeepsMode path after.disk ∨
    after.failures = stage .look :: env.failures

/-- A file has not been put in place. Nothing is left of it but a draft that could not be removed. -/
structure Balks (env : Environment ν) (stage : WriteStep → Stage) (after : Environment ν) : Prop where
  store : after.store = env.store
  noted : ∃ more litter, after.failures = more ++ env.failures ∧
    (∀ other ∈ more, ∃ step, other = stage step) ∧ (∃ step, step.isVital ∧ stage step ∈ more) ∧
      env.disk.Litters litter after.disk ∧ litter.length ≤ more.count (stage .discard)

variable {env after : Environment ν} {stage : WriteStep → Stage}

theorem Puts.failures {path text : String} (h : env.Puts stage path text after) :
    env.failures <:+ after.failures := by
  obtain ⟨hnone, -⟩ | hlook := h.noted
  · exact hnone ▸ List.suffix_rfl
  · exact hlook ▸ List.suffix_cons _ _

theorem Balks.failures (h : env.Balks stage after) : env.failures <:+ after.failures := by
  obtain ⟨more, -, hnoted, -⟩ := h.noted
  exact ⟨more, hnoted.symm⟩

theorem Balks.drafts (h : env.Balks stage after) : env.disk.Drafts after.disk := by
  obtain ⟨-, litter, -, -, -, hlitter, -⟩ := h.noted
  exact ⟨litter, hlitter⟩

theorem Balks.exists_count_lt (h : env.Balks stage after) : ∃ step : WriteStep, step.isVital ∧
      env.failures.count (stage step) < after.failures.count (stage step) := by
  obtain ⟨more, -, hnoted, -, ⟨step, hvital, hfailed⟩, -⟩ := h.noted
  refine ⟨step, hvital, ?_⟩
  rw [hnoted, List.count_append]
  have hcount := List.count_pos_iff.mpr hfailed
  omega

end Environment

namespace Course

/-- What a course gives in an environment, and what holds after it. -/
def Ensures (course : Course ν α) (env : Environment ν)
    (post : Except FixError α → Environment ν → Prop) : Prop :=
  post (course env).1 (course env).2

variable {course : Course ν α} {env : Environment ν}
  {post : Except FixError α → Environment ν → Prop}

theorem Ensures.mono {weaker : Except FixError α → Environment ν → Prop}
    (h : Ensures course env post) (hweaker : ∀ result after, post result after → weaker result after) :
    Ensures course env weaker := hweaker _ _ h

theorem Ensures.and {more : Except FixError α → Environment ν → Prop} (h : Ensures course env post)
    (hmore : Ensures course env more) :
    Ensures course env fun result after => post result after ∧ more result after := ⟨h, hmore⟩

theorem Ensures.of_eq {result : Except FixError α} {after : Environment ν}
    (h : Ensures course env post) (hcourse : course env = (result, after)) : post result after := by
  unfold Ensures at h
  rwa [hcourse] at h

theorem ensures_pure {a : α} (h : post (.ok a) env) : Ensures (pure a) env post := h

theorem ensures_throw {error : FixError} (h : post (.error error) env) :
    Ensures (throw error) env post := h

theorem ensures_attempt {post : Except FixError (Except FixError α) → Environment ν → Prop}
    (h : Ensures course env fun result after => post (.ok result) after) :
    Ensures (attempt course) env post := h

theorem bind_apply (course : Course ν α) (next : α → Course ν β) (env : Environment ν) :
    (course >>= next) env = match course env with
      | (.ok a, after) => next a after
      | (.error error, after) => (.error error, after) := by
  simp only [bind, ExceptT.bind, ExceptT.mk, ExceptT.bindCont, StateT.bind]
  rcases course env with ⟨result, after⟩
  cases result <;> rfl

theorem bind_of_ok {next : α → Course ν β} {a : α} {middle : Environment ν}
    (h : course env = (.ok a, middle)) : (course >>= next) env = next a middle := by
  rw [bind_apply, h]

theorem bind_of_error {next : α → Course ν β} {error : FixError} {after : Environment ν}
    (h : course env = (.error error, after)) : (course >>= next) env = (.error error, after) := by
  rw [bind_apply, h]

theorem ensures_bind {next : α → Course ν β} {post : Except FixError β → Environment ν → Prop}
    (h : Ensures course env fun result after => match result with
      | .ok a => Ensures (next a) after post
      | .error error => post (.error error) after) :
    Ensures (course >>= next) env post := by
  unfold Ensures at h ⊢
  rw [bind_apply]
  rcases hcourse : course env with ⟨result, after⟩
  rw [hcourse] at h
  cases result with
  | ok a => exact h
  | error error => exact h

/-- What the first of two courses comes to is kept as an equation. -/
theorem ensures_bind_of_eq {next : α → Course ν β} {post : Except FixError β → Environment ν → Prop}
    (herror : ∀ error after, course env = (.error error, after) → post (.error error) after)
    (hok : ∀ a middle, course env = (.ok a, middle) → Ensures (next a) middle post) :
    Ensures (course >>= next) env post := by
  unfold Ensures
  rcases hcourse : course env with ⟨error | a, after⟩
  · rw [bind_of_error hcourse]
    exact herror error after hcourse
  · rw [bind_of_ok hcourse]
    exact hok a after hcourse

theorem ensures_now {post : Except FixError Timestamp → Environment ν → Prop}
    (h : post (.ok (env.clock env.readings)) { env with readings := env.readings + 1 }) :
    Ensures now env post := h

theorem ensures_freshId {post : Except FixError String → Environment ν → Prop}
    (h : post (.ok (env.ids env.issued)) { env with issued := env.issued + 1 }) :
    Ensures freshId env post := h

theorem ensures_disk {post : Except FixError Disk → Environment ν → Prop}
    (h : post (.ok env.disk) env) : Ensures disk env post := h

theorem ensures_onFiles {stage : Stage} {touched : Disk → List Place}
    {act : Disk → Except FileError (α × Disk)}
    (herror : ∀ error, post (.error error) (env.fail stage))
    (hok : ∀ a disk, act env.disk = .ok (a, disk) → post (.ok a) { env with
      disk, trail := ⟨stage, touched env.disk, disk, env.store⟩ :: env.trail }) :
    Ensures (onFiles stage touched act) env post := by
  unfold Ensures onFiles
  cases env.faults stage with
  | some error => exact herror error
  | none =>
      cases hact : act env.disk with
      | error cause => exact herror (.file cause)
      | ok result => exact hok result.1 result.2 hact

theorem ensures_onFiles_of_ok {stage : Stage} {touched : Disk → List Place}
    {act : Disk → Except FileError (α × Disk)} {a : α} {disk : Disk} (hfault : env.faults stage = none)
    (hact : act env.disk = .ok (a, disk))
    (h : post (.ok a) { env with
      disk, trail := ⟨stage, touched env.disk, disk, env.store⟩ :: env.trail }) :
    Ensures (onFiles stage touched act) env post := by
  unfold Ensures onFiles
  rw [hfault, hact]
  exact h

theorem ensures_onStore {stage : Stage} {act : Store ν → Except StoreError (α × Store ν)}
    (herror : ∀ error, post (.error error) (env.fail stage))
    (hok : ∀ a store, act env.store = .ok (a, store) → post (.ok a) { env with
      store, trail := ⟨stage, [], env.disk, store⟩ :: env.trail }) :
    Ensures (onStore stage act) env post := by
  unfold Ensures onStore
  cases env.faults stage with
  | some error => exact herror error
  | none =>
      cases hact : act env.store with
      | error cause => exact herror (.store cause)
      | ok result => exact hok result.1 result.2 hact

/-! ### What a result comes with -/

section Results

variable {next : α → Course ν β}

/-- What holds of the result of a course, if it gives one, and of what is left by then. -/
def Gives (course : Course ν α) (env : Environment ν) (post : α → Environment ν → Prop) : Prop :=
  Ensures course env fun result after => ∀ a, result = .ok a → post a after

theorem gives_of_ensures {during : Except FixError α → Environment ν → Prop}
    {post : α → Environment ν → Prop} (h : Ensures course env during)
    (hpost : ∀ a after, during (.ok a) after → post a after) : course.Gives env post := by
  refine h.mono ?_
  rintro _ after hduring a rfl
  exact hpost a after hduring

theorem gives_pure {a : α} {post : α → Environment ν → Prop} (h : post a env) :
    (pure a : Course ν α).Gives env post := by
  rintro _ ⟨⟩
  exact h

theorem gives_throw {error : FixError} {post : α → Environment ν → Prop} :
    (throw error : Course ν α).Gives env post := by
  rintro _ ⟨⟩

theorem gives_bind {mid : α → Environment ν → Prop} {post : β → Environment ν → Prop}
    (h : course.Gives env mid) (hnext : ∀ a middle, mid a middle → (next a).Gives middle post) :
    (course >>= next).Gives env post := by
  refine ensures_bind (h.mono ?_)
  rintro (error | a) middle hmiddle
  · rintro _ ⟨⟩
  · exact hnext a middle (hmiddle a rfl)

theorem gives_bind_throw {error : α → FixError} {post : β → Environment ν → Prop} :
    (course >>= fun a => (throw (error a) : Course ν β)).Gives env post := by
  have hany : course.Gives env fun _ _ => True := fun _ _ => trivial
  exact gives_bind hany fun _ _ _ => gives_throw

end Results

/-! ### Reading and writing files -/

variable {path text : String}

theorem ensures_readText {stage : Stage} {post : Except FixError String → Environment ν → Prop}
    (herror : ∀ error, post (.error error) (env.fail stage))
    (hok : ∀ text, env.disk.readText path = .ok text → post (.ok text) { env with
      trail := ⟨stage, entryOf path env.disk, env.disk, env.store⟩ :: env.trail }) :
    Ensures (readText stage path) env post := by
  refine ensures_onFiles herror fun text disk hread => ?_
  obtain ⟨found, hfound, heq⟩ := map_eq_ok_iff.mp hread
  obtain ⟨rfl, rfl⟩ := Prod.mk.inj heq
  exact hok found hfound

/-- The draft takes on the permissions of the file that it is for, unless these cannot be looked at. -/
theorem ensures_permitDraft {stage : WriteStep → Stage} {before : Disk} {draft : Place}
    (hdraft : draft ≠ []) (hfree : before.at? draft = none)
    (hfilled : before.FileAt draft text env.disk) :
    Ensures (permitDraft stage draft path text) env fun result after =>
      after.store = env.store ∧ before.FileAt draft text after.disk ∧ match result with
        | .ok () => (after.failures = env.failures ∧ ∀ contents mode,
            before.find path = .ok (.file contents mode) →
              after.disk.at? draft = some (.file (.text text) mode)) ∨
            after.failures = stage .look :: env.failures
        | .error _ => after.failures = stage .permit :: env.failures := by
  refine ensures_bind (ensures_attempt (ensures_onFiles (fun _ => ?_) fun found disk hlook => ?_))
  · exact ensures_pure ⟨rfl, hfilled, .inr rfl⟩
  obtain ⟨rfl, rfl⟩ := Prod.mk.inj (Except.ok.inj hlook)
  -- The draft is in place of nothing, so it is not in the way of the path whose permissions it takes.
  have hmode (contents : Contents) (mode : Nat) (hfind : before.find path = .ok (.file contents mode)) :
      env.disk.mode path = .ok mode := by
    have hfound := Disk.find_of_isDead hfind (by simp) (Disk.isDead_of_eq_none hfree) hfilled.home
      hfilled.others
    simp [Disk.mode, hfound, bind, Except.bind]
  cases hfound : env.disk.mode path with
  | ok mode =>
      refine ensures_onFiles (fun _ => ⟨rfl, hfilled, rfl⟩) fun _ permitted hpermit => ?_
      cases hpermit
      refine ⟨rfl, hfilled.put hdraft text mode, .inl ⟨rfl, fun contents other hfind => ?_⟩⟩
      obtain rfl := Except.ok.inj (hfound.symm.trans (hmode contents other hfind))
      rw [Disk.at?_put _ hdraft, if_pos rfl]
  | error cause =>
      refine ensures_pure ⟨rfl, hfilled, .inl ⟨rfl, fun contents mode hfind => ?_⟩⟩
      cases hfound.symm.trans (hmode contents mode hfind)

/-- A draft that is finished is in place of the entry; one that is not is still where it was made. -/
theorem ensures_finishDraft {stage : WriteStep → Stage} {before : Disk} {draft : Place}
    (hdraft : draft ≠ []) (hfree : before.at? draft = none) (hmade : before.FileAt draft "" env.disk) :
    Ensures (finishDraft stage draft path text) env fun result after =>
      after.store = env.store ∧ match result with
        | .ok () => before.Replaced path text after.disk ∧
            (after.failures = env.failures ∧ before.KeepsMode path after.disk ∨
              after.failures = stage .look :: env.failures)
        | .error _ => (∃ found, before.FileAt draft found after.disk) ∧
            ∃ step more, step.isVital ∧ after.failures = stage step :: (more ++ env.failures) ∧
              ∀ other ∈ more, other = stage .look := by
  have hfailed {env' : Environment ν} {found : String} (step : WriteStep) (hstep : step.isVital)
      (hstore : env'.store = env.store) (hnone : env'.failures = env.failures)
      (hfile : before.FileAt draft found env'.disk) :
      (env'.fail (stage step)).store = env.store ∧
        (∃ found, before.FileAt draft found (env'.fail (stage step)).disk) ∧
        ∃ failed more, failed.isVital ∧
          (env'.fail (stage step)).failures = stage failed :: (more ++ env.failures) ∧
            ∀ other ∈ more, other = stage .look :=
    ⟨hstore, ⟨found, hfile⟩, step, [], hstep, congrArg (stage step :: ·) hnone, by simp⟩
  refine ensures_bind
    (ensures_onFiles (fun _ => hfailed .fill rfl rfl rfl hmade) fun _ filled hfill => ?_)
  cases hfill
  have hfilled := hmade.put hdraft text draftMode
  refine ensures_bind
    (ensures_onFiles (fun _ => hfailed .sync rfl rfl rfl hfilled) fun _ synced hsync => ?_)
  cases hsync
  refine ensures_bind ((ensures_permitDraft hdraft hfree hfilled).mono ?_)
  rintro (error | ⟨⟩) permitted ⟨hstore, hfile, hnoted⟩
  · exact ⟨hstore, ⟨text, hfile⟩, .permit, [], rfl, hnoted, by simp⟩
  refine ensures_onFiles (fun _ => ⟨hstore, ⟨text, hfile⟩, ?_⟩) fun _ swapped hswap => ?_
  · obtain ⟨hnone, -⟩ | hlook := hnoted
    · exact ⟨.swap, [], rfl, congrArg (stage .swap :: ·) hnone, by simp⟩
    · exact ⟨.swap, [stage .look], rfl, congrArg (stage .swap :: ·) hlook, by simp⟩
  obtain ⟨⟨directory, name⟩, hlocate, hmap⟩ := bind_eq_ok_iff.mp hswap
  obtain ⟨renamed, hrename, heq⟩ := map_eq_ok_iff.mp hmap
  obtain rfl := (Prod.mk.inj heq).2
  have hbefore := hfile.narrows.locate hlocate
  refine ⟨hstore, ⟨directory, name, hbefore, hfile.rename hdraft hfree (by simp) hrename⟩,
    hnoted.imp_left (And.imp_right ?_)⟩
  intro hmode directory' name' contents mode hlocate' hfind
  obtain ⟨rfl, rfl⟩ := Prod.mk.inj (Except.ok.inj (hbefore.symm.trans hlocate'))
  exact ⟨.text text, Disk.at?_rename (by simp) (hmode contents mode hfind) hrename⟩

/-- Writing a file in one go puts it in place of the entry, or leaves the tree as it was, but for a draft
that could not be removed. -/
theorem ensures_writeText (stage : WriteStep → Stage) (path text : String) (env : Environment ν) :
    Ensures (writeText stage path text) env fun result after => match result with
      | .ok () => env.Puts stage path text after
      | .error _ => env.Balks stage after := by
  refine ensures_bind (ensures_onFiles (fun _ => ?_) ?_)
  · exact ⟨rfl, [stage .draft], [], rfl, by simp, ⟨.draft, rfl, by simp⟩,
      Disk.Same.litters ⟨rfl, fun _ => rfl⟩, by simp⟩
  intro draft made hmade
  obtain ⟨⟨directory, name⟩, hlocate, hput⟩ := bind_eq_ok_iff.mp hmade
  obtain ⟨rfl, rfl⟩ := Prod.mk.inj (Except.ok.inj hput)
  have hdraft : directory ++ [env.disk.draftName directory] ≠ [] := by simp
  have hfree := env.disk.at?_draftName directory
  refine ensures_bind (ensures_attempt ((ensures_finishDraft hdraft hfree
    (.of_put env.disk hdraft "" draftMode)).mono ?_))
  rintro (error | ⟨⟩) after ⟨hstore, hresult⟩
  · obtain ⟨⟨found, hfile⟩, step, more, hvital, hnoted, hmore⟩ := hresult
    have hown : ∀ other ∈ stage step :: more, ∃ step, other = stage step := by
      intro other hother
      obtain rfl | hother := List.mem_cons.mp hother
      · exact ⟨step, rfl⟩
      · exact ⟨.look, hmore other hother⟩
    refine ensures_bind (ensures_bind
      (ensures_attempt (ensures_onFiles (fun _ => ?_) fun _ last hdrop => ?_)))
    · exact ensures_pure (ensures_throw ⟨hstore, stage .discard :: stage step :: more, _,
        congrArg (stage .discard :: ·) hnoted, List.forall_mem_cons.mpr ⟨⟨.discard, rfl⟩, hown⟩,
          ⟨step, hvital, by simp⟩, .of_fileAt hfree hfile, by simp⟩)
    · cases hdrop
      exact ensures_pure (ensures_throw ⟨hstore, stage step :: more, [], hnoted, hown,
        ⟨step, hvital, by simp⟩, (hfile.same_remove hdraft hfree).litters, by simp⟩)
  · exact ⟨hstore, hresult.1, hresult.2⟩

/-! ### Writing that does not fail -/

section Answers

variable {stage : WriteStep → Stage} {directory : Place} {name : String}
  (hfaults : ∀ step, step.isVital → env.faults (stage step) = none)

include hfaults

theorem ensures_permitDraft_ok {draft : Place} :
    Ensures (permitDraft stage draft path text) env fun result after =>
      result = .ok () ∧ after.faults = env.faults := by
  refine ensures_bind (ensures_attempt (ensures_onFiles (fun _ => ensures_pure ⟨rfl, rfl⟩) ?_))
  intro found disk _
  cases found with
  | none => exact ensures_pure ⟨rfl, rfl⟩
  | some mode => exact ensures_onFiles_of_ok (hfaults .permit rfl) rfl ⟨rfl, rfl⟩

theorem ensures_finishDraft_ok {before : Disk} {draft : Place} (hdraft : draft ≠ [])
    (hfree : before.at? draft = none) (hmade : before.FileAt draft "" env.disk)
    (hlocate : before.locate path = .ok (directory, name))
    (hplace : before.at? (directory ++ [name]) ≠ some .directory) :
    Ensures (finishDraft stage draft path text) env fun result _ => result = .ok () := by
  have hfilled := hmade.put hdraft text draftMode
  refine ensures_bind (ensures_onFiles_of_ok (hfaults .fill rfl) rfl ?_)
  refine ensures_bind (ensures_onFiles_of_ok (hfaults .sync rfl) rfl ?_)
  refine ensures_bind (((ensures_permitDraft hdraft hfree hfilled).and
    (ensures_permitDraft_ok ?_)).mono ?_)
  · exact hfaults
  rintro _ permitted ⟨⟨-, hfile, -⟩, rfl, hkept⟩
  -- Whatever permissions the draft has got, it is in place of nothing, so the path is as it was.
  have hthere : permitted.disk.locate path = .ok (directory, name) :=
    Disk.locate_of_isDead hlocate (Disk.isDead_of_eq_none hfree) hfile.home hfile.others
  obtain ⟨swapped, hrename⟩ := hfile.exists_rename hplace
  refine ensures_onFiles_of_ok ?_
    (bind_eq_ok_iff.mpr ⟨_, hthere, map_eq_ok_iff.mpr ⟨swapped, hrename, rfl⟩⟩) rfl
  rw [hkept]
  exact hfaults .swap rfl

/-- A file whose path names no directory is written unless a step that this needs fails by itself. -/
theorem ensures_writeText_ok (hlocate : env.disk.locate path = .ok (directory, name))
    (hplace : env.disk.at? (directory ++ [name]) ≠ some .directory) :
    Ensures (writeText stage path text) env fun result _ => result = .ok () := by
  have hdraft : directory ++ [env.disk.draftName directory] ≠ [] := by simp
  refine ensures_bind (ensures_onFiles_of_ok (hfaults .draft rfl) (by rw [hlocate]; rfl) ?_)
  refine ensures_bind (ensures_attempt ((ensures_finishDraft_ok ?_ hdraft
    (env.disk.at?_draftName directory) (.of_put env.disk hdraft "" draftMode) hlocate hplace).mono ?_))
  · exact hfaults
  · rintro _ after rfl
    exact ensures_pure rfl

end Answers

end Course

end Reconcile
