import Mathlib
import Reconcile.Proofs.CountedLines
import Reconcile.Proofs.Dispatch
import Reconcile.Proofs.Generating
import Reconcile.Proofs.Succeeding

/-!
# Clean conflicts

A conflict is clean if lines end plainly, and every marker line is in a block. What the standard strategies
make of it has no line that is counted as a marker line, and the block they were made for have three
each. So every suggestion for the conflict is found valid while its file is there as it was, and applying
it leaves what its strategy resolves the text to.
-/

namespace Reconcile

variable {κ ν : Type}

/-! ### Files that are reached without links -/

namespace Disk

variable {disk : Disk} {root path text : String} {place goal : Place} {steps : List Step}

/-- Below a root a file with a text is reached without links. Where looking for a backup of it takes too
many links, there are none on the way to the root either. -/
structure HoldsAt (disk : Disk) (root path text : String) : Prop where
  file : ∃ top place mode, disk.canonical root = .ok top ∧ disk.Leads 0 top (Step.ofPath path) place ∧
    disk.at? place = some (.file (.text text) mode)
  links : ∀ millis,
    disk.canonical (Backup.pathAt (Path.join root path) millis) = .error .tooManyLinks →
      ∃ place, disk.Leads 0 (disk.start (Path.join root path)) (Step.ofPath (Path.join root path)) place

theorem Leads.prefix_of_descends {links : Nat} (h : disk.Leads links place steps goal)
    (hnone : links = 0) (hup : Step.up ∉ steps) : place <+: goal := by
  induction h with
  | arrived place => exact List.prefix_rfl
  | here _ _ ih => exact ih hnone (List.not_mem_of_not_mem_cons hup)
  | up _ _ _ => exact absurd List.mem_cons_self hup
  | down _ _ _ _ ih =>
      exact (List.prefix_append _ _).trans (ih hnone (List.not_mem_of_not_mem_cons hup))
  | follow _ _ _ _ => cases hnone

/-- The path of such a file is let through, and leads to the file. -/
theorem HoldsAt.readsAt (h : disk.HoldsAt root path text) (hvalid : Path.validate path = .ok ()) :
    disk.resolveIn root path = .ok (Path.join root path) ∧
      ∃ directory name place, disk.ReadsAt (Path.join root path) text directory name place ∧
        ∀ millis, disk.canonical (Backup.pathAt (Path.join root path) millis) = .error .tooManyLinks →
          disk.Leads 0 (disk.start (Path.join root path)) (Step.ofPath (Path.join root path)) place := by
  obtain ⟨top, goal, mode, hroot, hleads, hfile⟩ := h.file
  obtain ⟨-, -, fuel, -, -, hwalk⟩ := leads_join hroot (Path.isAbsolute_of_validate hvalid)
  have hcanonical : disk.canonical (Path.join root path) = .ok goal :=
    hwalk.trans (hleads.walk_eq_ok (Nat.zero_le fuel))
  have hresolve : disk.resolveIn root path = .ok (Path.join root path) := by
    refine resolveIn_of_canonical hvalid hcanonical fun other hother => ?_
    obtain rfl := Except.ok.inj (hroot.symm.trans hother)
    exact hleads.prefix_of_descends rfl (Path.up_not_mem_of_validate hvalid)
  have hread : disk.readText (Path.join root path) = .ok text :=
    readText_eq_ok_iff.mpr (contents_eq_ok_iff.mpr ⟨goal, mode, hcanonical, hfile⟩)
  have hnamed := exists_down_of_resolveIn hresolve fun _ => ofPath_ne_append_here hread
  obtain ⟨directory, name, place, hreads⟩ := ReadsAt.of_readText hnamed hread
  refine ⟨hresolve, directory, name, place, hreads, fun millis hmany => ?_⟩
  obtain ⟨other, hother⟩ := h.links millis hmany
  obtain ⟨-, links, -, hplace⟩ := canonical_eq_ok_iff.mp hreads.canonical
  exact hplace.unique hother ▸ hother

end Disk

/-! ### The rows of a batch -/

theorem Json.toList_quote (text : String) :
    (quote text).toList = '"' :: (text.toList.flatMap fun c => (escape c).toList) ++ ['"'] := by
  have hfold (out : String) (chars : List Char) :
      (chars.foldl (fun out c => out ++ escape c) out).toList =
        out.toList ++ chars.flatMap fun c => (escape c).toList := by
    induction chars generalizing out with
    | nil => simp
    | cons c rest ih => simp [ih]
  simp [quote, String.foldl_eq_foldl_toList, hfold]

/-- A new suggestion has its row, and rows that are there stay as they are. -/
theorem Store.row?_of_create [Scalar ν] {store made : Store ν} {draft : Draft ν} {id : String}
    {time : Timestamp} {suggestion : Suggestion ν}
    (h : store.create draft id time = .ok (suggestion, made)) :
    made.row? suggestion.id = some (.ofSuggestion suggestion) ∧
      ∀ other row, store.row? other = some row → made.row? other = some row := by
  have hstep : store.step (.create draft id time) = made := by rw [step, h]
  have hrow := hstep ▸ row?_create h
  obtain ⟨rows, hrows, hfree, rfl, -⟩ := exists_rows_of_create h
  refine ⟨hrow, fun other row hthere => ?_⟩
  have hother : (Operation.create draft id time).subject? ≠ some other := by
    rintro ⟨⟩
    rw [row?_eq hrows, hfree] at hthere
    cases hthere
  rw [← hstep, row?_step_of_ne hrows hother, hthere]

/-- A new suggestion can be read back if its metadata can. -/
theorem Store.exists_get_of_row? [Scalar ν] {store : Store ν} {draft : Draft ν} {id : String}
    {time : Timestamp} (hrow : store.row? id = some (.ofSuggestion (suggestionOf draft id time)))
    (hmetadata : (Json.parse? draft.metadata.render).isSome) (htime : time.IsDated) :
    ∃ stored, store.get id = .ok stored := by
  obtain ⟨metadata, hparse⟩ := Option.isSome_iff_exists.mp hmetadata
  have hdecode : ∃ stored, (Row.ofSuggestion (suggestionOf draft id time)).decode = .ok stored := by
    simp only [Row.decode, Row.ofSuggestion, suggestionOf, ConflictKind.ofAnyCase_name, hparse,
      Row.decodeTime, Timestamp.ofStored?_stored htime]
    exact ⟨_, rfl⟩
  obtain ⟨stored, hstored⟩ := hdecode
  exact ⟨some stored, by rw [get_eq_of_row? hrow, hstored]; rfl⟩

open Course Strategy

namespace Engine

variable [Scalar ν] {engine : Engine κ ν} {factors : Factors ν → Json} {repository : String}
  {conflict : Conflict} {most : Nat} {env : Environment ν} {suggestion : Suggestion ν}

/-- Each of some suggestions has its row, and rows that were there are as they were. -/
structure Stores (env : Environment ν) (suggestions : List (Suggestion ν)) (after : Environment ν) :
    Prop where
  made : ∀ suggestion ∈ suggestions,
    after.store.row? suggestion.id = some (.ofSuggestion suggestion)
  kept : ∀ id row, env.store.row? id = some row → after.store.row? id = some row

theorem Stores.cons {middle after : Environment ν} {others : List (Suggestion ν)}
    (h : Stores env [suggestion] middle) (h' : Stores middle others after) :
    Stores env (suggestion :: others) after where
  made := by
    refine List.forall_mem_cons.mpr ⟨h'.kept _ _ (h.made suggestion List.mem_cons_self), h'.made⟩
  kept id row hrow := h'.kept id row (h.kept id row hrow)

theorem gives_keep (draft : Draft ν) (env : Environment ν) :
    (keep draft).Gives env fun suggestion after => Stores env [suggestion] after := by
  refine ensures_bind (ensures_freshId (ensures_bind (ensures_now (ensures_onStore (by simp) ?_))))
  rintro _ store hcreate suggestion ⟨⟩
  obtain ⟨hmade, hkept⟩ := Store.row?_of_create hcreate
  exact ⟨by simpa using hmade, hkept⟩

theorem gives_collect (engine : Engine κ ν) (most : Nat) (strategies : List Strategy)
    (env : Environment ν) :
    (engine.collect factors repository conflict most strategies).Gives env (Stores env) := by
  have hnone (env : Environment ν) :
      (return [] : Course ν (List (Suggestion ν))).Gives env (Stores env) :=
    gives_pure ⟨by simp, fun _ _ hrow => hrow⟩
  induction strategies generalizing most env with
  | nil =>
      have hnil : engine.collect factors repository conflict most [] = return [] := by
        cases most <;> rfl
      exact hnil ▸ hnone env
  | cons head rest ih =>
      cases most with
      | zero => exact hnone env
      | succ room =>
          rw [collect_cons]
          cases head.answer conflict with
          | error error => exact gives_throw
          | ok answer =>
              cases answer with
              | none => exact ih (room + 1) env
              | some resolution =>
                  refine gives_bind (gives_keep _ env) fun first middle hfirst => ?_
                  exact gives_bind (ih room middle) fun others after hothers =>
                    gives_pure (hfirst.cons hothers)

theorem gives_generate (engine : Engine κ ν) (most : Nat) (env : Environment ν) :
    (engine.generate factors repository conflict most).Gives env (Stores env) := by
  refine gives_bind (gives_collect engine most _ env) fun kept after hkept => ?_
  exact gives_pure ⟨fun suggestion hmem => hkept.made suggestion (List.mem_mergeSort.mp hmem),
    hkept.kept⟩

end Engine

/-! ### A store that takes what is made -/

/-- Steps that make suggestions do not fail by themselves, and none of the ids to come is used. -/
structure Environment.TakesSuggestions (env : Environment ν) : Prop where
  isFaultless : env.faults .create = none
  isFree : ∃ rows, env.store.suggestions = some rows ∧
    ∀ n ≥ env.issued, Store.find? rows (env.ids n) = none
  injective : env.ids.Injective

namespace Engine

variable [Scalar ν] {engine : Engine κ ν} {factors : Factors ν → Json} {repository : String}
  {conflict : Conflict} {env : Environment ν} {draft : Draft ν}

theorem succeeds_keep (h : env.TakesSuggestions)
    (hordered : Scalar.isOrdered (Scalar.clampUnit draft.confidence)) :
    (keep draft).Succeeds env fun _ after =>
      after.failures = env.failures ∧ after.TakesSuggestions := by
  obtain ⟨rows, hrows, hfree⟩ := h.isFree
  have hcreate (time : Timestamp) :
      let made := Store.suggestionOf draft (env.ids env.issued) time
      env.store.create draft (env.ids env.issued) time =
        .ok (made, { env.store with suggestions := some (rows ++ [.ofSuggestion made]) }) := by
    simp [Store.create, Store.rows_eq_ok_iff.mpr hrows, bind, Except.bind, Store.suggestionOf, hordered,
      hfree env.issued le_rfl]
  -- The id that is given out is not one of those to come.
  have hlater (time : Timestamp) (n : Nat) (hn : env.issued + 1 ≤ n) :
      let made := Store.suggestionOf draft (env.ids env.issued) time
      Store.find? (rows ++ [.ofSuggestion made]) (env.ids n) = none := by
    intro made
    have hid : (Row.ofSuggestion made).id ≠ env.ids n := fun hsame =>
      (Nat.lt_of_succ_le hn).ne (h.injective hsame)
    rw [Store.find?, List.find?_append, ← Store.find?, hfree n (Nat.le_of_succ_le hn)]
    simp [hid]
  refine ensures_bind (ensures_freshId (ensures_bind (ensures_now ?_)))
  exact succeeds_onStore h.isFaultless (hcreate _)
    ⟨rfl, h.isFaultless, ⟨_, rfl, hlater _⟩, h.injective⟩

theorem ensures_collect_of_takes (most : Nat) (strategies : List Strategy) (h : env.TakesSuggestions)
    (hordered : ∀ strategy resolution, Scalar.isOrdered (Scalar.clampUnit
      (engine.draft factors repository conflict strategy resolution).confidence)) :
    Ensures (engine.collect factors repository conflict most strategies) env fun _ after =>
      after.failures = env.failures := by
  induction strategies generalizing most env with
  | nil => cases most <;> exact ensures_pure rfl
  | cons head rest ih =>
      cases most with
      | zero => exact ensures_pure rfl
      | succ room =>
          rw [collect_cons]
          cases head.answer conflict with
          | error error => exact ensures_throw rfl
          | ok answer =>
              cases answer with
              | none => exact ih (room + 1) h
              | some resolution =>
                  refine ensures_bind ((succeeds_keep h (hordered head resolution)).mono ?_)
                  rintro _ middle ⟨first, rfl, hfailures, hmiddle⟩
                  refine ensures_bind ((ih room hmiddle).mono ?_)
                  rintro (error | others) after hafter <;> exact hafter.trans hfailures

/-- While the store takes what is made, no step fails by which suggestions are made. -/
theorem failures_generate (engine : Engine κ ν) (most : Nat) (h : env.TakesSuggestions)
    (hordered : ∀ strategy resolution, Scalar.isOrdered (Scalar.clampUnit
      (engine.draft factors repository conflict strategy resolution).confidence)) :
    (engine.generate factors repository conflict most env).2.failures = env.failures := by
  change Ensures (engine.generate factors repository conflict most) env fun _ after =>
    after.failures = env.failures
  refine ensures_bind ((ensures_collect_of_takes most _ h hordered).mono ?_)
  rintro (error | kept) after hafter <;> exact hafter

end Engine

/-! ### What the standard strategies answer -/

namespace Strategy

variable {conflict : Conflict} {strategies : List Strategy} {strategy : Strategy}
  {resolution : Resolution} {most : Nat} {error : FixError}

theorem answer_eq_some_iff : strategy.answer conflict = .ok (some resolution) ↔
    strategy.attempt conflict = .resolved resolution := by
  unfold answer
  cases strategy.attempt conflict <;> simp

theorem mem_successes_iff : (strategy, resolution) ∈ successes conflict strategies ↔
    strategy ∈ strategies ∧ strategy.attempt conflict = .resolved resolution := by
  rw [← answer_eq_some_iff, successes, List.mem_filterMap]
  constructor
  · rintro ⟨other, hother, hanswer⟩
    cases hresult : other.answer conflict with
    | error error => simp [hresult, Except.toOption] at hanswer
    | ok answer =>
        cases answer with
        | none => simp [hresult, Except.toOption] at hanswer
        | some found =>
            obtain ⟨rfl, rfl⟩ : other = strategy ∧ found = resolution := by
              simpa [hresult, Except.toOption] using hanswer
            exact ⟨hother, hresult⟩
  · rintro ⟨hstrategy, hanswer⟩
    exact ⟨strategy, hstrategy, by simp [hanswer, Except.toOption]⟩

theorem resolves_or_declines (hstrategy : strategy ∈ standard) (conflict : Conflict) :
    (∃ resolution, strategy.attempt conflict = .resolved resolution) ∨
      ∃ reason, strategy.attempt conflict = .declined reason := by
  simp only [standard, List.mem_cons, List.not_mem_nil, or_false] at hstrategy
  obtain rfl | rfl | rfl | rfl := hstrategy
  · unfold trivialMerge
    dsimp only
    split
    · exact .inr ⟨_, rfl⟩
    · exact .inl ⟨_, rfl⟩
  · unfold structuralMerge
    dsimp only
    split
    · exact .inr ⟨_, rfl⟩
    split_ifs
    · exact .inr ⟨_, rfl⟩
    split
    · split
      · exact .inr ⟨_, rfl⟩
      · exact .inl ⟨_, rfl⟩
    · exact .inr ⟨_, rfl⟩
  · unfold concurrentEdit
    dsimp only
    split
    · exact .inr ⟨_, rfl⟩
    · exact .inl ⟨_, rfl⟩
  · exact .inl ⟨_, rfl⟩

theorem not_fails_standard : ¬Fails conflict most (Chain.standard.candidates conflict) error := by
  rintro ⟨before, strategy, ⟨⟨after, hsplit⟩, -, -⟩, herror⟩
  have hmem : strategy ∈ Chain.standard.candidates conflict := by simp [hsplit]
  unfold answer at herror
  obtain ⟨resolution, hresolved⟩ | ⟨reason, hdeclined⟩ :=
    resolves_or_declines (List.mem_of_mem_filter hmem) conflict
  · simp [hresolved] at herror
  · simp [hdeclined] at herror

theorem successes_standard_ne_nil : successes conflict (Chain.standard.candidates conflict) ≠ [] := by
  have hmem : fallback ∈ Chain.standard.candidates conflict :=
    List.mem_filter.mpr ⟨by simp [Chain.standard, standard], rfl⟩
  exact List.ne_nil_of_mem (mem_successes_iff.mpr ⟨hmem, rfl⟩)

end Strategy

/-! ### A conflict that is clean -/

/-- A text has blocks, all its marker lines are in them, and its lines end plainly. -/
structure Text.HasPlainBlocks (text : String) : Prop where
  endings : EndsPlainly text
  blocks : Block.ofText text ≠ []
  inside : ∀ line, Block.markerAt (pieces text.toList) line ≠ none →
    ∃ block ∈ Block.ofText text, block.covers line

theorem Text.HasPlainBlocks.countMarkers_ne_zero {text : String} (h : HasPlainBlocks text) :
    countMarkers text ≠ 0 := by
  have hlength := List.length_pos_iff.mpr h.blocks
  have hcount := Block.three_mul_length_le_countMarkers text
  omega

theorem Detector.analyze_of_plainBlocks [DecidableEq κ] {detector : Detector κ}
    (hreader : detector.reader.IsSupported) {snapshot : Snapshot}
    (hpath : Path.fault? snapshot.path = none) (hlanguage : Language.ofPath? snapshot.path = none)
    (hblocks : Block.ofText snapshot.text ≠ []) (earlier : List Detector.Request) (usesOutlines : Bool) :
    ∃ conflict,
      (detector.analyze snapshot usesOutlines (detector.cacheAfter earlier)).1 = .ok (some conflict) ∧
        conflict.path = snapshot.path ∧ conflict.text = snapshot.text ∧
          conflict.blocks = Block.ofText snapshot.text ∧ conflict.kind ≠ .structural := by
  obtain ⟨found, changes, hanalyze, hsame, htext, hread⟩ :=
    detector.analyze_of_blocks hpath hblocks usesOutlines (detector.cacheAfter earlier)
  have hcache := isSupported_cacheAfter hreader earlier
  have hdetected := (keeps_analyze hreader snapshot usesOutlines _ hcache).2 _ hanalyze
  refine ⟨_, hanalyze, hsame, htext, hread, fun hkind => ?_⟩
  obtain ⟨-, -, -, -, -, -, -, hknown⟩ := hdetected.structural hkind
  have hfile : (detector.classify found changes usesOutlines).path = snapshot.path := hsame
  rw [hfile, hlanguage] at hknown
  cases hknown

namespace Engine

variable [Scalar ν] {engine : Engine κ ν} {factors : Factors ν → Json} {repository : String}
  {conflict : Conflict} {most : Nat} {env later : Environment ν} {suggestion : Suggestion ν}

/-- A suggestion of a batch is what a strategy that was tried made of the conflict. -/
theorem exists_of_mem_batch (h : suggestion ∈ engine.batch factors repository conflict most env) :
    ∃ strategy ∈ engine.chain.candidates conflict, ∃ resolution id n,
      strategy.attempt conflict = .resolved resolution ∧ suggestion = Store.suggestionOf
        (engine.draft factors repository conflict strategy resolution) id (env.clock n) := by
  obtain ⟨n, hn, rfl⟩ := List.mem_mapIdx.mp h
  obtain ⟨hstrategy, hattempt⟩ := mem_successes_iff.mp (List.mem_of_mem_take (List.getElem_mem hn))
  exact ⟨_, hstrategy, _, _, _, hattempt, rfl⟩

theorem batch_ne_nil (hchain : engine.chain = .standard) (hmost : most ≠ 0) :
    engine.batch factors repository conflict most env ≠ [] := by
  intro hbatch
  have hfirst : (successes conflict (engine.chain.candidates conflict)).take most = [] := by
    simpa [batch, suggestionsOf] using hbatch
  rw [hchain] at hfirst
  exact successes_standard_ne_nil ((List.take_eq_nil_iff.mp hfirst).resolve_left hmost)

/-- A suggestion is what a strategy resolves a conflict to. It is found valid, with three marker lines at
least for each block, and applying it leaves its text. -/
structure GoesThrough (engine : Engine κ ν) (conflict : Conflict) (target : String)
    (env : Environment ν) (suggestion : Suggestion ν) : Prop where
  resolves : ∃ strategy ∈ standard, ∃ resolution, strategy.attempt conflict = .resolved resolution ∧
    suggestion.strategy = strategy.name ∧ suggestion.resolution = resolution.content
  isValid : ∃ present, 3 * (Block.ofText conflict.text).length ≤ present ∧
    (validate suggestion.id env).1 = .ok ⟨suggestion.id, true, present, none⟩
  applies : ∀ keepsBackup, (engine.apply suggestion.id ⟨false, keepsBackup⟩).Succeeds env
    fun application after => application.applied = true ∧ application.verification.markersLeft = 0 ∧
      after.disk.readText target = .ok suggestion.resolution

omit [Scalar ν] in
theorem passed_of_countMarkers {path before after : String} (hlanguage : Language.ofPath? path = none)
    (hnone : Text.countMarkers after = 0) : (Verification.of engine.reader path before after).passed := by
  simp [Verification.passed, Verification.of, hnone, Outline.Reader.isWellFormed?, hlanguage]

theorem goesThrough_of_row (hchain : engine.chain = .standard)
    (hblocks : conflict.blocks = Block.ofText conflict.text)
    (hplain : Text.HasPlainBlocks conflict.text) (hkind : conflict.kind ≠ .structural)
    (hpath : Path.fault? conflict.path = none) (hlanguage : Language.ofPath? conflict.path = none)
    (hmem : suggestion ∈ engine.batch factors repository conflict most env)
    (hrow : later.store.row? suggestion.id = some (.ofSuggestion suggestion))
    (hget : ∃ stored, later.store.get suggestion.id = .ok stored) (hfaultless : later.IsFaultless)
    (hfile : later.disk.HoldsAt repository conflict.path conflict.text) :
    engine.GoesThrough conflict (Path.join repository conflict.path) later suggestion := by
  obtain ⟨strategy, hcandidate, resolution, id, n, hattempt, rfl⟩ := exists_of_mem_batch hmem
  rw [hchain] at hcandidate
  obtain ⟨hstrategy, haccepts⟩ := List.mem_filter.mp hcandidate
  have hnone : Text.countMarkers resolution.content = 0 := countMarkers_of_attempt hblocks
    hplain.endings hplain.inside hstrategy hkind haccepts hattempt
  -- The suggestion is read back from its row, but for its marks it is the one that was kept.
  obtain ⟨found, hfound⟩ := hget
  obtain ⟨stored, hstored, rfl⟩ := map_eq_ok_iff.mp ((Store.get_eq_of_row? hrow).symm.trans hfound)
  have hholds := Row.holds_of_decode hstored
  have hresolution : stored.resolution = resolution.content := hholds.resolution
  have hvalid : Path.validate conflict.path = .ok () := by simp [Path.validate, hpath]
  obtain ⟨hresolve, directory, name, place, hreads, hlinks⟩ := hfile.readsAt hvalid
  have hfinds : later.Finds id stored (Path.join repository conflict.path) conflict.text := by
    refine ⟨hfaultless .load, hfound, hholds.isApplied, ?_, hfaultless .read, hreads.readText⟩
    rw [hholds.repository, hholds.path]
    exact hresolve
  have hpassed : (engine.verify stored conflict.text stored.resolution).passed := by
    refine passed_of_countMarkers ?_ (hresolution ▸ hnone)
    rw [hholds.path]
    exact hlanguage
  refine ⟨⟨strategy, hstrategy, resolution, hattempt, rfl, rfl⟩, ⟨Text.countMarkers conflict.text,
    Block.three_mul_length_le_countMarkers conflict.text, ?_⟩, fun keepsBackup => ?_⟩
  · have hpresent : Validity.of id (some conflict.text) =
        ⟨id, true, Text.countMarkers conflict.text, none⟩ := if_neg hplain.countMarkers_ne_zero
    exact (congrArg Prod.fst (validate_of_finds hfinds)).trans (congrArg Except.ok hpresent)
  · refine (succeeds_apply hfinds hfaultless hplain.countMarkers_ne_zero rfl hreads hlinks
      hpassed).mono ?_
    rintro _ after ⟨application, rfl, happlied, hverification, hread⟩
    refine ⟨application, rfl, happlied, ?_, hread.trans (congrArg Except.ok hresolution)⟩
    rw [hverification]
    exact hresolution ▸ hnone

/-- A text with plain blocks at a path without a grammar holds a conflict, and the standard strategies
make at least one suggestion for it. While the file can be read and written, each of them goes through. -/
theorem clean_goes_through [DecidableEq κ] (engine : Engine κ ν) (hchain : engine.chain = .standard)
    (factors : Factors ν → Json) (repository : String) {detector : Detector κ}
    (hreader : detector.reader.IsSupported) (earlier : List Detector.Request) {snapshot : Snapshot}
    (usesOutlines : Bool) (hpath : Path.fault? snapshot.path = none)
    (hlanguage : Language.ofPath? snapshot.path = none) (hplain : Text.HasPlainBlocks snapshot.text) :
    ∃ conflict,
      (detector.analyze snapshot usesOutlines (detector.cacheAfter earlier)).1 = .ok (some conflict) ∧
      conflict.text = snapshot.text ∧ ∀ (env : Environment ν) (most : Nat), 1 ≤ most →
        (engine.generate factors repository conflict most env).2.failures = env.failures →
          ∃ found, (engine.generate factors repository conflict most env).1 = .ok found ∧ found ≠ [] ∧
            ∀ later : Environment ν, later.IsFaultless →
              later.store = (engine.generate factors repository conflict most env).2.store →
              later.disk.HoldsAt repository snapshot.path snapshot.text →
              (∀ suggestion ∈ found, ∃ stored, later.store.get suggestion.id = .ok stored) →
                ∀ suggestion ∈ found, engine.GoesThrough conflict
                  (Path.join repository snapshot.path) later suggestion := by
  obtain ⟨conflict, hanalyze, hsame, htext, hblocks, hkind⟩ :=
    Detector.analyze_of_plainBlocks hreader hpath hlanguage hplain.blocks earlier usesOutlines
  refine ⟨conflict, hanalyze, htext, fun env most hmost hstore => ?_⟩
  rw [← hsame] at hpath hlanguage ⊢
  rw [← htext] at hblocks hplain ⊢
  obtain ⟨found, hfound, hranks, -⟩ :=
    exists_generate_eq_ok hstore fun _ => hchain ▸ not_fails_standard
  have hrows := gives_generate engine most env found hfound
  have hsome : found ≠ [] := by
    rintro rfl
    exact batch_ne_nil hchain (by omega) (List.nil_perm.mp hranks.perm)
  refine ⟨found, hfound, hsome, fun later hfaultless hkept hfile hget suggestion hmem => ?_⟩
  refine goesThrough_of_row hchain hblocks hplain hkind hpath hlanguage (hranks.perm.mem_iff.mp hmem)
    ?_ (hget suggestion hmem) hfaultless hfile
  rw [hkept]
  exact hrows.made suggestion hmem

/-- Where their metadata can be parsed and their times can be read, so can new suggestions. -/
theorem exists_get_of_generate (hchain : engine.chain = .standard)
    (hstore : (engine.generate factors repository conflict most env).2.failures = env.failures)
    (hmetadata : ∀ strategy ∈ Chain.standard.candidates conflict, ∀ measured,
      (Json.parse? (metadata conflict strategy (factors measured)).render).isSome)
    (hclock : ∀ n, (env.clock n).IsDated) {found : List (Suggestion ν)}
    (hfound : (engine.generate factors repository conflict most env).1 = .ok found)
    (hmem : suggestion ∈ found) :
    ∃ stored, (engine.generate factors repository conflict most env).2.store.get suggestion.id =
      .ok stored := by
  obtain ⟨made, hmade, hranks, -⟩ :=
    exists_generate_eq_ok hstore fun _ => hchain ▸ not_fails_standard
  obtain rfl := Except.ok.inj (hmade.symm.trans hfound)
  have hrow := (gives_generate engine most env made hmade).made suggestion hmem
  obtain ⟨strategy, hcandidate, resolution, id, n, -, rfl⟩ :=
    exists_of_mem_batch (hranks.perm.mem_iff.mp hmem)
  exact Store.exists_get_of_row? hrow (hmetadata strategy (hchain ▸ hcandidate) _) (hclock n)

/-! ### A conflict in a shell script -/

/-- A block with a base that is empty, a divider too many, and no line feed at its end. -/
def shellText : String := "<<<<<<<\r\na\r\n|||||||\r\n=======\r\n=======\r\n>>>>>>>"

def shellSnapshot : Snapshot := ⟨"f.sh", shellText, none, none, none⟩

def silentDetector : Detector String := ⟨silentReader, 5⟩

def shellConflict : Conflict where
  path := "f.sh"
  kind := .concurrentEdit
  severity := .medium
  blocks := [⟨1, 4, 6, "a\r\n", "=======\r\n", some ""⟩]
  analysis := none
  text := shellText
  ours := none
  theirs := none
  base := none

def shell : Environment Rat where
  disk := ⟨[(["r"], .directory), (["r", "f.sh"], .file (.text shellText) 0o644)], []⟩
  store := .ready
  clock _ := ⟨⟨2024, 1, 2⟩, 0, 0, 0, 0⟩
  readings := 0
  ids n := String.ofList (List.replicate n 'x')
  issued := 0
  faults _ := none
  trail := []

/-- After two suggestions were made for the conflict. -/
def shellLater : Environment Rat :=
  { shell with store := (plainEngine.generate (fun _ => .null) "r" shellConflict 2 shell).2.store }

theorem hasPlainBlocks_shellText : Text.HasPlainBlocks shellText where
  endings := by
    unfold Text.EndsPlainly
    decide +kernel
  blocks := by decide +kernel
  inside line hmarker := by
    have hlength : (Text.pieces shellText.toList).length = 6 := by decide +kernel
    have hbound : line < 7 := by
      by_contra hlarge
      exact hmarker (Block.markerAt_of_length_lt (by omega))
    have hall : ∀ line < 7, Block.markerAt (Text.pieces shellText.toList) line ≠ none →
        ∃ block ∈ Block.ofText shellText, block.covers line := by decide +kernel
    exact hall line hbound hmarker

theorem holdsAt_shell : shell.disk.HoldsAt "r" shellSnapshot.path shellSnapshot.text where
  file := by
    refine ⟨["r"], ["r", "f.sh"], 0o644, by cbv, ?_, by cbv⟩
    exact .down (by cbv) (by cbv) (by simp) (.arrived _)
  links _ _ := by
    have hsteps : Step.ofPath (Path.join "r" shellSnapshot.path) = [.down "r", .down "f.sh"] := by
      decide +kernel
    have hstart : shell.disk.start (Path.join "r" shellSnapshot.path) = [] := by decide +kernel
    rw [hsteps, hstart]
    exact ⟨_, .down (by cbv) (by cbv) (by simp) (.down (by cbv) (by cbv) (by simp) (.arrived _))⟩

theorem analyze_shellSnapshot :
    (silentDetector.analyze shellSnapshot false (silentDetector.cacheAfter [])).1 =
      .ok (some shellConflict) := by
  have hpath : Path.fault? shellSnapshot.path = none := by decide +kernel
  have hblocks : Block.ofText shellSnapshot.text = shellConflict.blocks := by decide +kernel
  simp only [Detector.analyze, hpath, hblocks]
  rfl

theorem isSome_parse?_metadata {strategy : Strategy}
    (h : strategy ∈ Chain.standard.candidates shellConflict) :
    (Json.parse? (metadata shellConflict strategy .null).render).isSome := by
  have hcandidates : Chain.standard.candidates shellConflict = [concurrentEdit, fallback] := rfl
  have hconcurrent : concurrentEdit.risks shellConflict =
      ["Incoming changes are preserved as comments only and are not applied",
        "Review banners and commented code must be removed after review"] := rfl
  have hfallback : fallback.risks shellConflict =
      ["Incoming changes in 1 conflict block are discarded",
        "Conflict classified CONCURRENT_EDIT; automatic resolution was not possible"] := rfl
  rw [hcandidates, List.mem_cons, List.mem_singleton] at h
  obtain rfl | rfl := h
  -- The texts are put together as lists, since reading a text takes the kernel longer than its length.
  all_goals
    simp only [metadata, hconcurrent, hfallback, Json.render, Json.renderFields, Json.renderItems,
      Json.list, Json.nat, Json.parse?, List.map_cons, List.map_nil, String.toList_append,
      Json.toList_quote]
    decide +kernel

theorem isDated_shell (n : Nat) : (shell.clock n).IsDated := by
  change Timestamp.IsDated ⟨⟨2024, 1, 2⟩, 0, 0, 0, 0⟩
  exact ⟨by decide, by decide, by decide, by decide, by decide, by simp⟩

theorem failures_generate_shell :
    (plainEngine.generate (fun _ => .null) "r" shellConflict 2 shell).2.failures = [] := by
  refine failures_generate plainEngine 2 ⟨rfl, ⟨[], rfl, fun _ _ => rfl⟩, fun n m hsame => ?_⟩
    fun _ _ => Scalar.isOrdered_rat _
  have hlength := congrArg (List.length ∘ String.toList) hsame
  simpa [shell] using hlength

/-- Both sides are kept by one suggestion and ours by the other, and both go through. -/
theorem clean_goes_through_shell :
    plainEngine.chain = .standard ∧ silentDetector.reader.IsSupported ∧
    Path.fault? shellSnapshot.path = none ∧ Language.ofPath? shellSnapshot.path = none ∧
    Text.HasPlainBlocks shellSnapshot.text ∧
    (plainEngine.generate (fun _ => .null) "r" shellConflict 2 shell).2.failures = [] ∧
    shellLater.IsFaultless ∧ shellLater.disk.HoldsAt "r" shellSnapshot.path shellSnapshot.text ∧
    ∃ found, (plainEngine.generate (fun _ => .null) "r" shellConflict 2 shell).1 = .ok found ∧
      found ≠ [] ∧ ∀ suggestion ∈ found,
        (∃ stored, shellLater.store.get suggestion.id = .ok stored) ∧
          plainEngine.GoesThrough shellConflict (Path.join "r" shellSnapshot.path) shellLater
            suggestion := by
  have hreader : silentDetector.reader.IsSupported := fun _ _ _ => rfl
  have hpath : Path.fault? shellSnapshot.path = none := by decide +kernel
  have hlanguage : Language.ofPath? shellSnapshot.path = none := by decide +kernel
  have hkept : shellLater.store =
      (plainEngine.generate (fun _ => .null) "r" shellConflict 2 shell).2.store := by
    simp only [shellLater]
  have hfaultless : shellLater.IsFaultless := fun _ => rfl
  have hdisk : shellLater.disk = shell.disk := rfl
  have hfile : shellLater.disk.HoldsAt "r" shellSnapshot.path shellSnapshot.text :=
    hdisk ▸ holdsAt_shell
  obtain ⟨conflict, hanalyze, -, hgoes⟩ := clean_goes_through plainEngine rfl (fun _ => .null) "r"
    hreader [] false hpath hlanguage hasPlainBlocks_shellText
  have hsame : some shellConflict = some conflict :=
    Except.ok.inj (analyze_shellSnapshot.symm.trans hanalyze)
  obtain rfl := Option.some.inj hsame
  obtain ⟨found, hfound, hsome, hlater⟩ := hgoes shell 2 (by decide) failures_generate_shell
  have hget : ∀ suggestion ∈ found, ∃ stored, shellLater.store.get suggestion.id = .ok stored := by
    rw [hkept]
    exact fun suggestion => exists_get_of_generate rfl failures_generate_shell
      (fun _ hcandidate _ => isSome_parse?_metadata hcandidate) isDated_shell hfound
  refine ⟨rfl, hreader, hpath, hlanguage, hasPlainBlocks_shellText, failures_generate_shell,
    hfaultless, hfile, found, hfound, hsome, fun suggestion hmem => ⟨hget suggestion hmem, ?_⟩⟩
  exact hlater shellLater hfaultless hkept hfile hget suggestion hmem

end Engine

end Reconcile
