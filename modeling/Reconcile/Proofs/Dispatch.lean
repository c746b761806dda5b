import Mathlib
import Reconcile.Proofs.Incoming
import Reconcile.Proofs.RoundTrip
import Reconcile.Resolution.Chain
import Reconcile.Source.Reading

/-!
# The strategy for each kind of conflict

A detector tells the kind of a conflict, and a chain tries strategies that accept that kind. What the
detector finds out before it settles on a kind is what the strategy for that kind checks once more, so
that strategy does not decline. For structural conflicts this rests on outlines being read only in files
whose language is known, and such files have comments. Outlines from the cache are no exception, since
they were read at some time before.
-/

namespace Reconcile

/-! ### A chain -/

/-- A strategy leaves a conflict to others, as it is not meant for it or declines. -/
def Strategy.PassesOn (strategy : Strategy) (conflict : Conflict) : Prop :=
  strategy.accepts conflict → ∃ reason, strategy.attempt conflict = .declined reason

namespace Chain

variable {chain : Chain} {conflict : Conflict} {strategy : Strategy} {before after : List Strategy}
  {resolution : Resolution}

theorem tryAll_filter_append (h : ∀ strategy ∈ before, strategy.PassesOn conflict) :
    tryAll conflict ((before ++ after).filter (·.accepts conflict)) =
      tryAll conflict (after.filter (·.accepts conflict)) := by
  induction before with
  | nil => rfl
  | cons strategy before ih =>
      rw [List.forall_mem_cons] at h
      rw [List.cons_append, List.filter_cons]
      split_ifs with haccepts
      · obtain ⟨reason, hdeclined⟩ := h.1 haccepts
        rw [tryAll, hdeclined]
        exact ih h.2
      · exact ih h.2

/-- The first strategy that does not pass the conflict on gives the result. -/
theorem resolve_eq_resolved (hchain : chain.strategies = before ++ strategy :: after)
    (hbefore : ∀ other ∈ before, other.PassesOn conflict) (haccepts : strategy.accepts conflict)
    (hattempt : strategy.attempt conflict = .resolved resolution) :
    chain.resolve conflict = .resolved resolution := by
  rw [resolve, candidates, hchain, tryAll_filter_append hbefore, List.filter_cons, if_pos haccepts, tryAll,
    hattempt]

end Chain

/-! ### Where outlines come from -/

namespace Outline

variable {κ : Type} {reader : Reader κ} {cache : Cache κ} {inv : Cache κ → Prop} {path content : String}

/-- A computation keeps what holds of a cache, and its result is as described. -/
def Keeps {α : Type} (inv : Cache κ → Prop) (run : StateM (Cache κ) α) (post : α → Prop) : Prop :=
  ∀ cache, inv cache → inv (run cache).2 ∧ post (run cache).1

theorem keeps_pure {α : Type} {post : α → Prop} {a : α} (h : post a) :
    Keeps inv (pure a : StateM (Cache κ) α) post :=
  fun _ hcache => ⟨hcache, h⟩

theorem keeps_bind {α β : Type} {run : StateM (Cache κ) α} {next : α → StateM (Cache κ) β}
    {mid : α → Prop} {post : β → Prop} (hrun : Keeps inv run mid)
    (hnext : ∀ a, mid a → Keeps inv (next a) post) : Keeps inv (run >>= next) post := by
  intro cache hcache
  obtain ⟨hkept, hmid⟩ := hrun cache hcache
  exact hnext _ hmid _ hkept

/-- Outlines are read only in files whose language is known. -/
def Reader.IsSupported (reader : Reader κ) : Prop :=
  ∀ path content, Language.ofPath? path = none → reader.read? path content = none

theorem isSupported_reader {ν : Type} (settings : Settings ν) : settings.reader.IsSupported := by
  intro path content hnone
  change Outline.read? path content = none
  rw [Outline.read?, hnone]
  rfl

def Cache.IsSupported (cache : Cache κ) : Prop :=
  ∀ entry ∈ cache.entries, (Language.ofPath? entry.path).isSome

namespace Cache.IsSupported

theorem empty : (Cache.empty : Cache κ).IsSupported :=
  fun _ hentry => absurd hentry List.not_mem_nil

theorem erase (h : cache.IsSupported) (path : String) : (cache.erase path).IsSupported :=
  fun entry hentry => h entry (List.mem_of_mem_filter hentry)

theorem insert (h : cache.IsSupported) (hpath : (Language.ofPath? path).isSome) (stamp : κ)
    (outline : Outline) : (cache.insert path stamp outline).IsSupported := by
  intro entry hentry
  obtain rfl | hmem := List.mem_cons.mp hentry
  · exact hpath
  · exact h.erase path entry hmem

theorem find? {entry : Entry κ} (h : cache.IsSupported) (hfind : cache.find? path = some entry) :
    (Language.ofPath? path).isSome := by
  have hpath : entry.path = path := by simpa using List.find?_some hfind
  rw [← hpath]
  exact h entry (List.mem_of_find?_eq_some hfind)

end Cache.IsSupported

theorem Reader.IsSupported.isSome (h : reader.IsSupported) {outline : Outline}
    (hread : reader.read? path content = some outline) : (Language.ofPath? path).isSome := by
  rw [Option.isSome_iff_ne_none]
  intro hnone
  rw [h path content hnone] at hread
  cases hread

variable [DecidableEq κ]

theorem isSupported_get? (h : cache.IsSupported) (path : String) (stamp : κ) :
    (cache.get? path stamp).2.IsSupported ∧
      ((cache.get? path stamp).1.isSome → (Language.ofPath? path).isSome) := by
  unfold Cache.get?
  cases hfind : cache.find? path with
  | none => exact ⟨h, by simp⟩
  | some entry =>
      dsimp only
      split_ifs
      · exact ⟨h, fun _ => h.find? hfind⟩
      · exact ⟨h.erase path, by simp⟩

/-- A file that an outline is had of is in a known language, also where the outline was kept. -/
theorem keeps_cached? (hreader : reader.IsSupported) (path content : String) :
    Keeps Cache.IsSupported (reader.cached? path content) fun outline =>
      outline.isSome → (Language.ofPath? path).isSome := by
  intro cache hcache
  unfold Reader.cached?
  split_ifs
  · cases hget : cache.get? path (reader.stamp content) with
    | mk hit kept =>
        have hsupported := isSupported_get? hcache path (reader.stamp content)
        rw [hget] at hsupported
        obtain ⟨hkept, hhit⟩ := hsupported
        simp only [hget]
        cases hit with
        | some outline => exact ⟨hkept, hhit⟩
        | none =>
            cases hread : reader.read? path content with
            | none => exact ⟨hkept, by simp⟩
            | some outline =>
                have hpath := hreader.isSome hread
                exact ⟨hkept.insert hpath _ outline, fun _ => hpath⟩
  · exact ⟨hcache, by simp⟩

end Outline

/-! ### What a detector finds out -/

namespace Conflict

variable {κ : Type} {conflict : Conflict} {changes : Option Changes}

/-- What holds of a conflict on account of the kind that was told. -/
structure IsDetected (conflict : Conflict) : Prop where
  trivial : conflict.kind = .trivial → ∀ block ∈ conflict.blocks, block.isLayoutOnly
  structural : conflict.kind = .structural → ∃ changes ours theirs,
    conflict.changes? = some changes ∧ changes.modified = [] ∧ conflict.ours = some ours ∧
      conflict.theirs = some theirs ∧ (Language.ofPath? conflict.path).isSome

/-- Changes are known only where both versions are, and in a known language. -/
def Supports (conflict : Conflict) (changes : Option Changes) : Prop :=
  changes.isSome → conflict.ours.isSome ∧ conflict.theirs.isSome ∧ (Language.ofPath? conflict.path).isSome

theorem isLayoutOnly_of_classify {blocks : List Block} {usesOutlines : Bool}
    (h : ConflictKind.classify blocks changes usesOutlines = .trivial) :
    ∀ block ∈ blocks, block.isLayoutOnly := by
  unfold ConflictKind.classify at h
  split_ifs at h with hlayout
  exact List.all_eq_true.mp hlayout

theorem exists_changes_of_classify {blocks : List Block} {usesOutlines : Bool}
    (h : ConflictKind.classify blocks changes usesOutlines = .structural) :
    ∃ c, changes = some c ∧ c.modified = [] := by
  unfold ConflictKind.classify at h
  split_ifs at h with hlayout hadditive
  obtain ⟨c, hc, hall⟩ := (Option.any_eq_true _ _).mp hadditive
  simp only [Bool.and_eq_true, Changes.isAdditive, List.isEmpty_iff] at hall
  exact ⟨c, hc, hall.2.1⟩

theorem isDetected_classify (detector : Detector κ) (usesOutlines : Bool)
    (h : conflict.Supports changes) : (detector.classify conflict changes usesOutlines).IsDetected where
  trivial := isLayoutOnly_of_classify
  structural hkind := by
    obtain ⟨c, rfl, hmodified⟩ := exists_changes_of_classify hkind
    obtain ⟨hours, htheirs, hlanguage⟩ := h rfl
    obtain ⟨ours, hours⟩ := Option.isSome_iff_exists.mp hours
    obtain ⟨theirs, htheirs⟩ := Option.isSome_iff_exists.mp htheirs
    exact ⟨c, ours, theirs, rfl, hmodified, hours, htheirs, hlanguage⟩

end Conflict

namespace Detector

open Outline

variable {κ : Type} [DecidableEq κ] {detector : Detector κ}

theorem keeps_changes? (hreader : detector.reader.IsSupported) (path ours theirs : String)
    (base : Option String) : Keeps Cache.IsSupported (detector.changes? path ours theirs base) fun changes =>
      changes.isSome → (Language.ofPath? path).isSome := by
  unfold changes?
  refine keeps_bind (keeps_cached? hreader path ours) fun first hfirst => ?_
  cases first with
  | none => exact keeps_pure (by simp)
  | some first =>
      refine keeps_bind (keeps_cached? hreader path theirs) fun second _ => ?_
      cases second with
      | none => exact keeps_pure (by simp)
      | some second =>
          cases base with
          | none => exact keeps_pure fun _ => hfirst rfl
          | some base =>
              refine keeps_bind (keeps_cached? hreader path base) fun former _ => ?_
              cases former with
              | none => exact keeps_pure (by simp)
              | some former => exact keeps_pure fun _ => hfirst rfl

theorem path_of_ofBlocks? {path text : String} {blocks : List Block} {conflict : Conflict}
    (h : Conflict.ofBlocks? path text blocks = some conflict) : conflict.path = path := by
  unfold Conflict.ofBlocks? at h
  split_ifs at h
  cases h
  rfl

theorem keeps_analyze (hreader : detector.reader.IsSupported) (snapshot : Snapshot) (usesOutlines : Bool) :
    Keeps Cache.IsSupported (detector.analyze snapshot usesOutlines) fun result =>
      ∀ conflict, result = .ok (some conflict) → conflict.IsDetected := by
  unfold analyze
  cases Path.fault? snapshot.path with
  | some fault => exact keeps_pure (by simp)
  | none =>
      cases hfound : Conflict.ofBlocks? snapshot.path snapshot.text (Block.ofText snapshot.text) with
      | none => exact keeps_pure (by simp)
      | some found =>
          have hdetected (changes : Option Changes) (hchanges : changes.isSome → snapshot.ours.isSome ∧
              snapshot.theirs.isSome ∧ (Language.ofPath? snapshot.path).isSome) :
              (detector.classify { found with
                ours := snapshot.ours, theirs := snapshot.theirs, base := snapshot.base }
                changes usesOutlines).IsDetected := by
            refine Conflict.isDetected_classify detector usesOutlines fun hsome => ?_
            dsimp only
            rw [path_of_ofBlocks? hfound]
            exact hchanges hsome
          dsimp only
          -- Changes are asked for only where both versions are there.
          split
          · rename_i ours theirs hours htheirs
            refine keeps_bind (keeps_changes? hreader snapshot.path ours theirs snapshot.base)
              fun changes hlanguage => keeps_pure fun conflict hconflict => ?_
            cases hconflict
            exact hdetected changes fun hsome => ⟨by simp [hours], by simp [htheirs], hlanguage hsome⟩
          · refine keeps_pure fun conflict hconflict => ?_
            cases hconflict
            exact hdetected none (by simp)

/-- What a detector may be asked for. -/
inductive Request where
  | conflict (snapshot : Snapshot) (usesOutlines : Bool)
  | changes (path ours theirs : String) (base : Option String)

def serve (detector : Detector κ) (cache : Cache κ) : Request → Cache κ
  | .conflict snapshot usesOutlines => (detector.analyze snapshot usesOutlines cache).2
  | .changes path ours theirs base => (detector.changes? path ours theirs base cache).2

/-- The cache of a detector that was asked for some things, one after another. -/
def cacheAfter (detector : Detector κ) (earlier : List Request) : Cache κ :=
  earlier.foldl detector.serve .empty

theorem isSupported_serve (hreader : detector.reader.IsSupported) {cache : Cache κ}
    (hcache : cache.IsSupported) (request : Request) : (detector.serve cache request).IsSupported := by
  cases request with
  | conflict snapshot usesOutlines => exact (keeps_analyze hreader snapshot usesOutlines cache hcache).1
  | changes path ours theirs base => exact (keeps_changes? hreader path ours theirs base cache hcache).1

theorem isSupported_cacheAfter (hreader : detector.reader.IsSupported) (earlier : List Request) :
    (detector.cacheAfter earlier).IsSupported := by
  induction earlier using List.reverseRecOn with
  | nil => exact Cache.IsSupported.empty
  | append_singleton earlier request ih =>
      rw [cacheAfter, List.foldl_append]
      exact isSupported_serve hreader ih request

end Detector

/-! ### The strategy of a kind -/

namespace Strategy

variable {conflict : Conflict}

/-- The strategy for edits of the same lines, which is not the same where nothing can be commented out. -/
def forEdits (path : String) : Strategy :=
  if (CommentStyle.ofPath? path).isSome then concurrentEdit else fallback

theorem attempt_structuralMerge {changes : Changes} {style : CommentStyle} {ours theirs : String}
    (hchanges : conflict.changes? = some changes) (hmodified : changes.modified = [])
    (hours : conflict.ours = some ours) (htheirs : conflict.theirs = some theirs)
    (hstyle : CommentStyle.ofPath? conflict.path = some style) :
    ∃ explanation, structuralMerge.attempt conflict =
      .resolved ⟨appendFiles style ours theirs, "StructuralMerge", explanation⟩ := by
  simp only [structuralMerge, hchanges, hmodified, hours, htheirs, hstyle]
  exact ⟨_, rfl⟩

theorem attempt_forEdits (hkind : conflict.kind = .concurrentEdit ∨ conflict.kind = .semantic) :
    (forEdits conflict.path).accepts conflict ∧ ∃ resolution,
      (forEdits conflict.path).attempt conflict = .resolved resolution ∧
        resolution.strategy = (forEdits conflict.path).name := by
  unfold forEdits
  split_ifs with hsome
  · obtain ⟨style, hstyle⟩ := Option.isSome_iff_exists.mp hsome
    obtain ⟨explanation, hattempt⟩ := attempt_concurrentEdit hstyle
    exact ⟨by simpa [concurrentEdit] using hkind, _, hattempt, rfl⟩
  · exact ⟨rfl, _, rfl, rfl⟩

theorem passesOn_trivialMerge (hkind : conflict.kind ≠ .trivial) : trivialMerge.PassesOn conflict :=
  fun haccepts => absurd (of_decide_eq_true haccepts) hkind

theorem passesOn_structuralMerge (hkind : conflict.kind ≠ .structural) :
    structuralMerge.PassesOn conflict := by
  intro haccepts
  simp [structuralMerge, hkind] at haccepts

theorem passesOn_concurrentEdit (hkind : conflict.kind = .concurrentEdit ∨ conflict.kind = .semantic →
    CommentStyle.ofPath? conflict.path = none) : concurrentEdit.PassesOn conflict := by
  intro haccepts
  have hstyle : CommentStyle.ofPath? conflict.path = none :=
    hkind (by simpa [concurrentEdit] using haccepts)
  simp only [concurrentEdit, hstyle]
  exact ⟨_, rfl⟩

theorem passesOn_before_forEdits (hkind : conflict.kind = .concurrentEdit ∨ conflict.kind = .semantic) :
    ∃ before after, standard = before ++ forEdits conflict.path :: after ∧
      ∀ other ∈ before, other.PassesOn conflict := by
  have htrivial : trivialMerge.PassesOn conflict :=
    passesOn_trivialMerge (by obtain hkind | hkind := hkind <;> simp [hkind])
  have hstructural : structuralMerge.PassesOn conflict :=
    passesOn_structuralMerge (by obtain hkind | hkind := hkind <;> simp [hkind])
  unfold forEdits
  split_ifs with hsome
  · exact ⟨[trivialMerge, structuralMerge], _, rfl, by simp [htrivial, hstructural]⟩
  · have hedit : concurrentEdit.PassesOn conflict :=
      passesOn_concurrentEdit fun _ => Option.not_isSome_iff_eq_none.mp hsome
    exact ⟨[trivialMerge, structuralMerge, concurrentEdit], _, rfl, by simp [htrivial, hstructural, hedit]⟩

end Strategy

namespace Conflict

open Strategy

variable {conflict : Conflict}

/-- The strategy for a conflict, by its kind. -/
def strategy (conflict : Conflict) : Strategy :=
  match conflict.kind with
  | .trivial => trivialMerge
  | .structural => structuralMerge
  | .semantic | .concurrentEdit => forEdits conflict.path
  | .unknown => fallback

theorem isSome_ofPath?_of_language {path : String} (h : (Language.ofPath? path).isSome) :
    (CommentStyle.ofPath? path).isSome := by
  obtain ⟨language, hlanguage⟩ := Option.isSome_iff_exists.mp h
  simp [CommentStyle.ofPath?, hlanguage]

/-- The strategy for a detected conflict accepts it and does not decline. -/
theorem IsDetected.attempt_strategy (h : conflict.IsDetected) :
    conflict.strategy.accepts conflict ∧ ∃ resolution,
      conflict.strategy.attempt conflict = .resolved resolution ∧
        resolution.strategy = conflict.strategy.name := by
  unfold strategy
  cases hkind : conflict.kind with
  | trivial =>
      obtain ⟨explanation, hattempt⟩ := attempt_trivialMerge (h.trivial hkind)
      exact ⟨decide_eq_true hkind, _, hattempt, rfl⟩
  | structural =>
      obtain ⟨changes, ours, theirs, hchanges, hmodified, hours, htheirs, hlanguage⟩ := h.structural hkind
      obtain ⟨style, hstyle⟩ := Option.isSome_iff_exists.mp (isSome_ofPath?_of_language hlanguage)
      obtain ⟨explanation, hattempt⟩ := attempt_structuralMerge hchanges hmodified hours htheirs hstyle
      exact ⟨by simp [structuralMerge, hkind, hchanges], _, hattempt, rfl⟩
  | semantic => exact attempt_forEdits (.inr hkind)
  | concurrentEdit => exact attempt_forEdits (.inl hkind)
  | unknown => exact ⟨rfl, _, rfl, rfl⟩

/-- No strategy that is tried before it resolves the conflict, whether detected or not. -/
theorem passesOn_before_strategy (conflict : Conflict) :
    ∃ before after, standard = before ++ conflict.strategy :: after ∧
      ∀ other ∈ before, other.PassesOn conflict := by
  unfold strategy
  cases hkind : conflict.kind with
  | trivial => exact ⟨[], _, rfl, by simp⟩
  | structural =>
      have htrivial : trivialMerge.PassesOn conflict := passesOn_trivialMerge (by simp [hkind])
      exact ⟨[trivialMerge], _, rfl, by simp [htrivial]⟩
  | semantic => exact passesOn_before_forEdits (.inr hkind)
  | concurrentEdit => exact passesOn_before_forEdits (.inl hkind)
  | unknown =>
      have htrivial : trivialMerge.PassesOn conflict := passesOn_trivialMerge (by simp [hkind])
      have hstructural : structuralMerge.PassesOn conflict := passesOn_structuralMerge (by simp [hkind])
      have hedit : concurrentEdit.PassesOn conflict := passesOn_concurrentEdit (by simp [hkind])
      exact ⟨[trivialMerge, structuralMerge, concurrentEdit], _, rfl, by simp [htrivial, hstructural, hedit]⟩

end Conflict

namespace Detector

open Outline

variable {κ : Type} [DecidableEq κ]

/-- The standard chain resolves what a detector finds, with the strategy that is meant for its kind. -/
theorem resolve_of_analyze (detector : Detector κ) (hreader : detector.reader.IsSupported)
    (earlier : List Request) (snapshot : Snapshot) (usesOutlines : Bool) {conflict : Conflict}
    (h : (detector.analyze snapshot usesOutlines (detector.cacheAfter earlier)).1 = .ok (some conflict)) :
    conflict.strategy.accepts conflict ∧ ∃ resolution,
      conflict.strategy.attempt conflict = .resolved resolution ∧
        resolution.strategy = conflict.strategy.name ∧
          Chain.standard.resolve conflict = .resolved resolution := by
  have hcache : (detector.cacheAfter earlier).IsSupported := isSupported_cacheAfter hreader earlier
  have hdetected : conflict.IsDetected :=
    (keeps_analyze hreader snapshot usesOutlines _ hcache).2 conflict h
  obtain ⟨haccepts, resolution, hattempt, hname⟩ := hdetected.attempt_strategy
  obtain ⟨before, after, hstandard, hbefore⟩ := conflict.passesOn_before_strategy
  exact ⟨haccepts, resolution, hattempt, hname,
    Chain.resolve_eq_resolved hstandard hbefore haccepts hattempt⟩

/-- Reads modules that are empty or have one of two imports. -/
def importDetector : Detector String where
  reader := ⟨Digest.ofText, fun path content =>
    if Language.ofPath? path ≠ some .python then none
    else if content = "" then some ⟨.python, []⟩
    else if content = "import a\n" then some ⟨.python, [⟨.imported, some "a", ⟨1, 1⟩,
      "cc05129a336fe26204ea41b18aed8c81e0b7653316110a89efcd6eee0abab561"⟩]⟩
    else if content = "import b\n" then some ⟨.python, [⟨.imported, some "b", ⟨1, 1⟩,
      "07bd536ba15bfea61cd7e7a574993f4c0cbad7abcf0c7de6be03ddfd0ccda300"⟩]⟩
    else none, true⟩
  threshold := 5

theorem isSupported_importDetector : importDetector.reader.IsSupported := by
  intro path content hnone
  simp [importDetector, hnone]

def twoImports : Snapshot where
  path := "m.py"
  text := "<<<<<<<\nimport a\n=======\nimport b\n>>>>>>>\n"
  base := some ""
  ours := some "import a\n"
  theirs := some "import b\n"

def importConflict : Conflict where
  path := "m.py"
  kind := .structural
  severity := .low
  blocks := [⟨1, 3, 5, "import a\n", "import b\n", none⟩]
  analysis := some ⟨some ⟨[⟨.imported, some "a", some ⟨1, 1⟩⟩, ⟨.imported, some "b", some ⟨1, 1⟩⟩], [], [],
    true, false⟩, "2 added, 0 removed, 0 modified top-level declarations (imports changed)"⟩
  text := twoImports.text
  ours := some "import a\n"
  theirs := some "import b\n"
  base := some ""

theorem resolve_of_analyze_imports :
    (importDetector.analyze twoImports true (importDetector.cacheAfter [.conflict twoImports true])).1 =
        .ok (some importConflict) ∧
      ∃ resolution, Strategy.structuralMerge.attempt importConflict = .resolved resolution ∧
        resolution.strategy = "StructuralMerge" ∧
          Chain.standard.resolve importConflict = .resolved resolution := by
  have hanalyze : (importDetector.analyze twoImports true
      (importDetector.cacheAfter [.conflict twoImports true])).1 = .ok (some importConflict) := by
    decide +kernel
  obtain ⟨-, resolved⟩ := resolve_of_analyze importDetector isSupported_importDetector
    [.conflict twoImports true] twoImports true hanalyze
  exact ⟨hanalyze, resolved⟩

end Detector

end Reconcile
