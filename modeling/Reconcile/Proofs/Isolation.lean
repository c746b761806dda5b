import Mathlib
import Reconcile.Proofs.Caching
import Reconcile.Proofs.Dispatch

/-!
# Files looked at by themselves

A detector carries its cache from file to file and from report to report. An outline from the cache is
the one that is read without it, so what is found in a file does not depend on what was looked at before.
A report therefore has the conflicts that the files have each by itself, and in another order of the files
it has the same ones and the same counts.
-/

namespace Reconcile

/-! ### Results that do not depend on the cache -/

namespace Outline

variable {κ α β : Type} {reader : Reader κ} {inv : Cache κ → Prop} {known : List String}

/-- The entries of a cache come of reading some of the texts. -/
def Reader.KnowsOnly (reader : Reader κ) (known : List String) (cache : Cache κ) : Prop :=
  ∃ queries, texts queries ⊆ known ∧ reader.Reflects cache queries

theorem knowsOnly_empty (reader : Reader κ) (known : List String) : reader.KnowsOnly known .empty :=
  ⟨[], List.nil_subset _, reader.reflects_empty⟩

/-- A computation keeps what holds of a cache, and has one result for all such caches. -/
def Settles (inv : Cache κ → Prop) (run : StateM (Cache κ) α) : Prop :=
  ∃ a, Keeps inv run (· = a)

theorem settles_pure (a : α) : Settles inv (pure a : StateM (Cache κ) α) :=
  ⟨a, keeps_pure rfl⟩

theorem settles_bind {run : StateM (Cache κ) α} {next : α → StateM (Cache κ) β}
    (hrun : Settles inv run) (hnext : ∀ a, Settles inv (next a)) : Settles inv (run >>= next) := by
  obtain ⟨a, ha⟩ := hrun
  obtain ⟨b, hb⟩ := hnext a
  refine ⟨b, keeps_bind ha fun found hfound => ?_⟩
  rwa [hfound]

theorem Settles.keeps {run : StateM (Cache κ) α} (h : Settles inv run) (hempty : inv .empty) :
    Keeps inv run (· = (run .empty).1) := by
  obtain ⟨a, ha⟩ := h
  have hsame : (run .empty).1 = a := (ha .empty hempty).2
  rwa [hsame]

theorem settles_cached? [DecidableEq κ] (htexts : reader.TellsApart known) (path : String)
    {content : String} (hcontent : content ∈ known) :
    Settles (reader.KnowsOnly known) (reader.cached? path content) := by
  refine ⟨reader.fresh? path content, ?_⟩
  rintro cache ⟨queries, hsub, hreflects⟩
  have hread : texts (queries ++ [.read path content]) ⊆ known := by
    rw [texts_append]
    exact List.append_subset.mpr ⟨hsub, by simpa [texts, Query.content?] using hcontent⟩
  obtain ⟨hresult, hkept⟩ := Reader.reflects_read hreflects (htexts.mono (texts_append .. ▸ hread))
  exact ⟨⟨_, hread, hkept⟩, hresult⟩

end Outline

/-- The versions of a file that are known. -/
def Snapshot.versions (snapshot : Snapshot) : List String :=
  snapshot.base.toList ++ snapshot.ours.toList ++ snapshot.theirs.toList

theorem Snapshot.served_eq_map (snapshots : List Snapshot) (withVersions : Bool) :
    served snapshots withVersions =
      snapshots.map fun snapshot => if withVersions then snapshot else snapshot.bare := by
  cases withVersions <;> simp [served]

theorem Snapshot.versions_served_subset (snapshots : List Snapshot) (withVersions : Bool) :
    (served snapshots withVersions).flatMap versions ⊆ snapshots.flatMap versions := by
  cases withVersions with
  | true => exact List.Subset.refl _
  | false =>
      intro text htext
      simp [served, bare, versions] at htext

/-! ### Counts -/

theorem sum_countP_eq_length {α κ : Type} [DecidableEq κ] (key : α → κ) {keys : List κ}
    (hnodup : keys.Nodup) (hkeys : ∀ k, k ∈ keys) (items : List α) :
    (keys.map fun k => items.countP (key · = k)).sum = items.length := by
  have hcount (k : κ) : items.countP (key · = k) = Multiset.count k (items.map key : List κ) := by
    rw [Multiset.coe_count, List.count_eq_countP, List.countP_map]
    exact List.countP_congr fun item _ => by simp
  calc (keys.map fun k => items.countP (key · = k)).sum
      = (keys.map fun k => Multiset.count k (items.map key : List κ)).sum := by simp only [hcount]
    _ = ∑ k ∈ keys.toFinset, Multiset.count k (items.map key : List κ) :=
        (List.sum_toFinset _ hnodup).symm
    _ = Multiset.card ((items.map key : List κ) : Multiset κ) :=
        Multiset.sum_count_eq_card fun k _ => List.mem_toFinset.mpr (hkeys k)
    _ = items.length := by simp

namespace Summary

@[simp]
theorem getD_nonzero (n : Nat) : (nonzero n).getD 0 = n := by
  unfold nonzero
  split_ifs with hzero
  · exact hzero.symm
  · rfl

theorem ofConflicts_perm {conflicts others : List Conflict} (h : conflicts.Perm others) :
    ofConflicts conflicts = ofConflicts others := by
  simp only [ofConflicts, h.length_eq, h.countP_eq]

theorem countP_isAutoFixable (conflicts : List Conflict) :
    conflicts.countP (·.kind.isAutoFixable) =
      conflicts.countP (·.kind = .trivial) + conflicts.countP (·.kind = .structural) := by
  induction conflicts with
  | nil => rfl
  | cons conflict rest ih =>
      simp only [List.countP_cons, ih]
      cases conflict.kind <;> simp [ConflictKind.isAutoFixable] <;> omega

end Summary

/-- The counts of a report are those of its conflicts. -/
structure Report.IsTallied (report : Report) : Prop where
  hasConflicts : report.hasConflicts ↔ report.conflicts ≠ []
  total : report.summary.total = report.conflicts.length
  ofKind : ∀ kind, (report.summary.byKind kind).getD 0 = report.conflicts.countP (·.kind = kind)
  ofSeverity : ∀ severity,
    (report.summary.bySeverity severity).getD 0 = report.conflicts.countP (·.severity = severity)
  byKind : (ConflictKind.all.map fun kind => (report.summary.byKind kind).getD 0).sum =
    report.summary.total
  bySeverity : (Severity.all.map fun severity => (report.summary.bySeverity severity).getD 0).sum =
    report.summary.total
  autoFixable : report.summary.autoFixable =
    (report.summary.byKind .trivial).getD 0 + (report.summary.byKind .structural).getD 0

theorem Report.isTallied_ofConflicts (conflicts : List Conflict) : (ofConflicts conflicts).IsTallied where
  hasConflicts := by simp [ofConflicts]
  total := rfl
  ofKind _ := Summary.getD_nonzero _
  ofSeverity _ := Summary.getD_nonzero _
  byKind := by
    simp only [ofConflicts, Summary.ofConflicts, Summary.getD_nonzero]
    exact sum_countP_eq_length Conflict.kind (by decide) (fun kind => by cases kind <;> decide) conflicts
  bySeverity := by
    simp only [ofConflicts, Summary.ofConflicts, Summary.getD_nonzero]
    exact sum_countP_eq_length Conflict.severity (by decide)
      (fun severity => by cases severity <;> decide) conflicts
  autoFixable := by
    simp only [ofConflicts, Summary.ofConflicts, Summary.getD_nonzero, Summary.countP_isAutoFixable]

/-! ### Detecting -/

namespace Detector

open Outline

variable {κ : Type} [DecidableEq κ] {detector : Detector κ} {known : List String}

def Request.texts : Request → List String
  | .conflict snapshot _ => snapshot.versions
  | .changes _ ours theirs base => ours :: theirs :: base.toList

/-- The conflict that a detector which has not looked at anything else finds in a file. -/
def foundIn? (detector : Detector κ) (usesOutlines : Bool) (snapshot : Snapshot) : Option Conflict :=
  match (detector.analyze snapshot usesOutlines .empty).1 with
  | .ok conflict => conflict
  | .error _ => none

/-- The report on files as a provider serves them, once a detector was asked for other things. -/
def reportAfter (detector : Detector κ) (earlier : List Request) (snapshots : List Snapshot)
    (usesOutlines : Bool) : Report :=
  (detector.report (Snapshot.served snapshots usesOutlines) usesOutlines (detector.cacheAfter earlier)).1

theorem settles_changes? (htexts : detector.reader.TellsApart known) (path : String)
    {ours theirs : String} {base : Option String} (hours : ours ∈ known) (htheirs : theirs ∈ known)
    (hbase : base.toList ⊆ known) :
    Settles (detector.reader.KnowsOnly known) (detector.changes? path ours theirs base) := by
  unfold changes?
  refine settles_bind (settles_cached? htexts path hours) fun first => ?_
  cases first with
  | none => exact settles_pure _
  | some first =>
      refine settles_bind (settles_cached? htexts path htheirs) fun second => ?_
      cases second with
      | none => exact settles_pure _
      | some second =>
          cases base with
          | none => exact settles_pure _
          | some base =>
              refine settles_bind (settles_cached? htexts path (hbase (by simp))) fun former => ?_
              cases former <;> exact settles_pure _

theorem settles_analyze (htexts : detector.reader.TellsApart known) {snapshot : Snapshot}
    (hversions : snapshot.versions ⊆ known) (usesOutlines : Bool) :
    Settles (detector.reader.KnowsOnly known) (detector.analyze snapshot usesOutlines) := by
  unfold analyze
  cases Path.fault? snapshot.path with
  | some fault => exact settles_pure _
  | none =>
      cases Conflict.ofBlocks? snapshot.path snapshot.text (Block.ofText snapshot.text) with
      | none => exact settles_pure _
      | some found =>
          dsimp only
          -- Changes are asked for only where both versions are there.
          split
          · rename_i ours theirs hours htheirs
            simp only [Snapshot.versions, hours, htheirs, List.append_subset] at hversions
            obtain ⟨⟨hbase, hours⟩, htheirs⟩ := hversions
            exact settles_bind (settles_changes? htexts snapshot.path (hours (by simp))
              (htheirs (by simp)) hbase) fun changes => settles_pure _
          · exact settles_pure _

theorem knowsOnly_serve (htexts : detector.reader.TellsApart known) {cache : Cache κ}
    (hcache : detector.reader.KnowsOnly known cache) {request : Request}
    (hrequest : request.texts ⊆ known) :
    detector.reader.KnowsOnly known (detector.serve cache request) := by
  cases request with
  | conflict snapshot usesOutlines =>
      obtain ⟨_, hsettles⟩ := settles_analyze htexts hrequest usesOutlines
      exact (hsettles cache hcache).1
  | changes path ours theirs base =>
      simp only [Request.texts, List.cons_subset] at hrequest
      obtain ⟨hours, htheirs, hbase⟩ := hrequest
      obtain ⟨_, hsettles⟩ := settles_changes? htexts path hours htheirs hbase
      exact (hsettles cache hcache).1

theorem knowsOnly_cacheAfter (htexts : detector.reader.TellsApart known) {earlier : List Request}
    (hearlier : earlier.flatMap Request.texts ⊆ known) :
    detector.reader.KnowsOnly known (detector.cacheAfter earlier) := by
  induction earlier using List.reverseRecOn with
  | nil => exact knowsOnly_empty _ _
  | append_singleton earlier request ih =>
      rw [List.flatMap_append, List.append_subset] at hearlier
      rw [cacheAfter, List.foldl_append]
      exact knowsOnly_serve htexts (ih hearlier.1) (by simpa using hearlier.2)

/-- The conflicts in files are those in each file, whatever the cache has when they are looked for. -/
theorem keeps_conflicts (htexts : detector.reader.TellsApart known) (usesOutlines : Bool)
    {snapshots : List Snapshot} (hversions : snapshots.flatMap Snapshot.versions ⊆ known) :
    Keeps (detector.reader.KnowsOnly known) (detector.conflicts usesOutlines snapshots)
      (· = snapshots.filterMap (detector.foundIn? usesOutlines)) := by
  induction snapshots with
  | nil => exact keeps_pure rfl
  | cons snapshot rest ih =>
      rw [List.flatMap_cons, List.append_subset] at hversions
      have hfirst := (settles_analyze htexts hversions.1 usesOutlines).keeps (knowsOnly_empty _ _)
      refine keeps_bind hfirst fun found hfound => keeps_bind (ih hversions.2) fun others hothers =>
        keeps_pure ?_
      rw [List.filterMap_cons, foundIn?, ← hfound, hothers]
      rcases found with refusal | _ | conflict <;> rfl

theorem foundIn?_eq_none_iff (detector : Detector κ) (usesOutlines : Bool) (snapshot : Snapshot) :
    detector.foundIn? usesOutlines snapshot = none ↔
      (Path.fault? snapshot.path).isSome ∨ Block.ofText snapshot.text = [] := by
  unfold foundIn?
  cases hpath : Path.fault? snapshot.path with
  | some fault => simp [analyze, hpath, pure, StateT.pure]
  | none =>
      by_cases hblocks : Block.ofText snapshot.text = []
      · simp [analyze, hpath, hblocks, Conflict.ofBlocks?, pure, StateT.pure]
      · obtain ⟨conflict, changes, hfound, -⟩ :=
          detector.analyze_of_blocks hpath hblocks usesOutlines .empty
        simp [hfound, hblocks]

/-- The report on files is made of what is found in each of them alone, without the versions where
outlines are not asked for. Files with a path that is not allowed or without a block are passed over. In
another order the files have the same conflicts and counts. -/
theorem reports_each_alone (detector : Detector κ) (earlier : List Request) (snapshots : List Snapshot)
    (usesOutlines : Bool) (htexts : detector.reader.TellsApart
      (earlier.flatMap Request.texts ++ snapshots.flatMap Snapshot.versions)) :
    let found? (snapshot : Snapshot) :=
      detector.foundIn? usesOutlines (if usesOutlines then snapshot else snapshot.bare)
    let report := detector.reportAfter earlier snapshots usesOutlines
    report.conflicts = snapshots.filterMap found? ∧
      (∀ snapshot, found? snapshot = none ↔
        (Path.fault? snapshot.path).isSome ∨ Block.ofText snapshot.text = []) ∧
      report.IsTallied ∧
      ∀ others, others.Perm snapshots →
        let reordered := detector.reportAfter earlier others usesOutlines
        reordered.conflicts.Perm report.conflicts ∧ reordered.summary = report.summary := by
  intro found? report
  have hconflicts (files : List Snapshot) (hfiles : files.Perm snapshots) :
      (detector.reportAfter earlier files usesOutlines).conflicts = files.filterMap found? := by
    have hcache := knowsOnly_cacheAfter htexts (List.subset_append_left _ _)
    have hversions : (Snapshot.served files usesOutlines).flatMap Snapshot.versions ⊆
        earlier.flatMap Request.texts ++ snapshots.flatMap Snapshot.versions :=
      List.Subset.trans (Snapshot.versions_served_subset files usesOutlines)
        (List.subset_append_of_subset_right _ (hfiles.flatMap_right _).subset)
    have hkept := (keeps_conflicts htexts usesOutlines hversions _ hcache).2
    change (detector.conflicts usesOutlines (Snapshot.served files usesOutlines) _).1 = _
    rw [hkept, Snapshot.served_eq_map, List.filterMap_map]
    rfl
  refine ⟨hconflicts snapshots (.refl _), fun snapshot => ?_, Report.isTallied_ofConflicts _, ?_⟩
  · rw [foundIn?_eq_none_iff]
    split_ifs <;> rfl
  · intro others hothers
    have hsame : (detector.reportAfter earlier others usesOutlines).conflicts.Perm report.conflicts := by
      rw [hconflicts others hothers, hconflicts snapshots (.refl _)]
      exact hothers.filterMap _
    exact ⟨hsame, Summary.ofConflicts_perm hsame⟩

/-- Takes each letter of a text for the name of a function, and tells texts apart by themselves. -/
def letterDetector : Detector String where
  reader := {
    stamp := id
    read? _ content := some
      ⟨.python, content.toList.map fun c => ⟨.function, some (String.singleton c), ⟨1, 1⟩, ""⟩⟩
    isEnabled := true }
  threshold := 5

/-- One path twice, with different versions, and between them a path that is not allowed. -/
def recurringFile : List Snapshot :=
  let text := "<<<<<<<\n=======\n>>>>>>>\n"
  [⟨"p", text, some "a", some "ab", some "ac"⟩, ⟨"../p", text, some "a", some "b", some "c"⟩,
    ⟨"p", text, some "ac", some "ac", some "acb"⟩]

/-- The path of the files is looked at before, with texts that occur among their versions. -/
def earlierChanges : List Request := [.changes "p" "ac" "ab" none]

theorem reports_each_alone_recurring :
    letterDetector.reader.TellsApart
      (earlierChanges.flatMap Request.texts ++ recurringFile.flatMap Snapshot.versions) ∧
    (letterDetector.reportAfter earlierChanges recurringFile true).conflicts.map
      (fun conflict => (conflict.path, conflict.changes?.map (·.added.length))) =
        [("p", some 2), ("p", some 1)] := by
  have happart : letterDetector.reader.TellsApart (earlierChanges.flatMap Request.texts ++
      recurringFile.flatMap Snapshot.versions) := fun _ _ _ _ hsame => hsame
  obtain ⟨hconflicts, -⟩ := reports_each_alone letterDetector _ recurringFile true happart
  refine ⟨happart, ?_⟩
  rw [hconflicts]
  cbv

end Detector

end Reconcile
