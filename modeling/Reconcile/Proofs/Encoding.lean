import Mathlib
import Reconcile.Fix.Codec
import Reconcile.Proofs.ReadBack

/-!
Conflicts, reports and what is found out about suggestions, written as values of the interchange
format and read back. The only condition is that their counts can be written.
-/

namespace Reconcile

namespace Json

/-- The counts that a value holds can all be written. -/
def Fit (counts : List Nat) : Prop := ∀ n ∈ counts, n < countLimit

instance : DecidablePred Fit := fun counts => inferInstanceAs (Decidable (∀ n ∈ counts, n < countLimit))

section Fit

variable {n : Nat} {counts rest : List Nat}

@[simp] theorem fit_cons : Fit (n :: counts) ↔ n < countLimit ∧ Fit counts := List.forall_mem_cons

@[simp] theorem fit_append : Fit (counts ++ rest) ↔ Fit counts ∧ Fit rest := List.forall_mem_append

@[simp] theorem fit_flatMap {counts : α → List Nat} {items : List α} :
    Fit (items.flatMap counts) ↔ ∀ a ∈ items, Fit (counts a) := by
  simp only [Fit, List.mem_flatMap]
  exact ⟨fun h a ha n hn => h n ⟨a, ha, hn⟩, fun h n ⟨a, ha, hn⟩ => h a ha n hn⟩

end Fit

section Counts

variable {keys : List κ} {name : κ → String} {encode : α → Json} {field? : κ → Option α}

theorem lookup_flatMap_optionalField [DecidableEq κ] (hname : Function.Injective name) (key : κ) :
    lookup (keys.flatMap fun key => optionalField (name key) encode (field? key)) (name key) =
      if key ∈ keys then (field? key).map encode else none := by
  induction keys with
  | nil => rfl
  | cons first rest ih =>
    rw [List.flatMap_cons, lookup_append, lookup_optionalField, ih]
    by_cases hfirst : first = key
    · subst hfirst
      by_cases hrest : first ∈ rest <;> simp [hrest]
    · simp [hname.ne hfirst, Ne.symm hfirst]

theorem exists_key_of_lookup {other : String} {value : Json}
    (h : lookup (keys.flatMap fun key => optionalField (name key) encode (field? key)) other =
      some value) : ∃ key, other = name key := by
  obtain ⟨key, -, hkey⟩ := List.mem_flatMap.mp (mem_of_lookup h)
  cases hfield : field? key with
  | none => simp [optionalField, hfield] at hkey
  | some a =>
    simp only [optionalField, hfield, List.mem_singleton, Prod.mk.injEq] at hkey
    exact ⟨key, hkey.1⟩

/-- A name in an object that says the same as one of optional fields is that of a key with a value. -/
theorem exists_key_of_rel [DecidableEq κ] (hname : Function.Injective name) {other : String}
    {value : Json}
    (h : Option.Rel Alike
      (lookup (keys.flatMap fun key => optionalField (name key) encode (field? key)) other)
      (some value)) :
    ∃ key, other = name key ∧ ∃ a ∈ field? key, (encode a).Alike value := by
  generalize hwritten : lookup _ other = written at h
  cases h with
  | some h =>
    obtain ⟨key, rfl⟩ := exists_key_of_lookup hwritten
    rw [lookup_flatMap_optionalField hname] at hwritten
    split at hwritten
    · obtain ⟨a, ha, rfl⟩ := Option.map_eq_some_iff.mp hwritten
      exact ⟨key, rfl, a, ha, h⟩
    · cases hwritten

/-- Counts under the names of all keys; a key without a count has none afterwards. -/
theorem Survives.counts [DecidableEq κ] {ofName? : String → Option κ} {count? : κ → Option Nat}
    (hname : ∀ key, ofName? (name key) = some key) (hkeys : ∀ key, key ∈ keys)
    (hfit : Fit (keys.filterMap count?)) :
    Survives (countsToJson keys name) (countsOfJson? ofName? name) count? where
  ne_null := nofun
  reads value hvalue := by
    have hinjective : Function.Injective name := fun a b hab =>
      Option.some.inj ((hname a).symm.trans (hab ▸ hname b))
    have hcount (key : κ) (n : Nat) (hn : n ∈ count? key) : Survives nat toCount? n :=
      .count (hfit n (List.mem_filterMap.mpr ⟨key, hkeys key, hn⟩))
    obtain ⟨others, rfl, hothers⟩ := hvalue.fields
    have hentry (other : String) (value : Json) (hother : lookup others other = some value) :
        ∃ key, other = name key ∧ ∃ n ∈ count? key, toCount? value = some n := by
      obtain ⟨key, hkey, n, hn, halike⟩ := exists_key_of_rel hinjective (hother ▸ hothers other)
      exact ⟨key, hkey, n, hn, (hcount key n hn).reads value halike⟩
    have hlookup (key : κ) : (lookup others (name key)).bind toCount? = count? key := by
      have hrel := hothers (name key)
      rw [lookup_flatMap_optionalField hinjective, if_pos (hkeys key)] at hrel
      exact bind_of_rel (hcount key) hrel
    obtain ⟨entries, hentries, hfound⟩ := exists_entries fun other value hother =>
      let ⟨_, _, n, _, hn⟩ := hentry other value hother
      ⟨n, hn⟩
    have hnames : entries.all fun entry => (ofName? entry.1).isSome := by
      rw [List.all_eq_true]
      intro entry hmem
      obtain ⟨n, hn⟩ := Option.isSome_iff_exists.mp
        (List.lookup_isSome_iff.mpr ⟨entry, hmem, beq_self_eq_true entry.1⟩)
      obtain ⟨value, hother, -⟩ := Option.bind_eq_some_iff.mp (hfound entry.1 ▸ hn)
      obtain ⟨key, hkey, -⟩ := hentry entry.1 value hother
      simp [hkey, hname]
    simp only [countsOfJson?, hentries, Option.bind_eq_bind, Option.bind_some, if_pos hnames, hfound,
      hlookup]

end Counts

end Json

open Json

theorem DeclarationKind.survives (kind : DeclarationKind) : Survives toJson ofJson? kind :=
  .case (by cases kind <;> rfl)

namespace ConflictKind

theorem ofName?_name (kind : ConflictKind) : ofName? kind.name = some kind := by cases kind <;> rfl

theorem mem_all (kind : ConflictKind) : kind ∈ all := by cases kind <;> decide

theorem survives (kind : ConflictKind) : Survives toJson ofJson? kind := .case kind.ofName?_name

end ConflictKind

namespace Severity

theorem ofName?_name (severity : Severity) : ofName? severity.name = some severity := by
  cases severity <;> rfl

theorem mem_all (severity : Severity) : severity ∈ all := by cases severity <;> decide

theorem survives (severity : Severity) : Survives toJson ofJson? severity :=
  .case severity.ofName?_name

end Severity

namespace LineSpan

def counts (span : LineSpan) : List Nat := [span.first, span.last]

theorem survives (span : LineSpan) (hfit : Fit span.counts) : Survives toJson ofJson? span where
  ne_null := nofun
  reads value hvalue := by
    simp only [counts, fit_cons] at hfit
    obtain ⟨hfirst, hlast, -⟩ := hfit
    obtain ⟨r, hr, holds⟩ := hvalue.toRecord? 2
    simp only [ofJson?, hr, Option.bind_eq_bind, Option.bind_some,
      holds.required "start" (.count hfirst) (by simp),
      holds.required "end" (.count hlast) (by simp)]

end LineSpan

namespace Block

def counts (block : Block) : List Nat := [block.startLine, block.dividerLine, block.endLine]

theorem survives (block : Block) (hfit : Fit block.counts) : Survives toJson ofJson? block where
  ne_null := nofun
  reads value hvalue := by
    simp only [counts, fit_cons] at hfit
    obtain ⟨hstart, hdivider, hend, -⟩ := hfit
    obtain ⟨r, hr, holds⟩ := hvalue.toRecord? 6
    simp only [ofJson?, hr, Option.bind_eq_bind, Option.bind_some,
      holds.required "startLine" (.count hstart) (by simp),
      holds.required "dividerLine" (.count hdivider) (by simp),
      holds.required "endLine" (.count hend) (by simp),
      holds.required "oursContent" (.text block.ours) (by simp),
      holds.required "theirsContent" (.text block.theirs) (by simp),
      holds.optional "baseContent" block.base (fun b _ => .text b) (by simp)]

end Block

namespace ChangedNode

def counts (node : ChangedNode) : List Nat := node.span.toList.flatMap LineSpan.counts

theorem survives (node : ChangedNode) (hfit : Fit node.counts) : Survives toJson ofJson? node where
  ne_null := nofun
  reads value hvalue := by
    simp only [counts, fit_flatMap, Option.mem_toList] at hfit
    obtain ⟨r, hr, holds⟩ := hvalue.toRecord? 3
    simp only [ofJson?, hr, Option.bind_eq_bind, Option.bind_some,
      holds.required "type" node.kind.survives (by simp),
      holds.optional "name" node.name (fun name _ => .text name) (by simp),
      holds.optional "span" node.span (fun span hspan => span.survives (hfit span hspan)) (by simp)]

end ChangedNode

namespace Changes

def counts (changes : Changes) : List Nat := changes.nodes.flatMap ChangedNode.counts

theorem survives (changes : Changes) (hfit : Fit changes.counts) :
    Survives toJson ofJson? changes where
  ne_null := nofun
  reads value hvalue := by
    simp only [counts, nodes, fit_flatMap, List.forall_mem_append] at hfit
    obtain ⟨⟨hadded, hremoved⟩, hmodified⟩ := hfit
    obtain ⟨r, hr, holds⟩ := hvalue.toRecord? 5
    have hnodes (nodes : List ChangedNode) (hfit : ∀ node ∈ nodes, Fit node.counts) :
        Survives (.list ChangedNode.toJson) (toList? ChangedNode.ofJson?) nodes :=
      .list fun node hnode => node.survives (hfit node hnode)
    simp only [ofJson?, hr, Option.bind_eq_bind, Option.bind_some,
      holds.required "addedNodes" (hnodes changes.added hadded) (by simp),
      holds.required "removedNodes" (hnodes changes.removed hremoved) (by simp),
      holds.required "modifiedNodes" (hnodes changes.modified hmodified) (by simp),
      holds.required "hasImportChanges" (.bool changes.touchesImports) (by simp),
      holds.required "hasExportChanges" (.bool changes.touchesExports) (by simp)]

end Changes

namespace Analysis

def counts (analysis : Analysis) : List Nat := analysis.changes.toList.flatMap Changes.counts

theorem survives (analysis : Analysis) (hfit : Fit analysis.counts) :
    Survives toJson ofJson? analysis where
  ne_null := nofun
  reads value hvalue := by
    simp only [counts, fit_flatMap, Option.mem_toList] at hfit
    obtain ⟨r, hr, holds⟩ := hvalue.toRecord? 2
    have hchanges (changes : Changes) (h : changes ∈ analysis.changes) :
        Survives Changes.toJson Changes.ofJson? changes := changes.survives (hfit changes h)
    simp only [ofJson?, hr, Option.bind_eq_bind, Option.bind_some,
      holds.optional "astDiff" analysis.changes hchanges (by simp),
      holds.optional "semanticContext" analysis.account (fun s _ => .text s) (by simp)]

end Analysis

namespace Conflict

def counts (conflict : Conflict) : List Nat :=
  conflict.blocks.flatMap Block.counts ++ conflict.analysis.toList.flatMap Analysis.counts

theorem survives (conflict : Conflict) (hfit : Fit conflict.counts) :
    Survives toJson ofJson? conflict where
  ne_null := nofun
  reads value hvalue := by
    simp only [counts, fit_append, fit_flatMap, Option.mem_toList] at hfit
    obtain ⟨hblocks, hanalysis⟩ := hfit
    obtain ⟨r, hr, holds⟩ := hvalue.toRecord? 9
    have hblock (block : Block) (h : block ∈ conflict.blocks) :
        Survives Block.toJson Block.ofJson? block := block.survives (hblocks block h)
    have hpresent (analysis : Analysis) (h : analysis ∈ conflict.analysis) :
        Survives Analysis.toJson Analysis.ofJson? analysis :=
      analysis.survives (hanalysis analysis h)
    simp only [ofJson?, hr, Option.bind_eq_bind, Option.bind_some,
      holds.required "filePath" (.text conflict.path) (by simp),
      holds.required "conflictType" conflict.kind.survives (by simp),
      holds.required "severity" conflict.severity.survives (by simp),
      holds.required "markers" (.list hblock) (by simp),
      holds.optional "analysis" conflict.analysis hpresent (by simp),
      holds.required "conflictedText" (.text conflict.text) (by simp),
      holds.optional "oursContent" conflict.ours (fun s _ => .text s) (by simp),
      holds.optional "theirsContent" conflict.theirs (fun s _ => .text s) (by simp),
      holds.optional "baseContent" conflict.base (fun s _ => .text s) (by simp)]

end Conflict

theorem Snapshot.survives (snapshot : Snapshot) : Survives toJson ofJson? snapshot where
  ne_null := nofun
  reads value hvalue := by
    obtain ⟨r, hr, holds⟩ := hvalue.toRecord? 5
    simp only [ofJson?, hr, Option.bind_eq_bind, Option.bind_some,
      holds.required "filePath" (.text snapshot.path) (by simp),
      holds.required "conflictedText" (.text snapshot.text) (by simp),
      holds.nullable "ours" snapshot.ours (fun s _ => .text s) (by simp),
      holds.nullable "theirs" snapshot.theirs (fun s _ => .text s) (by simp),
      holds.nullable "base" snapshot.base (fun s _ => .text s) (by simp)]

namespace Summary

def counts (summary : Summary) : List Nat :=
  summary.total :: summary.autoFixable :: (ConflictKind.all.filterMap summary.byKind ++
    Severity.all.filterMap summary.bySeverity)

theorem survives (summary : Summary) (hfit : Fit summary.counts) :
    Survives toJson ofJson? summary where
  ne_null := nofun
  reads value hvalue := by
    simp only [counts, fit_cons, fit_append] at hfit
    obtain ⟨htotal, hfixable, hkinds, hseverities⟩ := hfit
    have hkind := Survives.counts ConflictKind.ofName?_name ConflictKind.mem_all hkinds
    have hseverity := Survives.counts Severity.ofName?_name Severity.mem_all hseverities
    obtain ⟨r, hr, holds⟩ := hvalue.toRecord? 4
    simp only [ofJson?, hr, Option.bind_eq_bind, Option.bind_some,
      holds.required "totalConflicts" (.count htotal) (by simp),
      holds.required "byType" hkind (by simp),
      holds.required "bySeverity" hseverity (by simp),
      holds.required "autoFixableCount" (.count hfixable) (by simp)]

end Summary

namespace Report

def counts (report : Report) : List Nat :=
  report.conflicts.flatMap Conflict.counts ++ report.summary.counts

theorem survives (report : Report) (hfit : Fit report.counts) : Survives toJson ofJson? report where
  ne_null := nofun
  reads value hvalue := by
    simp only [counts, fit_append, fit_flatMap] at hfit
    obtain ⟨hconflicts, hsummary⟩ := hfit
    obtain ⟨r, hr, holds⟩ := hvalue.toRecord? 3
    have hconflict (conflict : Conflict) (h : conflict ∈ report.conflicts) :
        Survives Conflict.toJson Conflict.ofJson? conflict :=
      conflict.survives (hconflicts conflict h)
    simp only [ofJson?, hr, Option.bind_eq_bind, Option.bind_some,
      holds.required "hasConflicts" (.bool report.hasConflicts) (by simp),
      holds.required "conflicts" (.list hconflict) (by simp),
      holds.required "summary" (report.summary.survives hsummary) (by simp)]

end Report

namespace Diff.Extent

def counts (extent : Extent) : List Nat := [extent.changedLines, extent.hunks]

theorem survives (extent : Extent) (hfit : Fit extent.counts) : Survives toJson ofJson? extent where
  ne_null := nofun
  reads value hvalue := by
    simp only [counts, fit_cons] at hfit
    obtain ⟨hlines, hhunks, -⟩ := hfit
    obtain ⟨r, hr, holds⟩ := hvalue.toRecord? 2
    simp only [ofJson?, hr, Option.bind_eq_bind, Option.bind_some,
      holds.required "linesChanged" (.count hlines) (by simp),
      holds.required "hunksApplied" (.count hhunks) (by simp)]

end Diff.Extent

namespace Verification

def counts (v : Verification) : List Nat := v.markersLeft :: v.extent.counts

theorem survives (v : Verification) (hfit : Fit v.counts) : Survives toJson ofJson? v where
  ne_null := nofun
  reads value hvalue := by
    simp only [counts, fit_cons] at hfit
    obtain ⟨hmarkers, hextent⟩ := hfit
    obtain ⟨r, hr, holds⟩ := hvalue.toRecord? 3
    simp only [ofJson?, hr, Option.bind_eq_bind, Option.bind_some,
      holds.required "conflictMarkersRemaining" (.count hmarkers) (by simp),
      holds.required "syntaxValid" (.bool v.isWellFormed) (by simp),
      holds.required "diffStats" (v.extent.survives hextent) (by simp)]

end Verification

namespace Validity

def counts (v : Validity) : List Nat := [v.markersPresent]

theorem survives (v : Validity) (hfit : Fit v.counts) : Survives toJson ofJson? v where
  ne_null := nofun
  reads value hvalue := by
    simp only [counts, fit_cons] at hfit
    obtain ⟨hmarkers, -⟩ := hfit
    obtain ⟨r, hr, holds⟩ := hvalue.toRecord? 4
    simp only [ofJson?, hr, Option.bind_eq_bind, Option.bind_some,
      holds.required "suggestionId" (.text v.id) (by simp),
      holds.required "valid" (.bool v.isValid) (by simp),
      holds.required "markersPresent" (.count hmarkers) (by simp),
      holds.optional "reason" v.reason (fun s _ => .text s) (by simp)]

end Validity

/-- Values whose counts can be written are read as they were written. -/
def Json.ReadsBack (counts : α → List Nat) (encode : α → Json) (decode : Json → Option α) : Prop :=
  ∀ a, Fit (counts a) → ∀ value, (encode a).Alike value → decode value = some a

/-- Whatever texts they hold, and whichever of their optional fields are there, blocks, changes,
conflicts, snapshots, summaries, reports, verifications and validities are read as they were
written: from what was written, and from any value that differs only in the order of fields. -/
theorem read_as_written :
    ReadsBack Block.counts Block.toJson Block.ofJson? ∧
    ReadsBack ChangedNode.counts ChangedNode.toJson ChangedNode.ofJson? ∧
    ReadsBack Changes.counts Changes.toJson Changes.ofJson? ∧
    ReadsBack Conflict.counts Conflict.toJson Conflict.ofJson? ∧
    ReadsBack (fun _ => []) Snapshot.toJson Snapshot.ofJson? ∧
    ReadsBack Summary.counts Summary.toJson Summary.ofJson? ∧
    ReadsBack Report.counts Report.toJson Report.ofJson? ∧
    ReadsBack Verification.counts Verification.toJson Verification.ofJson? ∧
    ReadsBack Validity.counts Validity.toJson Validity.ofJson? :=
  ⟨fun block hfit => (block.survives hfit).reads, fun node hfit => (node.survives hfit).reads,
    fun changes hfit => (changes.survives hfit).reads,
    fun conflict hfit => (conflict.survives hfit).reads, fun snapshot _ => snapshot.survives.reads,
    fun summary hfit => (summary.survives hfit).reads, fun report hfit => (report.survives hfit).reads,
    fun v hfit => (v.survives hfit).reads, fun v hfit => (v.survives hfit).reads⟩

/-- A report on a conflict with the largest count, one block without a base and one with an empty
one; it is read as it was written, and so is the first block with its fields turned round. -/
theorem read_as_written_report :
    let block : Block := ⟨1, 2, countLimit - 1, "", "b\n", none⟩
    let conflict : Conflict :=
      { path := "a.ts", kind := .trivial, severity := .low, blocks := [block, ⟨5, 7, 9, "", "", some ""⟩]
        analysis := some ⟨none, some ""⟩, text := "", ours := none, theirs := some "", base := none }
    let report := Report.ofConflicts [conflict]
    Fit report.counts ∧ Report.ofJson? report.toJson = some report ∧
      Block.ofJson? (.obj [("theirsContent", .str "b\n"), ("oursContent", .str ""),
        ("endLine", .nat (countLimit - 1)), ("dividerLine", .nat 2), ("startLine", .nat 1)]) =
        some block := by
  intro block conflict report
  obtain ⟨hblock, -, -, -, -, -, hreport, -, -⟩ := read_as_written
  have hfit : Fit report.counts := by decide
  have hfitBlock : Fit block.counts := by decide
  exact ⟨hfit, hreport report hfit _ (.refl _),
    hblock block hfitBlock _ (.of_perm (by decide) (List.reverse_perm _).symm)⟩

end Reconcile
