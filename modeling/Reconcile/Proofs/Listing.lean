import Mathlib
import Reconcile.Proofs.Querying
import Reconcile.Proofs.Retrieval
import Reconcile.Proofs.TimeOrder

/-!
# Listing suggestions

A filter is answered by the suggestions that it asks for, each as it is found by its id, in the order of
their confidence and then from the newest to the oldest. Rows are chosen and sorted by texts: a kind has
one name, and the text of an earlier moment comes first.
-/

namespace Reconcile

variable {ν : Type}

/-- A suggestion is one that a filter asks for. -/
structure SuggestionFilter.Admits (filter : SuggestionFilter) (s : Suggestion ν) : Prop where
  repository : ∀ repository ∈ filter.repository, s.repository = repository
  path : ∀ path ∈ filter.path, s.path = path
  kind : ∀ kind ∈ filter.kind, s.kind = kind
  isUnapplied : filter.isUnapplied → s.isApplied = false

theorem ConflictKind.name_injective : Function.Injective name := by
  intro kind other h
  have hkind := ofAnyCase_name kind
  rw [h, ofAnyCase_name] at hkind
  exact (Except.ok.inj hkind).symm

/-! ### Rows and what they say -/

namespace Row

variable {row a b : Row ν} {s t : Suggestion ν}

/-- The kind and the time of creation are written as those of a suggestion. -/
structure IsWritten (row : Row ν) : Prop where
  kind : ∃ kind : ConflictKind, row.kind = kind.name
  createdAt : ∃ moment : Timestamp, moment.IsDated ∧ row.createdAt = moment.stored

theorem isWritten_marked (h : row.IsWritten) (isRollback : Bool) (now : Timestamp) :
    (row.marked isRollback now).IsWritten := by
  unfold marked markRolledBack markApplied
  split_ifs
  · exact ⟨h.kind, h.createdAt⟩
  · exact ⟨h.kind, h.createdAt⟩
  · exact h

/-- A row holds a suggestion, with all that rows are chosen and sorted by. -/
structure Records (row : Row ν) (s : Suggestion ν) : Prop extends row.Holds s where
  kind : row.kind = s.kind.name
  confidence : s.confidence = row.confidence
  isDated : s.createdAt.IsDated
  createdAt : row.createdAt = s.createdAt.stored

theorem records_of_decode (h : row.IsWritten) (hdecode : row.decode = .ok s) : row.Records s := by
  have hholds := holds_of_decode hdecode
  obtain ⟨kind, hkind⟩ := h.kind
  obtain ⟨moment, hdated, hmoment⟩ := h.createdAt
  unfold decode at hdecode
  simp only [hkind, ConflictKind.ofAnyCase_name, hmoment, decodeTime, Timestamp.ofStored?_stored hdated,
    bind_eq_ok_iff, Option.elim_some, Except.ok.injEq, exists_eq_left'] at hdecode
  obtain ⟨metadata, -, appliedAt, -, rolledBackAt, -, rfl⟩ := hdecode
  exact ⟨hholds, hkind, rfl, hdated, hmoment⟩

theorem Records.isSelected_iff (h : row.Records s) (filter : SuggestionFilter) :
    row.isSelected filter.query ↔ filter.Admits s := by
  have happlied : row.appliedAt = none ↔ s.isApplied = false := by
    rw [h.isApplied, isApplied, Option.isSome_eq_false_iff, Option.isNone_iff_eq_none]
  rw [filter.isSelected_query, ← h.repository, ← h.path, h.kind, happlied]
  simp only [ConflictKind.name_injective.eq_iff]
  constructor
  · rintro ⟨hrepository, hpath, hkind, hunapplied⟩
    exact ⟨hrepository, hpath, hkind, hunapplied⟩
  · intro hadmits
    exact ⟨hadmits.repository, hadmits.path, hadmits.kind, hadmits.isUnapplied⟩

variable [Scalar ν]

theorem precedes_iff : a.precedes b ↔ Scalar.isAtMost b.confidence a.confidence ∧
    (Scalar.isAtMost a.confidence b.confidence → b.createdAt ≤ a.createdAt) := by
  simp only [precedes, Bool.and_eq_true, Bool.or_eq_true, Bool.not_eq_true', ← Bool.not_eq_true,
    decide_eq_true_eq, not_lt, ← imp_iff_not_or]

theorem precedes_trans (a b c : Row ν) (hab : a.precedes b) (hbc : b.precedes c) : a.precedes c := by
  rw [precedes_iff] at hab hbc ⊢
  have hac := Scalar.isAtMost_trans _ _ _ hbc.1 hab.1
  refine ⟨hac, fun hca => ?_⟩
  have hba := Scalar.isAtMost_trans _ _ _ hca hbc.1
  have hcb := Scalar.isAtMost_trans _ _ _ hab.1 hca
  exact (hbc.2 hcb).trans (hab.2 hba)

theorem precedes_total (a b : Row ν) : (a.precedes b || b.precedes a) = true := by
  rw [Bool.or_eq_true, precedes_iff, precedes_iff]
  by_cases hab : Scalar.isAtMost a.confidence b.confidence
  · by_cases hba : Scalar.isAtMost b.confidence a.confidence
    · simpa [hab, hba] using le_total b.createdAt a.createdAt
    · exact .inr ⟨hab, fun h => absurd h hba⟩
  · have hba := (Scalar.isAtMost_total a.confidence b.confidence).resolve_left hab
    exact .inl ⟨hba, fun h => absurd h hab⟩

end Row

/-- A suggestion has a higher confidence than another; or an equal one, and it was made no earlier. -/
def Suggestion.Outranks [Scalar ν] (s t : Suggestion ν) : Prop :=
  Scalar.isAtMost t.confidence s.confidence ∧
    (Scalar.isAtMost s.confidence t.confidence → t.createdAt < s.createdAt ∨ t.createdAt = s.createdAt)

theorem Row.outranks_of_precedes [Scalar ν] {a b : Row ν} {s t : Suggestion ν} (ha : a.Records s)
    (hb : b.Records t) (h : a.precedes b) : s.Outranks t := by
  rw [precedes_iff, ← ha.confidence, ← hb.confidence, ha.createdAt, hb.createdAt] at h
  refine ⟨h.1, fun hsame => ?_⟩
  have hnotearlier : ¬s.createdAt < t.createdAt := fun hlt =>
    (h.2 hsame).not_gt (Timestamp.stored_lt_stored ha.isDated hb.isDated hlt)
  exact Timestamp.eq_or_lt_of_not_lt hnotearlier

/-! ### Decoding a list of rows -/

/-- Suggestions are what rows decode to, one by one. -/
def Decodes (rows : List (Row ν)) (found : List (Suggestion ν)) : Prop :=
  rows.map Row.decode = found.map Except.ok

namespace Decodes

variable {rows : List (Row ν)} {found : List (Suggestion ν)}

theorem exists_of_forall (h : ∀ row ∈ rows, ∃ s, row.decode = .ok s) : ∃ found, Decodes rows found := by
  have hrange : rows.map Row.decode ∈ Set.range (List.map Except.ok) := by
    rw [Set.range_list_map]
    intro decoded hdecoded
    obtain ⟨row, hrow, rfl⟩ := List.mem_map.mp hdecoded
    obtain ⟨s, hs⟩ := h row hrow
    exact ⟨s, hs.symm⟩
  obtain ⟨found, hfound⟩ := hrange
  exact ⟨found, hfound.symm⟩

theorem mapM_eq (h : Decodes rows found) : rows.mapM Row.decode = .ok found := by
  calc rows.mapM Row.decode
      = (rows.map Row.decode).mapM (fun decoded => decoded) := by rw [List.mapM_map]; rfl
    _ = (found.map Except.ok).mapM (fun decoded => decoded) := by rw [h]
    _ = found.mapM fun s => pure s := by rw [List.mapM_map]; rfl
    _ = .ok found := by rw [List.mapM_pure, List.map_id']; rfl

theorem take (h : Decodes rows found) (n : Nat) : Decodes (rows.take n) (found.take n) := by
  rw [Decodes, List.map_take, h, List.map_take]

theorem mem_iff (h : Decodes rows found) {s : Suggestion ν} :
    s ∈ found ↔ ∃ row ∈ rows, row.decode = .ok s := by
  rw [← List.mem_map, h]
  simp

theorem pairwise (h : Decodes rows found) {R : Suggestion ν → Suggestion ν → Prop}
    (hrows : rows.Pairwise fun a b => ∀ s t, a.decode = .ok s → b.decode = .ok t → R s t) :
    found.Pairwise R := by
  let decoded (x y : Except StoreError (Suggestion ν)) : Prop := ∀ s t, x = .ok s → y = .ok t → R s t
  have hdecoded : (rows.map Row.decode).Pairwise decoded := List.pairwise_map.mpr hrows
  rw [h, List.pairwise_map] at hdecoded
  exact hdecoded.imp fun {s t} hR => hR s t rfl rfl

end Decodes

namespace Store

variable {store : Store ν} {rows : List (Row ν)} {id : String} {s : Suggestion ν}

theorem find?_eq_some_iff (hids : (rows.map Row.id).Nodup) {row : Row ν} :
    find? rows id = some row ↔ row ∈ rows ∧ row.id = id := by
  constructor
  · intro h
    exact ⟨List.mem_of_find?_eq_some h, by simpa using List.find?_some h⟩
  · rintro ⟨hrow, rfl⟩
    cases hfind : find? rows row.id with
    | none => exact absurd rfl (find?_eq_none_iff.mp hfind row hrow)
    | some other =>
        have hother := List.mem_of_find?_eq_some hfind
        rw [List.inj_on_of_nodup_map hids hother hrow (by simpa using List.find?_some hfind)]

theorem get_eq_some_iff (h : store.suggestions = some rows) (hids : (rows.map Row.id).Nodup) :
    store.get id = .ok (some s) ↔ ∃ row ∈ rows, row.id = id ∧ row.decode = .ok s := by
  rw [get_eq h, row?_eq h]
  constructor
  · intro hget
    cases hfind : find? rows id with
    | none => simp [hfind] at hget
    | some row =>
        rw [hfind] at hget
        obtain ⟨found, hdecode, hsame⟩ := map_eq_ok_iff.mp hget
        obtain ⟨hrow, hid⟩ := (find?_eq_some_iff hids).mp hfind
        exact ⟨row, hrow, hid, Option.some.inj hsame ▸ hdecode⟩
  · rintro ⟨row, hrow, hid, hdecode⟩
    rw [(find?_eq_some_iff hids).mpr ⟨hrow, hid⟩, Option.elim_some, hdecode]
    rfl

theorem exists_decode_of_get (h : store.suggestions = some rows) (hids : (rows.map Row.id).Nodup)
    (hreadable : ∀ id, ∃ answer, store.get id = .ok answer) {row : Row ν} (hrow : row ∈ rows) :
    ∃ s, row.decode = .ok s := by
  obtain ⟨answer, hanswer⟩ := hreadable row.id
  rw [get_eq h, row?_eq h, (find?_eq_some_iff hids).mpr ⟨hrow, rfl⟩] at hanswer
  obtain ⟨s, hs, -⟩ := map_eq_ok_iff.mp hanswer
  exact ⟨s, hs⟩

variable [Scalar ν]

/-- What holds of the rows that are there and of new ones, and is kept by marks, holds of all rows. -/
theorem forall_rows_after {p : Row ν → Prop} {operations : List (Operation ν)}
    (h : store.suggestions = some rows) (hrows : ∀ row ∈ rows, p row)
    (hnew : ∀ draft id now, .create draft id now ∈ operations →
      p (.ofSuggestion (suggestionOf draft id now)))
    (hmarked : ∀ row, p row → ∀ operation ∈ operations, ∀ mark ∈ operation.mark? row.id,
      p (row.marked mark.1 mark.2)) :
    ∃ rows, (store.after operations).suggestions = some rows ∧ ∀ row ∈ rows, p row := by
  induction operations generalizing store rows with
  | nil => exact ⟨rows, h, hrows⟩
  | cons operation operations ih =>
      have hnewer := fun draft id now hcreate =>
        hnew draft id now (List.mem_cons_of_mem operation hcreate)
      have hlater := fun row hrow later hmem =>
        hmarked row hrow later (List.mem_cons_of_mem operation hmem)
      obtain hmap | ⟨draft, id, now, rfl, -, happend⟩ := suggestions_step h operation
      · refine ih hmap (fun row hrow => ?_) hnewer hlater
        obtain ⟨former, hformer, rfl⟩ := List.mem_map.mp hrow
        obtain hsame | ⟨mark, hmark, hthrough⟩ := former.through_eq operation
        · rw [hsame]
          exact hrows former hformer
        · rw [hthrough]
          exact hmarked former (hrows former hformer) operation List.mem_cons_self mark hmark
      · refine ih happend (fun row hrow => ?_) hnewer hlater
        obtain hold | hadded := List.mem_append.mp hrow
        · exact hrows row hold
        · rw [List.mem_singleton.mp hadded]
          exact hnew draft id now List.mem_cons_self

/-- All suggestions can be read if they are made of what can be read back, and marked in years that can. -/
theorem exists_get_after {operations : List (Operation ν)}
    (hcreated : ∀ draft id now, .create draft id now ∈ operations →
      (suggestionOf draft id now).IsReadable)
    (hmarks : ∀ id, ∀ operation ∈ operations, ∀ mark ∈ operation.mark? id, mark.2.IsDated) (id : String) :
    ∃ answer, ((ready : Store ν).after operations).get id = .ok answer := by
  have hready : (ready : Store ν).suggestions = some [] := rfl
  have hreadable : ∃ rows, ((ready : Store ν).after operations).suggestions = some rows ∧
      ∀ row ∈ rows, (∃ s : Suggestion ν, row.unmarked = .ofSuggestion s ∧ s.IsReadable) ∧
        row.HasDates := by
    refine forall_rows_after hready (by simp) ?_ ?_
    · intro draft id now hcreate
      exact ⟨⟨_, rfl, hcreated draft id now hcreate⟩, by simp [Row.ofSuggestion, suggestionOf],
        by simp [Row.ofSuggestion, suggestionOf]⟩
    · rintro row ⟨⟨s, hrow, hs⟩, hdates⟩ operation hoperation mark hmark
      refine ⟨⟨s, (Row.unmarked_marked mark.1 mark.2 row).trans hrow, hs⟩, ?_⟩
      exact Row.hasDates_marked hdates (hmarks row.id operation hoperation mark hmark) mark.1
  obtain ⟨rows, hrows, hreadable⟩ := hreadable
  rw [get_eq hrows, row?_eq hrows]
  cases hfind : find? rows id with
  | none => exact ⟨none, rfl⟩
  | some row =>
      obtain ⟨⟨s, hrow, hs⟩, hdates⟩ := hreadable row (List.mem_of_find?_eq_some hfind)
      obtain ⟨found, hfound⟩ := Row.exists_decode hrow hs hdates
      exact ⟨some found, by rw [Option.elim_some, hfound]; rfl⟩

/-- The rows that a filter asks for, in the order in which they are listed. -/
def chosen (rows : List (Row ν)) (filter : SuggestionFilter) : List (Row ν) :=
  (rows.filter (·.isSelected filter.query)).mergeSort Row.precedes

theorem mem_chosen_iff {filter : SuggestionFilter} {row : Row ν} :
    row ∈ chosen rows filter ↔ row ∈ rows ∧ row.isSelected filter.query := by
  rw [chosen, List.mem_mergeSort, List.mem_filter]

theorem list_eq (h : store.suggestions = some rows) {filter : SuggestionFilter}
    {found : List (Suggestion ν)} (hfound : Decodes (chosen rows filter) found) (limit : Option Nat) :
    store.list { filter with limit } = .ok (take? limit found) := by
  have hselected : (fun row : Row ν => row.isSelected { filter with limit }.query) =
      fun row => row.isSelected filter.query := funext (filter.isSelected_query_limit limit)
  have hlist : store.list { filter with limit } =
      (take? limit (chosen rows filter)).mapM Row.decode := by
    rw [list, rows_eq_ok_iff.mpr h]
    dsimp only [bind, Except.bind]
    rw [SuggestionFilter.most?_query, hselected, chosen]
  rw [hlist]
  cases limit with
  | none => exact hfound.mapM_eq
  | some n => exact (hfound.take n).mapM_eq

/-- A list answers a filter in a store. -/
structure Answers (store : Store ν) (filter : SuggestionFilter) (found : List (Suggestion ν)) : Prop where
  /-- The list has what the filter asks for, as it is found by the id. -/
  mem_iff : ∀ s, s ∈ found ↔ store.get s.id = .ok (some s) ∧ filter.Admits s
  nodup : (found.map (·.id)).Nodup
  ranked : found.Pairwise Suggestion.Outranks

theorem answers_of_decodes (h : store.suggestions = some rows) (hids : (rows.map Row.id).Nodup)
    (hwritten : ∀ row ∈ rows, row.IsWritten) {filter : SuggestionFilter} {found : List (Suggestion ν)}
    (hfound : Decodes (chosen rows filter) found) : store.Answers filter found where
  mem_iff s := by
    rw [hfound.mem_iff, get_eq_some_iff h hids]
    constructor
    · rintro ⟨row, hrow, hdecode⟩
      obtain ⟨hrow, hselected⟩ := mem_chosen_iff.mp hrow
      have hrecords := Row.records_of_decode (hwritten row hrow) hdecode
      exact ⟨⟨row, hrow, hrecords.id.symm, hdecode⟩, (hrecords.isSelected_iff filter).mp hselected⟩
    · rintro ⟨⟨row, hrow, -, hdecode⟩, hadmits⟩
      have hrecords := Row.records_of_decode (hwritten row hrow) hdecode
      exact ⟨row, mem_chosen_iff.mpr ⟨hrow, (hrecords.isSelected_iff filter).mpr hadmits⟩, hdecode⟩
  nodup := by
    have hchosen : ((chosen rows filter).map Row.id).Nodup :=
      ((List.mergeSort_perm _ _).map Row.id).nodup_iff.mpr (hids.sublist (List.filter_sublist.map Row.id))
    refine List.pairwise_map.mpr (hfound.pairwise ((List.pairwise_map.mp hchosen).imp ?_))
    intro a b hne s t hs ht
    rwa [(Row.holds_of_decode hs).id, (Row.holds_of_decode ht).id]
  ranked := by
    have hsorted : (chosen rows filter).Pairwise fun a b => a.precedes b :=
      List.pairwise_mergeSort Row.precedes_trans Row.precedes_total _
    refine hfound.pairwise (hsorted.imp_of_mem ?_)
    intro a b ha hb hprecedes s t hs ht
    have hwrites {row : Row ν} (hrow : row ∈ chosen rows filter) : row.IsWritten :=
      hwritten row (mem_chosen_iff.mp hrow).1
    exact Row.outranks_of_precedes (Row.records_of_decode (hwrites ha) hs)
      (Row.records_of_decode (hwrites hb) ht) hprecedes

/-- After any operations that leave all rows readable, a filter is answered by the suggestions that it
asks for, and with a limit by the first of them. -/
theorem list_answers (operations : List (Operation ν))
    (hdated : ∀ draft id now, .create draft id now ∈ operations → now.IsDated)
    (hreadable : ∀ id, ∃ answer, ((ready : Store ν).after operations).get id = .ok answer)
    (filter : SuggestionFilter) :
    let store := (ready : Store ν).after operations
    ∃ found, store.Answers filter found ∧ store.list { filter with limit := none } = .ok found ∧
      ∀ n, store.list { filter with limit := some n } = .ok (found.take n) := by
  intro store
  obtain ⟨rows, hrows, hids, -⟩ : store.IsSound := isSound_after isSound_ready operations
  have hready : (ready : Store ν).suggestions = some [] := rfl
  obtain ⟨others, hothers, hwritten⟩ := forall_rows_after (p := Row.IsWritten) hready (by simp)
    (fun draft id now hcreate => ⟨⟨draft.kind, rfl⟩, now, hdated draft id now hcreate, rfl⟩)
    fun row hrow _ _ mark _ => Row.isWritten_marked hrow mark.1 mark.2
  obtain rfl : rows = others := Option.some.inj (hrows.symm.trans hothers)
  have hdecode : ∀ row ∈ chosen rows filter, ∃ s, row.decode = .ok s := fun row hrow =>
    exists_decode_of_get hrows hids hreadable (mem_chosen_iff.mp hrow).1
  obtain ⟨found, hfound⟩ := Decodes.exists_of_forall hdecode
  exact ⟨found, answers_of_decodes hrows hids hwritten hfound, list_eq hrows hfound none,
    fun n => list_eq hrows hfound (some n)⟩

/-- Moments of the first second of 2024. -/
def firstSecond (nano : Nat) : Timestamp := { newYear 0 with nano }

def madeAt (id : String) (nano : Nat) : Suggestion Rat := suggestionOf newYearDraft id (firstSecond nano)

/-- Three suggestions that differ in the fraction of a second only, one that is applied, and one of
another kind. -/
def withinSecond : List (Operation Rat) :=
  [.create newYearDraft "whole" (firstSecond 0), .create newYearDraft "millis" (firstSecond 120000000),
    .create newYearDraft "applied" (firstSecond 5), .mark "applied" false (newYear 2),
    .create newYearDraft "nanos" (firstSecond 120000001), .create concurrentDraft "s" leapSecond]

def unappliedTrivial : SuggestionFilter := ⟨some "r", none, some .trivial, true, none⟩

theorem isReadable_madeAt (id : String) {nano : Nat} (h : nano < 10 ^ 9) :
    (madeAt id nano).IsReadable where
  confidence := by
    change Scalar.clampUnit (1 / 2 : Rat) + 0.0 = Scalar.clampUnit (1 / 2)
    decide +kernel
  metadata := by
    change Json.parse? Json.null.render = some .null
    cbv
  createdAt := { isDated_newYear (by decide : 0 < 24) with nano := h }

theorem isReadable_withinSecond {draft : Draft Rat} {id : String} {now : Timestamp}
    (h : .create draft id now ∈ withinSecond) : (suggestionOf draft id now).IsReadable := by
  simp only [withinSecond, List.mem_cons, Operation.create.injEq, List.not_mem_nil, or_false, reduceCtorEq,
    false_or] at h
  obtain ⟨rfl, rfl, rfl⟩ | ⟨rfl, rfl, rfl⟩ | ⟨rfl, rfl, rfl⟩ | ⟨rfl, rfl, rfl⟩ | ⟨rfl, rfl, rfl⟩ := h
  · exact isReadable_madeAt _ (by decide)
  · exact isReadable_madeAt _ (by decide)
  · exact isReadable_madeAt _ (by decide)
  · exact isReadable_madeAt _ (by decide)
  · exact isReadable_concurrentDraft

theorem chosen_withinSecond :
    ∃ rows, ((ready : Store Rat).after withinSecond).suggestions = some rows ∧
      chosen rows unappliedTrivial = [.ofSuggestion (madeAt "nanos" 120000001),
        .ofSuggestion (madeAt "millis" 120000000), .ofSuggestion (madeAt "whole" 0)] := by
  have hwhole : (Row.ofSuggestion (madeAt "whole" 0)).precedes
      (.ofSuggestion (madeAt "millis" 120000000)) = false := by cbv
  have hmillis : (Row.ofSuggestion (madeAt "millis" 120000000)).precedes
      (.ofSuggestion (madeAt "nanos" 120000001)) = false := by cbv
  -- Before they are sorted the rows stand in the order of their creation.
  obtain ⟨rows, hrows, hselected⟩ :
      ∃ rows, ((ready : Store Rat).after withinSecond).suggestions = some rows ∧
        rows.filter (·.isSelected unappliedTrivial.query) = [.ofSuggestion (madeAt "whole" 0),
          .ofSuggestion (madeAt "millis" 120000000), .ofSuggestion (madeAt "nanos" 120000001)] :=
    ⟨_, by cbv, by cbv⟩
  refine ⟨rows, hrows, ?_⟩
  rw [chosen, hselected]
  simp [List.mergeSort, List.MergeSort.Internal.splitInTwo, hwhole, hmillis]

theorem decode_madeAt (id : String) {nano : Nat} (h : nano < 10 ^ 9) :
    (Row.ofSuggestion (madeAt id nano)).decode = .ok (madeAt id nano) :=
  Row.decode_eq rfl (isReadable_madeAt id h)

theorem list_answers_withinSecond :
    let store := (ready : Store Rat).after withinSecond
    ∃ found, store.Answers unappliedTrivial found ∧ found.map (·.id) = ["nanos", "millis", "whole"] ∧
      store.list { unappliedTrivial with limit := some 2 } = .ok (found.take 2) := by
  have hmarks : ∀ id, ∀ operation ∈ withinSecond, ∀ mark ∈ operation.mark? id, mark.2.IsDated := by
    simp [withinSecond, Operation.mark?, isDated_newYear]
  obtain ⟨found, hanswers, hall, hlimit⟩ := list_answers withinSecond
    (fun _ _ _ hcreate => (isReadable_withinSecond hcreate).createdAt)
    (exists_get_after (fun _ _ _ => isReadable_withinSecond) hmarks) unappliedTrivial
  obtain ⟨rows, hrows, hchosen⟩ := chosen_withinSecond
  have hdecodes : Decodes (chosen rows unappliedTrivial)
      [madeAt "nanos" 120000001, madeAt "millis" 120000000, madeAt "whole" 0] := by
    simp [hchosen, Decodes, decode_madeAt]
  obtain rfl := Except.ok.inj (hall.symm.trans (list_eq hrows hdecodes none))
  exact ⟨_, hanswers, rfl, hlimit 2⟩

end Store

end Reconcile
