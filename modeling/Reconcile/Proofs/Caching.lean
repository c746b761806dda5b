import Mathlib.Data.Set.Card
import Reconcile.Outline.Cache

/-!
# Outlines from the cache

A cache has at most one outline of a path: the one of the text that the path was last read with, if that
text has an outline, since the cache was last cleared. It is given again only for a text with the stamp
of that text. So where stamps tell the texts apart that are read, a reader with a cache gives what it
gives without one.
-/

namespace Reconcile

namespace Outline

variable {κ : Type}

namespace Cache

variable {cache : Cache κ} {path : String} {stamp : κ} {outline : Outline}

theorem find?_erase (cache : Cache κ) (path other : String) :
    (cache.erase path).find? other = if other = path then none else cache.find? other := by
  unfold find? erase
  rw [List.find?_filter]
  by_cases hsame : other = path
  · subst hsame
    rw [if_pos rfl, List.find?_eq_none]
    intro entry _
    simp
  · rw [if_neg hsame]
    refine congrArg (List.find? · cache.entries) ?_
    funext entry
    by_cases hother : entry.path = other <;> simp [hother, hsame]

theorem find?_insert (cache : Cache κ) (path : String) (stamp : κ) (outline : Outline) (other : String) :
    (cache.insert path stamp outline).find? other =
      if other = path then some ⟨path, stamp, outline⟩ else cache.find? other := by
  have htail := cache.find?_erase path other
  unfold find? at htail ⊢
  rw [insert, List.find?_cons, htail]
  by_cases hsame : other = path
  · simp [hsame]
  · simp [hsame, Ne.symm hsame]

def paths (cache : Cache κ) : List String := cache.entries.map (·.path)

theorem mem_paths_iff : path ∈ cache.paths ↔ (cache.find? path).isSome := by
  simp [paths, find?, List.find?_isSome]

theorem paths_erase_sublist (cache : Cache κ) (path : String) : (cache.erase path).paths.Sublist cache.paths :=
  List.filter_sublist.map _

theorem nodup_insert (h : cache.paths.Nodup) (path : String) (stamp : κ) (outline : Outline) :
    (cache.insert path stamp outline).paths.Nodup := by
  have hfree : path ∉ (cache.erase path).paths := by
    rw [mem_paths_iff, find?_erase, if_pos rfl]
    simp
  exact List.nodup_cons.mpr ⟨hfree, h.sublist (cache.paths_erase_sublist path)⟩

theorem ncard_find? (h : cache.paths.Nodup) : {path | (cache.find? path).isSome}.ncard = cache.size := by
  have hpaths : {path | (cache.find? path).isSome} = ↑cache.paths.toFinset := by
    ext path
    simp [mem_paths_iff]
  rw [hpaths, Set.ncard_coe_finset, List.toFinset_card_of_nodup h, paths, List.length_map, size]

/-- A cache is left as it is where it has an outline under the stamp, and else is left with none of the
path. -/
theorem get?_or [DecidableEq κ] (cache : Cache κ) (path : String) (stamp : κ) :
    (∃ entry, cache.find? path = some entry ∧ entry.stamp = stamp ∧
      cache.get? path stamp = (some entry.outline, cache)) ∨
    ∃ left, cache.get? path stamp = (none, left) ∧ left.paths.Sublist cache.paths ∧
      ∀ other, left.find? other = if other = path then none else cache.find? other := by
  unfold get?
  cases hfind : cache.find? path with
  | none =>
      refine .inr ⟨cache, rfl, List.Sublist.refl _, fun other => ?_⟩
      by_cases hsame : other = path <;> simp [hsame, hfind]
  | some entry =>
      by_cases hstamp : entry.stamp = stamp
      · exact .inl ⟨entry, rfl, hstamp, if_pos hstamp⟩
      · exact .inr ⟨cache.erase path, if_neg hstamp, cache.paths_erase_sublist path, cache.find?_erase path⟩

end Cache

/-! ### A history of reading -/

/-- What a reader with a cache is asked for. -/
inductive Query where
  | read (path content : String)
  | clear
  deriving DecidableEq

namespace Query

def content? : Query → Option String
  | read _ content => some content
  | clear => none

def contentOf? (path : String) : Query → Option String
  | read other content => if other = path then some content else none
  | clear => none

end Query

def texts (queries : List Query) : List String := queries.filterMap Query.content?

@[simp]
theorem texts_append (queries later : List Query) : texts (queries ++ later) = texts queries ++ texts later :=
  List.filterMap_append

@[simp]
theorem texts_read (path content : String) (later : List Query) :
    texts (.read path content :: later) = content :: texts later := rfl

/-- The text that a path was last read with since the cache was last cleared. -/
def latest? (queries : List Query) (path : String) : Option String :=
  (queries.reverse.takeWhile (· ≠ .clear)).findSome? (Query.contentOf? path)

@[simp]
theorem latest?_nil (path : String) : latest? [] path = none := rfl

@[simp]
theorem latest?_clear (queries : List Query) (path : String) :
    latest? (queries ++ [.clear]) path = none := by
  simp [latest?]

@[simp]
theorem latest?_read (queries : List Query) (path content other : String) :
    latest? (queries ++ [.read path content]) other =
      if path = other then some content else latest? queries other := by
  by_cases hsame : path = other <;> simp [latest?, Query.contentOf?, hsame]

theorem mem_of_latest? {queries : List Query} {path content : String}
    (h : latest? queries path = some content) : content ∈ texts queries := by
  obtain ⟨query, hquery, hcontent⟩ := List.exists_of_findSome?_eq_some h
  have hmem : query ∈ queries := List.mem_reverse.mp ((List.takeWhile_sublist _).subset hquery)
  cases query with
  | clear => cases hcontent
  | read other text =>
      rw [Query.contentOf?] at hcontent
      split_ifs at hcontent
      cases hcontent
      exact List.mem_filterMap.mpr ⟨_, hmem, rfl⟩

namespace Reader

variable {reader : Reader κ} {cache : Cache κ} {queries : List Query} {path content : String}

/-- No two of some texts have one stamp. -/
def TellsApart (reader : Reader κ) (texts : List String) : Prop :=
  ∀ a ∈ texts, ∀ b ∈ texts, reader.stamp a = reader.stamp b → a = b

theorem TellsApart.mono {texts fewer : List String} (h : reader.TellsApart texts) (hsub : fewer ⊆ texts) :
    reader.TellsApart fewer := fun a ha b hb => h a (hsub ha) b (hsub hb)

/-- The entry that is kept once a path has been read with a text. -/
def entry? (reader : Reader κ) (path content : String) : Option (Entry κ) :=
  (reader.fresh? path content).map (⟨path, reader.stamp content, ·⟩)

/-- The entries of a cache are those of the texts that the paths were last read with. -/
structure Reflects (reader : Reader κ) (cache : Cache κ) (queries : List Query) : Prop where
  find? : ∀ path, cache.find? path = (latest? queries path).bind (reader.entry? path)
  nodup : cache.paths.Nodup

theorem reflects_empty (reader : Reader κ) : reader.Reflects .empty [] := ⟨fun _ => rfl, List.nodup_nil⟩

variable [DecidableEq κ]

def serve (reader : Reader κ) (cache : Cache κ) : Query → Cache κ
  | .read path content => (reader.cached? path content cache).2
  | .clear => .empty

/-- The cache of a reader that was asked for some things, one after another. -/
def cacheAfter (reader : Reader κ) (queries : List Query) : Cache κ := queries.foldl reader.serve .empty

/-- An entry is used only for the text it is of, so what is read is what is there without the cache. -/
theorem cached?_of_find? {former : Option String} (hnodup : cache.paths.Nodup)
    (hfind : cache.find? path = former.bind (reader.entry? path))
    (hstamp : ∀ text, former = some text → reader.stamp text = reader.stamp content → text = content) :
    (reader.cached? path content cache).1 = reader.fresh? path content ∧
      (reader.cached? path content cache).2.paths.Nodup ∧
      ∀ other, (reader.cached? path content cache).2.find? other =
        if other = path then reader.entry? path content else cache.find? other := by
  unfold cached? entry? fresh? at *
  by_cases henabled : reader.isEnabled
  · simp only [henabled, if_true] at hfind ⊢
    obtain ⟨entry, hentry, hsame, hget⟩ | ⟨left, hget, hleft, hfound⟩ :=
      cache.get?_or path (reader.stamp content)
    · rw [hentry] at hfind
      obtain ⟨text, rfl, hread⟩ := Option.bind_eq_some_iff.mp hfind.symm
      obtain ⟨outline, houtline, rfl⟩ := Option.map_eq_some_iff.mp hread
      obtain rfl := hstamp text rfl hsame
      rw [hget, houtline]
      refine ⟨rfl, hnodup, fun other => ?_⟩
      by_cases hother : other = path <;> simp [hother, hentry]
    · rw [hget]
      cases hread : reader.read? path content with
      | none => exact ⟨rfl, hnodup.sublist hleft, hfound⟩
      | some outline =>
          refine ⟨rfl, Cache.nodup_insert (hnodup.sublist hleft) path _ outline, fun other => ?_⟩
          rw [Cache.find?_insert, hfound]
          by_cases hother : other = path <;> simp [hother]
  · have hnone : cache.find? path = none := by
      rw [hfind]
      cases former <;> simp [henabled]
    refine ⟨by simp [henabled], by simpa [henabled] using hnodup, fun other => ?_⟩
    by_cases hother : other = path <;> simp [hother, henabled, hnone]

theorem reflects_read (h : reader.Reflects cache queries)
    (htexts : reader.TellsApart (texts queries ++ [content])) :
    (reader.cached? path content cache).1 = reader.fresh? path content ∧
      reader.Reflects (reader.serve cache (.read path content)) (queries ++ [.read path content]) := by
  have hstamp : ∀ text, latest? queries path = some text →
      reader.stamp text = reader.stamp content → text = content := by
    intro text hlatest
    have hmem : text ∈ texts queries := mem_of_latest? hlatest
    exact htexts text (by simp [hmem]) content (by simp)
  obtain ⟨hresult, hnodup, hfind⟩ := cached?_of_find? h.nodup (h.find? path) hstamp
  refine ⟨hresult, fun other => ?_, hnodup⟩
  rw [serve, hfind, latest?_read]
  by_cases hother : other = path
  · simp [hother]
  · simp [hother, Ne.symm hother, h.find?]

/-- Whatever was asked for before, the cache has the entries of the texts that were read last. -/
theorem reflects_cacheAfter (reader : Reader κ) (queries : List Query)
    (htexts : reader.TellsApart (texts queries)) :
    reader.Reflects (reader.cacheAfter queries) queries := by
  induction queries using List.reverseRecOn with
  | nil => exact reader.reflects_empty
  | append_singleton queries query ih =>
      rw [cacheAfter, List.foldl_append]
      rw [texts_append] at htexts
      have hbefore : reader.Reflects (reader.cacheAfter queries) queries := ih (htexts.mono (by simp))
      cases query with
      | read path content => exact (reflects_read hbefore htexts).2
      | clear => exact ⟨fun path => by simp [serve, Cache.empty, Cache.find?], List.nodup_nil⟩

/-- The text that a path was last read with has an outline. -/
def IsRemembered (reader : Reader κ) (queries : List Query) (path : String) : Prop :=
  ∃ content, latest? queries path = some content ∧ (reader.fresh? path content).isSome

omit [DecidableEq κ] in
theorem Reflects.isSome_find?_iff (h : reader.Reflects cache queries) (path : String) :
    (cache.find? path).isSome ↔ reader.IsRemembered queries path := by
  rw [h.find?, Option.isSome_bind]
  cases hlatest : latest? queries path <;> simp [IsRemembered, entry?, hlatest]

/-- A reader with a cache gives what it gives without one. After each thing it was asked for, the cache
has the paths whose last text has an outline, since the cache was last cleared, each of them once. -/
theorem reads_as_fresh (reader : Reader κ) (queries : List Query)
    (htexts : reader.TellsApart (texts queries)) :
    (∀ earlier path content later, queries = earlier ++ .read path content :: later →
      (reader.cached? path content (reader.cacheAfter earlier)).1 = reader.fresh? path content) ∧
    ∀ earlier later, queries = earlier ++ later →
      (∀ path, path ∈ (reader.cacheAfter earlier).paths ↔ reader.IsRemembered earlier path) ∧
        (reader.cacheAfter earlier).size = {path | reader.IsRemembered earlier path}.ncard := by
  constructor
  · rintro earlier path content later rfl
    rw [texts_append, texts_read] at htexts
    have hbefore := reader.reflects_cacheAfter earlier (htexts.mono (by simp))
    exact (reflects_read hbefore (htexts.mono (by simp))).1
  · rintro earlier later rfl
    rw [texts_append] at htexts
    have hreflects := reader.reflects_cacheAfter earlier (htexts.mono (by simp))
    refine ⟨fun path => Cache.mem_paths_iff.trans (hreflects.isSome_find?_iff path), ?_⟩
    rw [← Cache.ncard_find? hreflects.nodup]
    congr 1
    ext path
    exact hreflects.isSome_find?_iff path

/-- Stamps texts with their lengths, and reads each that is not empty. -/
def lengthReader : Reader Nat where
  stamp := String.length
  read? _ content := if content = "" then none else some ⟨if content = "a" then .python else .go, []⟩
  isEnabled := true

/-- One path is read in several versions, the other at last without success. -/
def versions : List Query :=
  [.read "p" "a", .read "q" "bb", .clear, .read "p" "bb", .read "q" "", .read "p" "a"]

theorem reads_as_fresh_versions : lengthReader.TellsApart (texts versions) ∧
    (lengthReader.cached? "p" "a" (lengthReader.cacheAfter (versions.take 5))).1 = some ⟨.python, []⟩ ∧
      "p" ∈ (lengthReader.cacheAfter versions).paths ∧ "q" ∉ (lengthReader.cacheAfter versions).paths := by
  have happart : lengthReader.TellsApart (texts versions) := by
    unfold TellsApart
    decide +kernel
  obtain ⟨hread, hkept⟩ := reads_as_fresh lengthReader versions happart
  obtain ⟨hpaths, -⟩ := hkept versions [] (List.append_nil _).symm
  refine ⟨happart, hread (versions.take 5) "p" "a" [] rfl, (hpaths "p").mpr ⟨"a", rfl, rfl⟩, fun hmem => ?_⟩
  obtain ⟨content, hlatest, hsome⟩ := (hpaths "q").mp hmem
  have hempty : latest? versions "q" = some "" := rfl
  obtain rfl := Option.some.inj (hempty.symm.trans hlatest)
  cases hsome

end Reader

end Outline

end Reconcile
