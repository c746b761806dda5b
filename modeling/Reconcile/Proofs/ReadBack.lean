import Mathlib
import Reconcile.Json.Codec

/-!
Values of the interchange format that are read back as what was written, with the fields of objects
in any order. A field that is left out when its value is absent is told apart from one that is
written, whatever it holds, because nothing that is there is written as null.
-/

namespace Reconcile

namespace Json

/-- Values that say the same: what a name stands for in an object matters, not where it stands. -/
inductive Alike : Json → Json → Prop
  | refl (value : Json) : Alike value value
  | arr {items others : List Json} (h : List.Forall₂ Alike items others) :
      Alike (arr items) (arr others)
  | obj {fields others : List (String × Json)}
      (h : ∀ name, Option.Rel Alike (lookup fields name) (lookup others name)) :
      Alike (obj fields) (obj others)

theorem Alike.items {items : List Json} {value : Json} (h : Alike (.arr items) value) :
    ∃ others, value = .arr others ∧ List.Forall₂ Alike items others := by
  cases h with
  | refl => exact ⟨items, rfl, List.forall₂_same.mpr fun item _ => .refl item⟩
  | arr h => exact ⟨_, rfl, h⟩

theorem Alike.rel_refl : ∀ value : Option Json, Option.Rel Alike value value
  | none => .none
  | some value => .some (.refl value)

theorem Alike.fields {fields : List (String × Json)} {value : Json} (h : Alike (.obj fields) value) :
    ∃ others, value = .obj others ∧
      ∀ name, Option.Rel Alike (lookup fields name) (lookup others name) := by
  cases h with
  | refl => exact ⟨fields, rfl, fun name => Alike.rel_refl (lookup fields name)⟩
  | obj h => exact ⟨_, rfl, h⟩

section Lookup

variable {fields later : List (String × Json)} {name other : String} {value : Json}

@[simp] theorem lookup_nil : lookup [] name = none := rfl

@[simp] theorem lookup_append :
    lookup (fields ++ later) name = (lookup later name).or (lookup fields name) := by
  simp [lookup, Option.map_or]

@[simp] theorem lookup_cons :
    lookup ((other, value) :: later) name =
      (lookup later name).or (if other = name then some value else none) := by
  rw [← List.singleton_append, lookup_append]
  congr 1
  by_cases h : other = name <;> simp [lookup, h]

@[simp] theorem lookup_optionalField {encode : α → Json} {a : Option α} :
    lookup (optionalField other encode a) name = if other = name then a.map encode else none := by
  cases a <;> simp [optionalField]

theorem isSome_lookup : (lookup fields name).isSome = fields.any (·.1 = name) := by
  rw [Bool.eq_iff_iff]
  simp [lookup]

theorem mem_of_lookup (h : lookup fields name = some value) : (name, value) ∈ fields := by
  obtain ⟨field, hfind, rfl⟩ := Option.map_eq_some_iff.mp h
  have hname : field.1 = name := by simpa using List.find?_some hfind
  exact hname ▸ List.mem_reverse.mp (List.mem_of_find?_eq_some hfind)

theorem lookup_eq_some_iff (hnames : (fields.map (·.1)).Nodup) :
    lookup fields name = some value ↔ (name, value) ∈ fields := by
  refine ⟨mem_of_lookup, fun hmem => ?_⟩
  have hsome : (lookup fields name).isSome := by
    rw [isSome_lookup, List.any_eq_true]
    exact ⟨(name, value), hmem, by simp⟩
  obtain ⟨found, hfound⟩ := Option.isSome_iff_exists.mp hsome
  have hsame := List.inj_on_of_nodup_map hnames hmem (mem_of_lookup hfound) rfl
  rw [hfound, (Prod.mk.inj hsame).2]

/-- The order of fields with different names does not matter. -/
theorem Alike.of_perm (hnames : (fields.map (·.1)).Nodup) (hperm : fields.Perm later) :
    Alike (.obj fields) (.obj later) := by
  have hlater : (later.map (·.1)).Nodup := (hperm.map (·.1)).nodup_iff.mp hnames
  have hsame (name : String) : lookup fields name = lookup later name := Option.ext fun value => by
    rw [lookup_eq_some_iff hnames, lookup_eq_some_iff hlater, hperm.mem_iff]
  exact .obj fun name => hsame name ▸ Alike.rel_refl (lookup fields name)

end Lookup

/-- What is written of `a` is read as `a`, and is not null, which stands for an absent value. -/
structure Survives (encode : α → Json) (decode : Json → Option α) (a : α) : Prop where
  ne_null : encode a ≠ null
  reads : ∀ value, (encode a).Alike value → decode value = some a

section Survives

variable {encode : α → Json} {decode : Json → Option α} {a : α} {value : Json}

theorem Survives.text (s : String) : Survives str toText? s where
  ne_null := nofun
  reads
    | _, .refl _ => rfl

theorem Survives.bool (b : Bool) : Survives bool toBool? b where
  ne_null := nofun
  reads
    | _, .refl _ => rfl

theorem Survives.count {n : Nat} (hn : n < countLimit) : Survives nat toCount? n where
  ne_null := nofun
  reads
    | _, .refl _ => by
      have hlimit : (n : Int) < (countLimit : Int) := Int.ofNat_lt.mpr hn
      simp [toCount?, nat, hlimit]

/-- A case without data, written as its name. -/
theorem Survives.case {name : α → String} {ofName? : String → Option α}
    (hname : ofName? (name a) = some a) : Survives (fun a => str (name a)) (toCase? ofName?) a where
  ne_null := nofun
  reads
    | _, .refl _ => hname

/-- Items that say what was written of a list, one by one. -/
theorem mapM_eq_some {items : List α} {others : List Json}
    (hothers : List.Forall₂ Alike (items.map encode) others)
    (hitems : ∀ a ∈ items, Survives encode decode a) : others.mapM decode = some items := by
  induction items generalizing others with
  | nil => cases hothers; rfl
  | cons a rest ih =>
    obtain ⟨ha, hrest⟩ := List.forall_mem_cons.mp hitems
    cases hothers with
    | cons hfirst hothers => simp [List.mapM_cons, ha.reads _ hfirst, ih hothers hrest]

theorem Survives.list {items : List α} (hitems : ∀ a ∈ items, Survives encode decode a) :
    Survives (list encode) (toList? decode) items where
  ne_null := nofun
  reads value hvalue := by
    obtain ⟨others, rfl, hothers⟩ := hvalue.items
    exact mapM_eq_some hothers hitems

/-- A field that says what was written of a value, if there is one, is read as that value. -/
theorem bind_of_rel {a : Option α} {given : Option Json} (ha : ∀ b ∈ a, Survives encode decode b)
    (h : Option.Rel Alike (a.map encode) given) : given.bind decode = a := by
  cases a with
  | none => cases h; rfl
  | some b =>
    cases h with
    | some h => exact (ha b rfl).reads _ h

theorem Survives.toOption? (ha : Survives encode decode a) (hvalue : (encode a).Alike value) :
    value.toOption? decode = some (some a) := by
  have hread := ha.reads value hvalue
  cases value with
  | null =>
    -- Only null says the same as null.
    generalize hcode : encode a = code at hvalue
    cases hvalue
    exact absurd hcode ha.ne_null
  | _ => simp [Json.toOption?, hread]

end Survives

namespace Record

variable {encode : α → Json} {decode : Json → Option α} {fields : List (String × Json)} {r : Record}
  {place : Nat}

/-- A record that holds these fields, by their names and wherever they stand. -/
def Holds (r : Record) (fields : List (String × Json)) : Prop :=
  ∀ name place, Option.Rel Alike (lookup fields name) (r.value? name place)

theorem Holds.required (h : r.Holds fields) (name : String) {a : α} (ha : Survives encode decode a)
    (hfield : lookup fields name = some (encode a)) : r.required name place decode = some a := by
  have hvalue := h name place
  rw [hfield] at hvalue
  exact bind_of_rel (a := some a) (fun b hb => Option.some.inj hb ▸ ha) hvalue

/-- A field that is left out when its value is absent. -/
theorem Holds.optional (h : r.Holds fields) (name : String) (a : Option α)
    (ha : ∀ b ∈ a, Survives encode decode b) (hfield : lookup fields name = a.map encode) :
    r.optional name place decode = some a := by
  have hvalue := h name place
  rw [hfield] at hvalue
  rw [Record.optional, Record.default]
  generalize r.value? name place = given at hvalue
  cases a with
  | none => cases hvalue; rfl
  | some b =>
    cases hvalue with
    | some hvalue => exact (ha b rfl).toOption? hvalue

/-- A field that is null when its value is absent. -/
theorem Holds.nullable (h : r.Holds fields) (name : String) (a : Option α)
    (ha : ∀ b ∈ a, Survives encode decode b) (hfield : lookup fields name = some (ofOption encode a)) :
    r.nullable name place decode = some a := by
  have hvalue := h name place
  rw [hfield] at hvalue
  rw [Record.nullable]
  generalize r.value? name place = given at hvalue
  cases hvalue with
  | some hvalue =>
    cases a with
    | none => cases hvalue; rfl
    | some b => exact (ha b rfl).toOption? hvalue

end Record

theorem Alike.toRecord? {fields : List (String × Json)} {value : Json} (h : Alike (.obj fields) value)
    (size : Nat) : ∃ r, value.toRecord? size = some r ∧ r.Holds fields := by
  obtain ⟨others, rfl, hothers⟩ := h.fields
  exact ⟨⟨fun name _ => lookup others name, false⟩, rfl, fun name _ => hothers name⟩

section Entries

variable {decode : Json → Option α} {fields : List (String × Json)}

/-- The fields whose names do not come again. -/
def lastFields : List (String × Json) → List (String × Json)
  | [] => []
  | field :: rest =>
    if (lookup rest field.1).isSome then lastFields rest else field :: lastFields rest

theorem lookup_lastFields (fields : List (String × Json)) (name : String) :
    (lastFields fields).lookup name = lookup fields name := by
  induction fields with
  | nil => rfl
  | cons field rest ih =>
    obtain ⟨other, value⟩ := field
    rw [lookup_cons, ← ih, lastFields]
    by_cases hname : other = name
    · subst hname
      cases hlater : lookup rest other <;> simp [hlater, ih]
    · have hne : (name == other) = false := beq_false_of_ne (Ne.symm hname)
      cases hlater : lookup rest other <;> simp [hname, List.lookup_cons, hne]

theorem lookup_of_mem_lastFields {field : String × Json} (h : field ∈ lastFields fields) :
    lookup fields field.1 = some field.2 := by
  induction fields with
  | nil => cases h
  | cons first rest ih =>
    rw [lookup_cons]
    cases hlater : lookup rest first.1 with
    | some value =>
      rw [lastFields, hlater] at h
      simp [ih h]
    | none =>
      rw [lastFields, hlater] at h
      rcases List.mem_cons.mp h with rfl | h
      · simp [hlater]
      · simp [ih h]

/-- Looking ahead from a place in a list of fields sees the fields after it. -/
theorem map_filter_zipIdx (before : List (String × Json)) :
    (((fields.zipIdx before.length).filter fun (field, i) =>
      !((before ++ fields).drop (i + 1)).any (·.1 = field.1)).map (·.1)) = lastFields fields := by
  induction fields generalizing before with
  | nil => rfl
  | cons field rest ih =>
    have hrest := ih (before ++ [field])
    have hdrop : (before ++ field :: rest).drop (before.length + 1) = rest := by simp
    rw [List.append_assoc, List.singleton_append, List.length_append, List.length_singleton] at hrest
    simp only [List.zipIdx_cons, List.filter_cons, lastFields, isSome_lookup, hdrop]
    cases rest.any (·.1 = field.1) <;> simp [hrest]

theorem toEntries?_obj :
    (obj fields).toEntries? decode =
      (lastFields fields).mapM fun field => (decode field.2).map (field.1, ·) := by
  rw [← map_filter_zipIdx [], List.mapM_map]
  rfl

theorem exists_mapM_entries (hdecode : ∀ field ∈ fields, ∃ a, decode field.2 = some a) :
    ∃ entries, (fields.mapM fun field => (decode field.2).map (field.1, ·)) = some entries ∧
      ∀ name, entries.lookup name = (fields.lookup name).bind decode := by
  induction fields with
  | nil => exact ⟨[], rfl, fun _ => rfl⟩
  | cons field rest ih =>
    obtain ⟨⟨a, ha⟩, hrest⟩ := List.forall_mem_cons.mp hdecode
    obtain ⟨entries, hentries, hlookup⟩ := ih hrest
    refine ⟨(field.1, a) :: entries, by simp [List.mapM_cons, ha, hentries], fun name => ?_⟩
    rw [List.lookup_cons, List.lookup_cons, hlookup]
    cases name == field.1 <;> simp [ha]

/-- An object whose values can all be read has an entry for each of its names. -/
theorem exists_entries
    (hdecode : ∀ name value, lookup fields name = some value → ∃ a, decode value = some a) :
    ∃ entries, (obj fields).toEntries? decode = some entries ∧
      ∀ name, entries.lookup name = (lookup fields name).bind decode := by
  rw [toEntries?_obj]
  simp only [← lookup_lastFields fields]
  exact exists_mapM_entries fun field hfield => hdecode _ _ (lookup_of_mem_lastFields hfield)

end Entries

end Json

end Reconcile
