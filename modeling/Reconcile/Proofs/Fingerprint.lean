import Mathlib
import Reconcile.Proofs.Comparison
import Reconcile.Proofs.LineContent
import Reconcile.Source.Declarations

/-!
# Fingerprints and layout

The fingerprint of a declaration is a digest of its significant lines, joined by line feeds. None of these
lines is empty or has a line feed in it, so the lines can be told from what they are joined to. Where the
digests of such texts differ as the texts do, two declarations therefore have one fingerprint just if they
differ in layout only, and what is listed as modified is what the check for layout tells apart.
-/

namespace Reconcile

/-! ### Digests -/

namespace Digest

/-- No two of some texts have one digest. -/
def TellsApart (texts : List String) : Prop :=
  ∀ a ∈ texts, ∀ b ∈ texts, sha256 a.toUTF8.toList = sha256 b.toUTF8.toList → a = b

def digits (b : UInt8) : List Char := [Nat.digitChar (b.toNat / 16), Nat.digitChar (b.toNat % 16)]

theorem digitChar_injOn : Set.InjOn Nat.digitChar (Set.Iio 16) := by
  have hall : ∀ m n : Fin 16, Nat.digitChar m = Nat.digitChar n → m = n := by decide
  intro m hm n hn h
  exact congrArg Fin.val (hall ⟨m, hm⟩ ⟨n, hn⟩ h)

theorem digits_injective : Function.Injective digits := by
  intro a b h
  obtain ⟨hhigh, hlow⟩ := List.cons_eq_cons.mp h
  have ha := a.toNat_lt
  have hb := b.toNat_lt
  have hquotient : a.toNat / 16 = b.toNat / 16 := by
    refine digitChar_injOn ?_ ?_ hhigh <;> rw [Set.mem_Iio] <;> omega
  have hremainder : a.toNat % 16 = b.toNat % 16 := by
    refine digitChar_injOn ?_ ?_ (List.cons_eq_cons.mp hlow).1 <;> rw [Set.mem_Iio] <;> omega
  exact UInt8.toNat_inj.mp (by omega)

theorem hex_injective : Function.Injective hex := by
  intro first second h
  have hflat : first.flatMap digits = second.flatMap digits := String.ofList_injective h
  clear h
  induction first generalizing second with
  | nil =>
      cases second with
      | nil => rfl
      | cons b second => cases hflat
  | cons a first ih =>
      cases second with
      | nil => cases hflat
      | cons b second =>
          rw [List.flatMap_cons, List.flatMap_cons] at hflat
          obtain ⟨hdigits, hrest⟩ := List.append_inj hflat rfl
          rw [digits_injective hdigits, ih hrest]

variable {texts : List String} {a b : String}

theorem TellsApart.ofText_eq_iff (h : TellsApart texts) (ha : a ∈ texts) (hb : b ∈ texts) :
    ofText a = ofText b ↔ a = b :=
  ⟨fun hdigest => h a ha b hb (hex_injective hdigest), congrArg ofText⟩

end Digest

/-! ### Significant lines joined to a text -/

namespace Text

variable {line text : List Char} {ls : List (List Char)}

theorem mem_joinWords_words {c : Char} (h : c ∈ joinWords (words line)) : c = ' ' ∨ isBlank c = false := by
  rw [joinWords_words] at h
  obtain ⟨marked, hmarked, hc⟩ := List.mem_flatMap.mp h
  have hvisible := isBlank_of_mem_trace hmarked
  obtain ⟨d, _ | _⟩ := marked
  · obtain rfl := List.mem_singleton.mp hc
    exact .inr hvisible
  · simp only [written, List.mem_cons, List.not_mem_nil, or_false] at hc
    obtain rfl | rfl := hc
    · exact .inr hvisible
    · exact .inl rfl

theorem joinWords_words_ne_nil (h : isSignificant line) : joinWords (words line) ≠ [] := by
  obtain ⟨hvisible, -⟩ := isSignificant_iff.mp h
  intro hnil
  apply hvisible
  rw [← map_fst_trace, ← trace_joinWords_words, hnil]
  rfl

theorem of_mem_significantLines (h : line ∈ significantLines text) : line ≠ [] ∧ '\n' ∉ line := by
  obtain ⟨whole, -, hline⟩ := List.mem_filterMap.mp h
  rw [significantLine?] at hline
  split_ifs at hline with hsignificant
  obtain rfl := Option.some.inj hline
  refine ⟨joinWords_words_ne_nil hsignificant, fun hmem => ?_⟩
  obtain hspace | hvisible := mem_joinWords_words hmem
  · cases hspace
  · cases hvisible

/-- The lines that a text was joined from; the empty text is joined from none. -/
def unjoin (text : List Char) : List (List Char) := if text = [] then [] else text.splitOn '\n'

theorem unjoin_intercalate (h : ∀ line ∈ ls, line ≠ [] ∧ '\n' ∉ line) :
    unjoin (['\n'].intercalate ls) = ls := by
  cases ls with
  | nil => rfl
  | cons line rest =>
      have hline := (h line List.mem_cons_self).1
      have hne : ['\n'].intercalate (line :: rest) ≠ [] := by
        cases rest <;> simp [List.intercalate, hline]
      rw [unjoin, if_neg hne]
      exact List.splitOn_intercalate '\n' (fun line hline => (h line hline).2) (List.cons_ne_nil line rest)

theorem unjoin_significantText (text : String) :
    unjoin (significantText text).toList = significantLines text.toList := by
  rw [significantText, String.toList_ofList, unjoin_intercalate fun line => of_mem_significantLines]

theorem significantText_eq_iff {a b : String} :
    significantText a = significantText b ↔ sameSignificance a b := by
  rw [sameSignificance, decide_eq_true_iff]
  constructor
  · intro h
    rw [← unjoin_significantText, h, unjoin_significantText]
  · intro h
    rw [significantText, h, significantText]

end Text

theorem fingerprint_eq_iff {texts : List String} {a b : String}
    (h : Digest.TellsApart (texts.map Text.significantText)) (ha : a ∈ texts) (hb : b ∈ texts) :
    fingerprint Digest.ofText a = fingerprint Digest.ofText b ↔ Text.sameSignificance a b := by
  rw [← Text.significantText_eq_iff]
  exact h.ofText_eq_iff (List.mem_map_of_mem ha) (List.mem_map_of_mem hb)

/-! ### Declarations with their texts -/

/-- A declaration as it stands in a source. -/
structure Passage where
  kind : DeclarationKind
  name : Option String
  span : LineSpan
  text : String
  deriving DecidableEq, Repr

namespace Passage

def key (passage : Passage) : DeclarationKey := .of passage.kind passage.name

/-- What an outline keeps of a declaration. -/
def declaration (passage : Passage) : Declaration :=
  ⟨passage.kind, passage.name, passage.span, fingerprint Digest.ofText passage.text⟩

end Passage

/-- A source in a language, and a tree of it. -/
structure Parsing where
  language : Language
  source : Grammar.Source
  root : Grammar.Tree

namespace Parsing

variable {parsing before after : Parsing}

def outline (parsing : Parsing) : Outline := .ofTree parsing.language parsing.source parsing.root

/-- The declarations at the top level of a source, with their texts. -/
def passages (parsing : Parsing) : List Passage :=
  (parsing.root.children.flatMap (·.namedChildren)).filterMap fun t =>
    (parsing.language.declaration parsing.source t).map fun (kind, name) =>
      { kind, name
        span := ⟨lineAt parsing.source t.start, lineAt parsing.source t.stop⟩
        text := String.ofList (t.text parsing.source) }

/-- What a key stands for in a source: the first declaration of it. -/
def first? (parsing : Parsing) (key : DeclarationKey) : Option Passage :=
  parsing.passages.find? (·.key = key)

/-- Reads a file, if its name tells a language and its text is written in that. -/
def read? (path content : String) : Option Parsing := do
  let language ← Language.ofPath? path
  let source := content.toList.toArray
  let root ← language.tree? source
  some ⟨language, source, root⟩

theorem outline_read? (path content : String) :
    Outline.read? path content = (read? path content).map outline := by
  simp only [Outline.read?, read?, Option.bind_eq_bind, Option.map_bind, Function.comp_def,
    Option.map_some]
  rfl

theorem declarations_outline (parsing : Parsing) :
    parsing.outline.declarations = parsing.passages.map Passage.declaration := by
  simp only [outline, Outline.ofTree, passages, List.map_filterMap, Option.map_map]
  rfl

theorem first?_outline (parsing : Parsing) (key : DeclarationKey) :
    parsing.outline.first? key = (parsing.first? key).map Passage.declaration := by
  rw [Outline.first?, declarations_outline, List.find?_map]
  rfl

theorem key_of_first? {key : DeclarationKey} {passage : Passage} (h : parsing.first? key = some passage) :
    passage.key = key := by
  simpa using List.find?_some h

/-- Declarations of two sources that are compared with each other. -/
structure Matches (before after : Parsing) (passage other : Passage) : Prop where
  before : before.first? passage.key = some passage
  after : after.first? passage.key = some other

theorem Matches.key_eq {passage other : Passage} (h : before.Matches after passage other) :
    other.key = passage.key :=
  key_of_first? h.after

theorem mem_modified_iff {node : ChangedNode} :
    node ∈ (Changes.between before.outline after.outline).modified ↔
      ∃ passage other, before.Matches after passage other ∧
        other.declaration.fingerprint ≠ passage.declaration.fingerprint ∧
          .ofDeclaration other.declaration = node := by
  rw [(Changes.compares_between before.outline after.outline).modified]
  simp only [first?_outline, Option.map_eq_some_iff]
  constructor
  · rintro ⟨d, d', ⟨passage, hpassage, rfl⟩, ⟨other, hother, rfl⟩, hchanged, hnode⟩
    exact ⟨passage, other, ⟨hpassage, hother⟩, hchanged, hnode⟩
  · rintro ⟨passage, other, hmatch, hchanged, hnode⟩
    exact ⟨passage.declaration, other.declaration, ⟨passage, hmatch.before, rfl⟩,
      ⟨other, hmatch.after, rfl⟩, hchanged, hnode⟩

/-- A key is listed once at most, so a declaration is listed for its own match and for no other. -/
theorem Matches.mem_modified_iff {passage other : Passage} (h : before.Matches after passage other) :
    .ofDeclaration other.declaration ∈ (Changes.between before.outline after.outline).modified ↔
      other.declaration.fingerprint ≠ passage.declaration.fingerprint := by
  rw [Parsing.mem_modified_iff]
  constructor
  · rintro ⟨passage', other', hmatch, hchanged, hnode⟩
    have hkey : other'.key = other.key := congrArg ChangedNode.key hnode
    have hkeys : passage'.key = passage.key := by rw [← hmatch.key_eq, hkey, h.key_eq]
    have hpassage : passage' = passage :=
      Option.some.inj (hmatch.before.symm.trans (hkeys ▸ h.before))
    have hother : other' = other := Option.some.inj (hmatch.after.symm.trans (hkeys ▸ h.after))
    rwa [hpassage, hother] at hchanged
  · exact fun hchanged => ⟨passage, other, h, hchanged, rfl⟩

end Parsing

/-- Two texts of declarations have one fingerprint just if they differ in layout only. So of the declarations
that two sources have in common, those are listed as modified that differ in more than layout. The outlines
that are read from files are those of their sources. -/
theorem fingerprints_tell_significance {texts : List String}
    (hdigests : Digest.TellsApart (texts.map Text.significantText)) :
    (∀ a ∈ texts, ∀ b ∈ texts,
      fingerprint Digest.ofText a = fingerprint Digest.ofText b ↔ Text.sameSignificance a b) ∧
    (∀ before after : Parsing,
      (∀ passage other, before.Matches after passage other → passage.text ∈ texts → other.text ∈ texts →
        (.ofDeclaration other.declaration ∈ (Changes.between before.outline after.outline).modified ↔
          ¬Text.sameSignificance other.text passage.text)) ∧
      ∀ node ∈ (Changes.between before.outline after.outline).modified,
        ∃ passage other, before.Matches after passage other ∧ .ofDeclaration other.declaration = node) ∧
    ∀ path content, Outline.read? path content = (Parsing.read? path content).map Parsing.outline := by
  refine ⟨fun a ha b hb => fingerprint_eq_iff hdigests ha hb, fun before after => ⟨?_, ?_⟩,
    Parsing.outline_read?⟩
  · intro passage other hmatch hpassage hother
    rw [hmatch.mem_modified_iff]
    exact not_congr (fingerprint_eq_iff hdigests hother hpassage)
  · intro node hnode
    obtain ⟨passage, other, hmatch, -, hsame⟩ := Parsing.mem_modified_iff.mp hnode
    exact ⟨passage, other, hmatch, hsame⟩

/-- A file with two functions of one line each, by their texts. -/
def twoLines (first second : String) : Parsing where
  language := .python
  source := (first ++ "\n" ++ second ++ "\n").toList.toArray
  root :=
    let start := first.length + 1
    let function (start stop : Nat) : Grammar.Tree :=
      .node "function_definition" true none start stop
        [.node "identifier" true (some "name") (start + 4) (start + 5) []]
    .node "" false none 0 (start + second.length + 1)
      [.node "module" true none 0 (start + second.length + 1)
        [function 0 first.length, function start (start + second.length)]]

def formerLines : Parsing := twoLines "def f(): return 1" "def g(): return 1"

def laterLines : Parsing := twoLines "def f( ): return  1 " "def g(): return 2"

def functionLine (name : String) (line : Nat) (text : String) : Passage :=
  ⟨.function, some name, ⟨line, line⟩, text⟩

theorem fingerprints_tell_significance_lines :
    Digest.TellsApart (["def f(): return 1", "def f( ): return  1 ", "def g(): return 1",
      "def g(): return 2"].map Text.significantText) ∧
    formerLines.Matches laterLines (functionLine "f" 1 "def f(): return 1")
      (functionLine "f" 1 "def f( ): return  1 ") ∧
    formerLines.Matches laterLines (functionLine "g" 2 "def g(): return 1")
      (functionLine "g" 2 "def g(): return 2") ∧
    .ofDeclaration (functionLine "f" 1 "def f( ): return  1 ").declaration ∉
      (Changes.between formerLines.outline laterLines.outline).modified ∧
    .ofDeclaration (functionLine "g" 2 "def g(): return 2").declaration ∈
      (Changes.between formerLines.outline laterLines.outline).modified := by
  have hdigests : Digest.TellsApart (["def f(): return 1", "def f( ): return  1 ", "def g(): return 1",
      "def g(): return 2"].map Text.significantText) := by
    unfold Digest.TellsApart
    decide +kernel
  have hfirst : formerLines.Matches laterLines (functionLine "f" 1 "def f(): return 1")
      (functionLine "f" 1 "def f( ): return  1 ") := ⟨by decide +kernel, by decide +kernel⟩
  have hsecond : formerLines.Matches laterLines (functionLine "g" 2 "def g(): return 1")
      (functionLine "g" 2 "def g(): return 2") := ⟨by decide +kernel, by decide +kernel⟩
  obtain ⟨-, hmodified, -⟩ := fingerprints_tell_significance hdigests
  obtain ⟨hiff, -⟩ := hmodified formerLines laterLines
  refine ⟨hdigests, hfirst, hsecond, ?_, ?_⟩
  · rw [hiff _ _ hfirst (by simp [functionLine]) (by simp [functionLine]), not_not]
    decide +kernel
  · rw [hiff _ _ hsecond (by simp [functionLine]) (by simp [functionLine])]
    decide +kernel

end Reconcile
