import LedgerNet.Proofs.Outcome
import LedgerNet.Proofs.Settings.Ini.Sections

/-!
# Keys are looked up in all sections

A section sees its own value of a key, or else the default. Keys are looked up in one section after
the other, and a later section that sees a key has its way, even where it only sees the default: so
a default hides what earlier sections say. Values without a percent sign are taken as they are.

## Main statements

- `expand_of_plain`: a value without a percent sign is its own expansion.
- `lookUp_eq_of_plain`: what is looked up in the sections.
- `last_section_decides`: what is found for a key in a file, from its statements.
-/

namespace LedgerNet.Settings.Ini

open Outcome
open LedgerNet.Entries (lookup_map_key lookup_filterMap_key keys_filterMap_key lookup_flatten)

variable {f : File} {e : Entries} {wanted : List String} {statements : List Statement}

/-! ## What a section sees -/

/-- The value that a section sees for a key: what it was given last, or else the last default. -/
def seen? (statements : List Statement) (name key : String) : Option (List Char) :=
  ((lastValue? statements name key).or (lastValue? statements defaultName key)).map joinLines

/-- The value of the last section that sees one. -/
def visible? (statements : List Statement) (key : String) : Option (List Char) :=
  (sectionNames statements).reverse.findSome? fun name => seen? statements name key

theorem rawValue?_ofStatements (statements : List Statement) (name key : String) :
    rawValue? (.ofStatements statements) ((File.ofStatements statements).entries name) key =
      seen? statements name key := by
  have hdefaults : (File.ofStatements statements).defaults =
      (File.ofStatements statements).entries defaultName := by
    simp [File.entries]
  rw [rawValue?, hdefaults, lookup_ofStatements, lookup_ofStatements, seen?, Option.orElse_eq_or]

theorem mem_keysOf_iff {key : String} : key ∈ keysOf f e ↔ (rawValue? f e key).isSome := by
  have hown : e.lookup key = none ↔ key ∉ e.map Prod.fst := by
    rw [← Option.not_isSome_iff_eq_none, List.lookup_isSome_iff]
    simp
  have hdefault : (f.defaults.lookup key).isSome ↔ key ∈ f.defaults.map Prod.fst := by
    rw [List.lookup_isSome_iff]
    simp
  rw [keysOf, rawValue?, Option.isSome_map, List.mem_append, List.mem_filter, ← hdefault]
  cases hkey : e.lookup key with
  | none => simp [hown.mp hkey]
  | some v =>
    have hmem : key ∈ e.map Prod.fst := by
      by_contra hnot
      rw [hown.mpr hnot] at hkey
      cases hkey
    simp [hmem]

/-! ## Values without a percent sign -/

theorem pieces_of_plain {cs : List Char} (h : '%' ∉ cs) : pieces cs = cs.map .plain := by
  induction cs with
  | nil => rw [pieces, List.map_nil]
  | cons c cs ih =>
    have hc : c ≠ '%' := fun hc => h (hc ▸ List.mem_cons_self)
    have hcs : '%' ∉ cs := fun hcs => h (List.mem_cons_of_mem c hcs)
    rw [pieces, ih hcs, List.map_cons]
    all_goals intros; simp_all

/-- A value without a percent sign refers to nothing. -/
theorem expand_of_plain {cs : List Char} (h : '%' ∉ cs) (value? : String → Option (List Char))
    (depth : Nat) : expand value? (depth + 1) cs = .ok cs := by
  rw [expand, pieces_of_plain h, bind_eq_ok_iff]
  refine ⟨cs.map fun c => [c], ?_, ?_⟩
  · rw [mapM_eq_ok_iff, List.forall₂_map_left_iff, List.forall₂_map_right_iff, List.forall₂_same]
    intro c _
    rfl
  · rw [pure_eq_ok_iff, ← List.flatMap_def, List.flatMap_singleton']

theorem valueOf_of_plain {key : String} {v : List Char} (hraw : rawValue? f e key = some v)
    (h : '%' ∉ v) : valueOf f e key = .ok (String.ofList v) := by
  rw [valueOf, hraw]
  exact bind_eq_ok_iff.mpr ⟨v, expand_of_plain h _ _, rfl⟩

/-! ## Looking up -/

/-- No section sees a value with a percent sign for one of the keys. -/
def Plain (f : File) (wanted : List String) : Prop :=
  ∀ name ∈ f.names, ∀ key ∈ wanted, ∀ v, rawValue? f (f.entries name) key = some v → '%' ∉ v

/-- The rows that a section has for wanted keys. -/
def seenRows (f : File) (wanted : List String) (e : Entries) : List (String × String) :=
  ((keysOf f e).filter wanted.contains).map fun key =>
    (key, String.ofList ((rawValue? f e key).getD []))

theorem found_of_plain
    (h : ∀ key ∈ wanted, ∀ v, rawValue? f e key = some v → '%' ∉ v) :
    found f wanted e = .ok (seenRows f wanted e) := by
  rw [found, mapM_eq_ok_iff, seenRows, List.forall₂_map_right_iff, List.forall₂_same]
  intro key hkey
  obtain ⟨hsees, hwanted⟩ := List.mem_filter.mp hkey
  obtain ⟨v, hv⟩ := Option.isSome_iff_exists.mp (mem_keysOf_iff.mp hsees)
  have hvalue := valueOf_of_plain hv (h key (by simpa using hwanted) v hv)
  rw [bind_eq_ok_iff]
  exact ⟨_, hvalue, by rw [hv]; rfl⟩

theorem lookup_seenRows (f : File) (wanted : List String) (e : Entries) (key : String) :
    (seenRows f wanted e).reverse.lookup key =
      if key ∈ wanted then (rawValue? f e key).map String.ofList else none := by
  rw [seenRows, ← List.map_reverse, lookup_map_key]
  simp only [List.mem_reverse, List.mem_filter, mem_keysOf_iff, List.contains_iff_mem]
  by_cases hwanted : key ∈ wanted
  · cases rawValue? f e key <;> simp [hwanted]
  · simp [hwanted]

/-- The last row for a key is that of the last section that sees it: of the rows of one section none
hides another one. -/
theorem lookup_flatten_seenRows (f : File) (wanted names : List String) (key : String) :
    (names.map fun name => seenRows f wanted (f.entries name)).flatten.reverse.lookup key =
      if key ∈ wanted then
        (names.reverse.findSome? fun name => rawValue? f (f.entries name) key).map String.ofList
      else none := by
  rw [List.reverse_flatten, List.map_map, ← List.map_reverse, lookup_flatten, List.findSome?_map]
  simp only [Function.comp_def, lookup_seenRows]
  by_cases hwanted : key ∈ wanted
  · simp only [if_pos hwanted]
    induction names.reverse with
    | nil => rfl
    | cons name names ih =>
      rw [List.findSome?_cons, List.findSome?_cons, ih]
      cases rawValue? f (f.entries name) key <;> rfl
  · simp [if_neg hwanted]

/-- The wanted keys that are found, with the values of the last sections that see them. -/
theorem lookUp_eq_of_plain (hsections : f.sections = f.names.map fun name => (name, f.entries name))
    (h : Plain f wanted) :
    ∃ values, lookUp f wanted = .ok values ∧ (values.map Prod.fst).Nodup ∧
      ∀ key, values.lookup key =
        if key ∈ wanted then
          (f.names.reverse.findSome? fun name => rawValue? f (f.entries name) key).map String.ofList
        else none := by
  let all : List (List (String × String)) :=
    f.names.map fun name => seenRows f wanted (f.entries name)
  have hall : (f.sections.mapM fun row => found f wanted row.2) = .ok all := by
    rw [hsections, mapM_eq_ok_iff, List.forall₂_map_left_iff, List.forall₂_map_right_iff,
      List.forall₂_same]
    intro name hname
    exact found_of_plain (h name hname)
  refine ⟨_, bind_eq_ok_iff.mpr ⟨all, hall, rfl⟩, ?_, ?_⟩
  · rw [keys_filterMap_key]
    exact (nodup_eraseDups wanted).filter _
  · intro key
    rw [lookup_filterMap_key, lookup_flatten_seenRows]
    simp only [List.mem_eraseDups]
    split <;> rfl

/-! ## Files -/

/-- The bytes of a file are text that says these statements. -/
def Contains (contents : Octets) (statements : List Statement) : Prop :=
  ∃ text, contents.toText? = some text ∧ TextSays text.toList statements

theorem read_of_contains {contents : Octets} (h : Contains contents statements) :
    read contents = .ok (.ofStatements statements) := by
  obtain ⟨text, htext, hsays⟩ := h
  rw [read, htext]
  exact readChars_of_says hsays

theorem exists_read_iff {contents : Octets} :
    (∃ f, read contents = .ok f) ↔ ∃ statements, Contains contents statements := by
  constructor
  · rintro ⟨f, h⟩
    cases htext : contents.toText? with
    | none =>
      rw [read, htext] at h
      cases h
    | some text =>
      rw [read, htext] at h
      obtain ⟨statements, hsays⟩ := exists_readChars_iff.mp ⟨f, h⟩
      exact ⟨statements, text, htext, hsays⟩
  · rintro ⟨statements, h⟩
    exact ⟨_, read_of_contains h⟩

/-- **The last section that sees a key decides.** A file is read exactly if it says something. Then,
if the wanted values hold no percent sign, looking up succeeds: each wanted key has the value of the
last section that sees one, in the order in which the sections appear first, and no key is found
that is not wanted or that no section sees. -/
theorem last_section_decides (contents : Octets) :
    ((∃ f, read contents = .ok f) ↔ ∃ statements, Contains contents statements) ∧
    ∀ statements, Contains contents statements → ∀ wanted : List String,
      (∀ name ∈ sectionNames statements, ∀ key ∈ wanted, ∀ v,
        seen? statements name key = some v → '%' ∉ v) →
      ∃ f values, read contents = .ok f ∧ lookUp f wanted = .ok values ∧
        (values.map Prod.fst).Nodup ∧
        ∀ key, values.lookup key =
          if key ∈ wanted then (visible? statements key).map String.ofList else none := by
  refine ⟨exists_read_iff, fun statements h wanted hplain => ?_⟩
  have hnames := names_ofStatements statements
  have hsections := File.sections_eq (f := .ofStatements statements)
    (by rw [hnames]; exact nodup_sectionNames statements)
    (by rw [hnames]; exact fun hmem => ne_default_of_mem_sectionNames hmem rfl)
  have hvalues : Plain (.ofStatements statements) wanted := by
    intro name hname key hkey v hv
    rw [rawValue?_ofStatements] at hv
    exact hplain name (hnames ▸ hname) key hkey v hv
  obtain ⟨values, hlookUp, hnodup, hlookup⟩ := lookUp_eq_of_plain hsections hvalues
  refine ⟨_, values, read_of_contains h, hlookUp, hnodup, fun key => ?_⟩
  simp only [hlookup, hnames, rawValue?_ofStatements, visible?]

/-- A default hides what an earlier section says: the section that comes last is only started, and
sees it. A section that is started twice keeps its place. -/
theorem last_section_decides_default :
    let text := "x = 0\n[a]\nX = 1\n[DEFAULT]\nx = 9\n[b]\n[a]\ny: 5\n"
    ∃ f values, read (Octets.ofText text) = .ok f ∧ lookUp f ["x", "y", "z"] = .ok values ∧
      values.lookup "x" = some "9" ∧ values.lookup "y" = some "5" ∧ values.lookup "z" = none := by
  intro text
  let statements : List Statement :=
    [.assignment "x" [['0']], .header "a", .assignment "x" [['1']], .header "DEFAULT",
      .assignment "x" [['9']], .header "b", .header "a", .assignment "y" [['5']]]
  have hlines : (lines (unifyBreaks text.toList)).map Line.ofChars =
      ["x = 0", "[a]", "X = 1", "[DEFAULT]", "x = 9", "[b]", "[a]", "y: 5"].map
        fun line => Line.content 0 line.toList := by
    decide +kernel
  -- The two rules of the grammar that the text needs, with their conditions left to evaluation.
  have header {name : String} {line : List Char} {rest : List Line} {more : List Statement}
      (hname : sectionName? line = some name.toList) (hrest : Says rest more) :
      Says (.content 0 line :: rest) (.header name :: more) := by
    have h : Says (.content 0 line :: rest) (.header (String.ofList name.toList) :: more) :=
      .header (sectionName?_eq_some_iff.mp hname) hrest
    rwa [String.ofList_toList] at h
  have assignment {key : String} {line value : List Char} {rest : List Line}
      {more : List Statement} (hnot : sectionName? line = none)
      (hkey : keyValue? line = some (key, value)) (hend : ∀ next ∈ rest.head?, ¬next.Continues 0)
      (hrest : Says rest more) : Says (.content 0 line :: rest) (.assignment key [value] :: more) :=
    .assignment [] (sectionName?_eq_none_iff.mp hnot) (keyValue?_eq_some_iff.mp hkey) (by simp)
      hend hrest
  have hcontains : Contains (Octets.ofText text) statements := by
    refine ⟨text, by decide +kernel, ?_⟩
    rw [TextSays, hlines]
    refine assignment (by decide +kernel) (by decide +kernel) (by decide +kernel) ?_
    refine header (by decide +kernel) (assignment ?_ ?_ ?_ (header ?_ (assignment ?_ ?_ ?_
      (header ?_ (header ?_ (assignment ?_ ?_ ?_ .nil))))))
    all_goals decide +kernel
  have hplain : ∀ name ∈ sectionNames statements, ∀ key ∈ ["x", "y", "z"], ∀ v,
      seen? statements name key = some v → '%' ∉ v := by
    have hall : ∀ name ∈ sectionNames statements, ∀ key ∈ ["x", "y", "z"],
        (seen? statements name key).all (!·.contains '%') := by
      decide +kernel
    intro name hname key hkey v hv
    have h := hall name hname key hkey
    rw [hv] at h
    simpa using h
  obtain ⟨f, values, hread, hlookUp, -, hlookup⟩ :=
    (last_section_decides (Octets.ofText text)).2 statements hcontains ["x", "y", "z"] hplain
  refine ⟨f, values, hread, hlookUp, ?_⟩
  rw [hlookup, hlookup, hlookup]
  decide +kernel

end LedgerNet.Settings.Ini
