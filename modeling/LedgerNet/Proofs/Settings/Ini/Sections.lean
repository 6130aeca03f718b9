import LedgerNet.Proofs.Settings.Ini.Statements

/-!
# Sections and their keys

What statements leave in a file, told from the statements alone: the sections stand in the order in
which their names appear first, and a section has for a key what it was given last, however often it
is started again in between.

## Main statements

- `names_ofStatements`: the sections of a file.
- `lookup_ofStatements`: the values of a section.
- `File.sections_eq`: a file has its sections once, each with its values.
-/

namespace LedgerNet.Settings.Ini

open LedgerNet.Entries (keys_upsert lookup_eq_some_iff_mem lookup_upsert upsert)

/-! ## From the statements -/

/-- The names of the sections that are started, in order. -/
def startedNames : List Statement → List String
  | [] => []
  | .header name :: rest => name :: startedNames rest
  | .assignment _ _ :: rest => startedNames rest

/-- The sections but for the defaults, in order of first appearance. The first one is always
there. -/
def sectionNames (statements : List Statement) : List String :=
  ((firstName :: startedNames statements).filter (· ≠ defaultName)).eraseDups

/-- The values that a section gives a key, in order, where the statements begin in some section. -/
def valuesOf (name key : String) : (current : String) → List Statement → List (List (List Char))
  | _, [] => []
  | _, .header next :: rest => valuesOf name key next rest
  | current, .assignment k value :: rest =>
    if current = name ∧ k = key then value :: valuesOf name key current rest
    else valuesOf name key current rest

/-- The value that a section gives a key last. -/
def lastValue? (statements : List Statement) (name key : String) : Option (List (List Char)) :=
  (valuesOf name key firstName statements).getLast?

/-! ## Changes to a file -/

namespace File

/-- The entries of a section, or the defaults under their name. -/
def entries (f : File) (name : String) : Entries :=
  if name = defaultName then f.defaults else (f.sections.lookup name).getD []

/-- The names of the sections. -/
def names (f : File) : List String := f.sections.map Prod.fst

theorem entries_update (f : File) (name n : String) (change : Entries → Entries) :
    (f.update name change).entries n = if n = name then change (f.entries n) else f.entries n := by
  by_cases hdefault : name = defaultName
  · by_cases h : n = name
    · simp [update, entries, hdefault, h]
    · have hn : n ≠ defaultName := fun hn => h (hn.trans hdefault.symm)
      simp [update, entries, hdefault, hn]
  · by_cases h : n = name <;>
      simp [update, entries, hdefault, h, updateSection_eq, lookup_upsert]

theorem names_update (f : File) (name : String) (change : Entries → Entries) :
    (f.update name change).names =
      if name = defaultName ∨ name ∈ f.names then f.names else f.names ++ [name] := by
  by_cases hdefault : name = defaultName
  · simp [update, names, hdefault]
  · have hupdated : (f.update name change).sections = upsert name change [] f.sections := by
      rw [update, if_neg hdefault, updateSection_eq]
    simp only [names, hupdated, keys_upsert, hdefault, false_or]

end File

/-! ## What statements leave -/

variable {statements : List Statement} {now : File × String}

/-- A section has for a key what it was given last, or else what it had before. -/
theorem lookup_execute (statements : List Statement) (now : File × String) (name key : String) :
    (((statements.foldl Statement.execute now).1.entries name).lookup key) =
      ((valuesOf name key now.2 statements).getLast?).or ((now.1.entries name).lookup key) := by
  induction statements generalizing now with
  | nil => rfl
  | cons statement statements ih =>
    rw [List.foldl_cons, ih]
    cases statement with
    | header next =>
      simp only [Statement.execute, valuesOf, File.entries_update, id_eq, ite_self]
    | assignment k value =>
      simp only [Statement.execute, valuesOf, File.entries_update, updateKey_eq]
      by_cases hname : name = now.2
      · by_cases hkey : key = k
        · simp [hname, hkey, lookup_upsert, List.getLast?_cons]
        · simp [hname, hkey, Ne.symm hkey, lookup_upsert]
      · simp [hname, Ne.symm hname]

theorem eraseDups_of_nodup {names : List String} (h : names.Nodup) : names.eraseDups = names := by
  induction names with
  | nil => rfl
  | cons name names ih =>
    obtain ⟨hname, hnames⟩ := List.nodup_cons.mp h
    have hkept : names.filter (fun n => !n == name) = names := by
      apply List.filter_eq_self.mpr
      intro n hn
      simpa using fun heq : n = name => hname (heq ▸ hn)
    rw [List.eraseDups_cons, hkept, ih hnames]

theorem nodup_eraseDups (names : List String) : names.eraseDups.Nodup := by
  induction hlength : names.length using Nat.strongRecOn generalizing names with
  | ind n ih =>
    cases names with
    | nil => exact List.nodup_nil
    | cons name names =>
      rw [List.eraseDups_cons, List.nodup_cons]
      constructor
      · simp [List.mem_eraseDups]
      · have hshorter : (names.filter fun n => !n == name).length < n := by
          rw [← hlength]
          exact Nat.lt_succ_of_le (List.length_filter_le _ names)
        exact ih _ hshorter _ rfl

theorem eraseDups_append_cons_of_mem {before after : List String} {name : String}
    (h : name ∈ before) : (before ++ name :: after).eraseDups = (before ++ after).eraseDups := by
  rw [List.eraseDups_append, List.eraseDups_append, List.cons_removeAll]
  simp [h]

/-- The sections stand in the order of first appearance, behind those that were there. -/
theorem names_execute (hcurrent : now.2 = defaultName ∨ now.2 ∈ now.1.names)
    (hnodup : now.1.names.Nodup) :
    (statements.foldl Statement.execute now).1.names =
      (now.1.names ++ (startedNames statements).filter (· ≠ defaultName)).eraseDups := by
  induction statements generalizing now with
  | nil => simp [startedNames, eraseDups_of_nodup hnodup]
  | cons statement statements ih =>
    rw [List.foldl_cons]
    cases statement with
    | assignment key value =>
      -- The current section is there already.
      have hnames : (Statement.execute now (.assignment key value)).1.names = now.1.names := by
        rw [Statement.execute, File.names_update, if_pos hcurrent]
      rw [ih (by rwa [hnames]) (by rwa [hnames]), hnames, startedNames]
    | header next =>
      have hnames : (Statement.execute now (.header next)).1.names =
          if next = defaultName ∨ next ∈ now.1.names then now.1.names
          else now.1.names ++ [next] := File.names_update _ _ _
      by_cases hthere : next = defaultName ∨ next ∈ now.1.names
      · rw [if_pos hthere] at hnames
        rw [ih (by rwa [hnames]) (by rwa [hnames]), hnames, startedNames]
        rcases hthere with hdefault | hmem
        · rw [List.filter_cons_of_neg (by simp [hdefault])]
        · by_cases hdefault : next = defaultName
          · rw [List.filter_cons_of_neg (by simp [hdefault])]
          · rw [List.filter_cons_of_pos (by simp [hdefault]), eraseDups_append_cons_of_mem hmem]
      · rw [if_neg hthere] at hnames
        obtain ⟨hdefault, hmem⟩ := not_or.mp hthere
        have hnew : (now.1.names ++ [next]).Nodup := by
          rw [← List.concat_eq_append]
          exact hnodup.concat hmem
        have hcurrent' : next ∈ (Statement.execute now (.header next)).1.names := by simp [hnames]
        rw [ih (.inr hcurrent') (by rwa [hnames]), hnames, startedNames,
          List.filter_cons_of_pos (by simp [hdefault]), List.append_assoc]
        rfl

/-- **Sections stand in the order of first appearance.** -/
theorem names_ofStatements (statements : List Statement) :
    (File.ofStatements statements).names = sectionNames statements :=
  @names_execute statements State.first.now (.inr (by decide)) (by decide)

/-- **A section has for a key what it was given last.** -/
theorem lookup_ofStatements (statements : List Statement) (name key : String) :
    ((File.ofStatements statements).entries name).lookup key = lastValue? statements name key := by
  have hfirst : ∀ n, (State.first.now.1.entries n).lookup key = none := by
    intro n
    have hempty : ∀ n, ({} : File).entries n = [] := by
      intro n
      simp [File.entries]
    simp [State.now, State.first, File.entries_update, hempty]
  rw [File.ofStatements, lookup_execute, hfirst, Option.or_none]
  rfl

theorem nodup_sectionNames (statements : List Statement) : (sectionNames statements).Nodup :=
  nodup_eraseDups _

theorem ne_default_of_mem_sectionNames {name : String} (h : name ∈ sectionNames statements) :
    name ≠ defaultName := by
  rw [sectionNames, List.mem_eraseDups] at h
  simpa using (List.mem_filter.mp h).2

/-- A file whose sections have different names has each of them with its entries. -/
theorem File.sections_eq {f : File} (hnodup : f.names.Nodup) (hdefault : defaultName ∉ f.names) :
    f.sections = f.names.map fun name => (name, f.entries name) := by
  have hrow : ∀ row ∈ f.sections, (row.1, f.entries row.1) = row := by
    intro row hmem
    have hname : row.1 ≠ defaultName := by
      intro h
      exact hdefault (h ▸ List.mem_map_of_mem hmem)
    have hlookup : f.sections.lookup row.1 = some row.2 := (lookup_eq_some_iff_mem hnodup).mpr hmem
    rw [entries, if_neg hname, hlookup]
    rfl
  rw [names, List.map_map]
  exact (List.map_id _).symm.trans (List.map_congr_left fun row hmem => (hrow row hmem).symm)

end LedgerNet.Settings.Ini
