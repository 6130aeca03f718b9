import LedgerNet.Proofs.Settings.Ini.LookUp

/-!
# References in values

A value is text with references to other keys. `Expands` is the relation of a value to what it
stands for, a rule for each kind of text in it: the value of a key that is referred to is put in as
it is, or with its own references replaced where it holds a percent sign, which uses up one level of
nesting. Replacing the references of a value succeeds exactly if it is related to a text, which is
then the result. So a file can be used exactly if it says something, and all the wanted values stand
for a text.

## Main statements

- `expand_eq_ok_iff`: replacing references is the relation.
- `exists_lookUp_iff`: when keys can be looked up.
- `exists_read_lookUp_iff`: the files that can be read and looked up in.
-/

namespace LedgerNet.Settings.Ini

open Outcome

/-! ## What a value stands for -/

/-- The text of a reference to a name, and what stands behind it. -/
def referenceTo (name rest : List Char) : List Char := '%' :: '(' :: (name ++ ')' :: 's' :: rest)

/-- What a value stands for, where references are nested no deeper than some depth. -/
inductive Expands (value? : String → Option (List Char)) : Nat → List Char → List Char → Prop where
  | nil {depth} : Expands value? (depth + 1) [] []
  | plain {depth c rest out} : c ≠ '%' → Expands value? (depth + 1) rest out →
      Expands value? (depth + 1) (c :: rest) (c :: out)
  | percent {depth rest out} : Expands value? (depth + 1) rest out →
      Expands value? (depth + 1) ('%' :: '%' :: rest) ('%' :: out)
  | verbatim {depth name v rest out} : name ≠ [] → ')' ∉ name →
      value? (Text.lower (String.ofList name)) = some v → '%' ∉ v →
      Expands value? (depth + 1) rest out →
      Expands value? (depth + 1) (referenceTo name rest) (v ++ out)
  | nested {depth name v w rest out} : name ≠ [] → ')' ∉ name →
      value? (Text.lower (String.ofList name)) = some v → '%' ∈ v → Expands value? depth v w →
      Expands value? (depth + 1) rest out →
      Expands value? (depth + 1) (referenceTo name rest) (w ++ out)

variable {value? : String → Option (List Char)} {depth : Nat} {cs rest name out : List Char}
  {f : File} {e : Entries} {wanted : List String} {statements : List Statement}

/-! ## Pieces -/

theorem pieces_plain {c : Char} (h : c ≠ '%') (rest : List Char) :
    pieces (c :: rest) = .plain c :: pieces rest := by
  rw [pieces]
  all_goals
    intros
    simp_all

theorem pieces_percent (rest : List Char) :
    pieces ('%' :: '%' :: rest) = .plain '%' :: pieces rest := by
  rw [pieces]

/-- The name in a bracket goes up to the first closing one. -/
theorem pieces_bracket (hname : ')' ∉ name) (after : List Char) :
    pieces ('%' :: '(' :: (name ++ ')' :: after)) =
      match after with
      | 's' :: rest =>
        if name.isEmpty then [.malformed]
        else .reference (Text.lower (String.ofList name)) :: pieces rest
      | _ => [.malformed] := by
  have hall : ∀ c ∈ name, (c != ')') = true := by
    intro c hc
    simpa using fun heq : c = ')' => hname (heq ▸ hc)
  have hstop : ¬(')' != ')') = true := by decide
  have hkept := (cut_append hall hstop after).1
  have hdrop : (name ++ ')' :: after).drop (name.length + 2) = after.drop 1 := by simp
  rw [pieces]
  simp only [hkept, List.drop_left, hdrop]
  rcases after with _ | ⟨c, rest⟩
  · rfl
  · by_cases hc : c = 's'
    · subst hc
      rfl
    · split <;> simp_all

theorem pieces_reference (hne : name ≠ []) (hname : ')' ∉ name) (rest : List Char) :
    pieces (referenceTo name rest) =
      .reference (Text.lower (String.ofList name)) :: pieces rest := by
  rw [referenceTo, pieces_bracket hname]
  exact if_neg (by simpa using hne)

/-- What a piece of a value stands for. -/
def expandPiece (value? : String → Option (List Char)) (depth : Nat) :
    Piece → Except Error (List Char)
  | .plain c => .ok [c]
  | .malformed => .error .badReference
  | .reference key =>
    match value? key with
    | none => .error .missingKey
    | some v => if v.contains '%' then expand value? depth v else .ok v

theorem expand_succ (value? : String → Option (List Char)) (depth : Nat) (cs : List Char) :
    expand value? (depth + 1) cs =
      List.flatten <$> (pieces cs).mapM (expandPiece value? depth) := by
  rfl

/-- What a value stands for is what its first piece and all behind it do. -/
theorem expand_eq_ok_of_cons {p : Piece} (h : pieces cs = p :: pieces rest) :
    expand value? (depth + 1) cs = .ok out ↔
      ∃ part tail, expandPiece value? depth p = .ok part ∧
        expand value? (depth + 1) rest = .ok tail ∧ part ++ tail = out := by
  rw [expand_succ, expand_succ, h, List.mapM_cons]
  simp only [map_eq_ok_iff, bind_eq_ok_iff, pure_eq_ok_iff]
  constructor
  · rintro ⟨_, ⟨part, hpart, parts, hparts, rfl⟩, rfl⟩
    exact ⟨part, parts.flatten, hpart, ⟨parts, hparts, rfl⟩, rfl⟩
  · rintro ⟨part, _, hpart, ⟨parts, hparts, rfl⟩, rfl⟩
    exact ⟨part :: parts, ⟨part, hpart, parts, hparts, rfl⟩, rfl⟩

/-- A value in which a percent sign starts no reference stands for nothing. -/
theorem expand_of_malformed (h : pieces cs = [.malformed]) :
    expand value? (depth + 1) cs = .error .badReference := by
  rw [expand_succ, h]
  rfl

/-- A value is empty, or begins with plain text or a reference, or with a percent sign that starts
none. -/
theorem pieces_cases (cs : List Char) :
    cs = [] ∨ (∃ c rest, c ≠ '%' ∧ cs = c :: rest) ∨ (∃ rest, cs = '%' :: '%' :: rest) ∨
      (∃ name rest, name ≠ [] ∧ ')' ∉ name ∧ cs = referenceTo name rest) ∨
      pieces cs = [.malformed] := by
  rcases cs with _ | ⟨c, cs⟩
  · exact .inl rfl
  by_cases hc : c = '%'
  case neg => exact .inr (.inl ⟨c, cs, hc, rfl⟩)
  subst hc
  rcases cs with _ | ⟨d, rest⟩
  · exact .inr (.inr (.inr (.inr (by simp [pieces]))))
  by_cases hpercent : d = '%'
  · exact .inr (.inr (.inl ⟨rest, by rw [hpercent]⟩))
  by_cases hbracket : d = '('
  case neg => exact .inr (.inr (.inr (.inr (by rw [pieces] <;> simp_all))))
  subst hbracket
  by_cases hclosed : ')' ∈ rest
  · obtain ⟨name, after, rfl, hname⟩ := List.eq_append_cons_of_mem hclosed
    rcases after with _ | ⟨c, rest⟩
    · exact .inr (.inr (.inr (.inr (pieces_bracket hname []))))
    by_cases hne : name = []
    · subst hne
      refine .inr (.inr (.inr (.inr ?_)))
      rw [pieces_bracket hname]
      split <;> rfl
    by_cases hletter : c = 's'
    · subst hletter
      exact .inr (.inr (.inr (.inl ⟨name, rest, hne, hname, rfl⟩)))
    · refine .inr (.inr (.inr (.inr ?_)))
      rw [pieces_bracket hname]
      split <;> simp_all
  · refine .inr (.inr (.inr (.inr ?_)))
    have hkept : rest.takeWhile (· != ')') = rest := by
      rw [List.takeWhile_eq_self_iff]
      intro c hc
      simpa using fun heq : c = ')' => hclosed (heq ▸ hc)
    rw [pieces]
    simp only [hkept, List.drop_length]

/-! ## Replacing references -/

theorem expand_of_expands (h : Expands value? depth cs out) : expand value? depth cs = .ok out := by
  induction h with
  | nil => rw [expand_succ, pieces]; rfl
  | plain hc _ ih => exact (expand_eq_ok_of_cons (pieces_plain hc _)).mpr ⟨_, _, rfl, ih, rfl⟩
  | percent _ ih => exact (expand_eq_ok_of_cons (pieces_percent _)).mpr ⟨_, _, rfl, ih, rfl⟩
  | verbatim hne hname hvalue hplain _ ih =>
    refine (expand_eq_ok_of_cons (pieces_reference hne hname _)).mpr ⟨_, _, ?_, ih, rfl⟩
    simp [expandPiece, hvalue, hplain]
  | nested hne hname hvalue hpercent _ _ ihinner ih =>
    refine (expand_eq_ok_of_cons (pieces_reference hne hname _)).mpr ⟨_, _, ?_, ih, rfl⟩
    simp [expandPiece, hvalue, hpercent, ihinner]

theorem expandPiece_reference_eq_ok {key : String} {part : List Char}
    (h : expandPiece value? depth (.reference key) = .ok part) :
    ∃ v, value? key = some v ∧
      (('%' ∉ v ∧ part = v) ∨ ('%' ∈ v ∧ expand value? depth v = .ok part)) := by
  unfold expandPiece at h
  cases hvalue : value? key with
  | none => simp [hvalue] at h
  | some v =>
    simp only [hvalue, List.contains_iff_mem] at h
    split_ifs at h with hpercent
    · exact ⟨v, rfl, .inr ⟨hpercent, h⟩⟩
    · exact ⟨v, rfl, .inl ⟨hpercent, (Except.ok.inj h).symm⟩⟩

theorem expands_of_expand (h : expand value? depth cs = .ok out) : Expands value? depth cs out := by
  induction depth generalizing cs out with
  | zero => cases h
  | succ depth ihdepth =>
    -- What stands behind the first piece is shorter, and a value that is referred to is less deep.
    induction hlength : cs.length using Nat.strongRecOn generalizing cs out with
    | ind n ih =>
      subst hlength
      rcases pieces_cases cs with rfl | ⟨c, rest, hc, rfl⟩ | ⟨rest, rfl⟩ |
        ⟨name, rest, hne, hname, rfl⟩ | hmalformed
      · rw [expand_succ, pieces] at h
        cases h
        exact .nil
      · obtain ⟨_, tail, hpart, htail, rfl⟩ := (expand_eq_ok_of_cons (pieces_plain hc rest)).mp h
        cases hpart
        exact .plain hc (ih _ (by simp) htail rfl)
      · obtain ⟨_, tail, hpart, htail, rfl⟩ := (expand_eq_ok_of_cons (pieces_percent rest)).mp h
        cases hpart
        exact .percent (ih _ (by simp only [List.length_cons]; omega) htail rfl)
      · obtain ⟨part, tail, hpart, htail, rfl⟩ :=
          (expand_eq_ok_of_cons (pieces_reference hne hname rest)).mp h
        have hshorter : rest.length < (referenceTo name rest).length := by
          simp only [referenceTo, List.length_cons, List.length_append]
          omega
        have hrest := ih _ hshorter htail rfl
        obtain ⟨v, hvalue, ⟨hplain, rfl⟩ | ⟨hpercent, hinner⟩⟩ := expandPiece_reference_eq_ok hpart
        · exact .verbatim hne hname hvalue hplain hrest
        · exact .nested hne hname hvalue hpercent (ihdepth hinner) hrest
      · rw [expand_of_malformed hmalformed] at h
        cases h

/-- **Replacing references is the relation.** -/
theorem expand_eq_ok_iff : expand value? depth cs = .ok out ↔ Expands value? depth cs out :=
  ⟨expands_of_expand, expand_of_expands⟩

/-! ## Looking up -/

theorem exists_valueOf_iff {key : String} {v : List Char} (hraw : rawValue? f e key = some v) :
    (∃ value, valueOf f e key = .ok value) ↔ ∃ out, Expands (rawValue? f e) maxDepth v out := by
  simp only [valueOf, hraw, Option.getD_some, bind_eq_ok_iff, expand_eq_ok_iff, pure_eq_ok_iff]
  constructor
  · rintro ⟨_, out, hout, rfl⟩
    exact ⟨out, hout⟩
  · rintro ⟨out, hout⟩
    exact ⟨_, out, hout, rfl⟩

/-- The wanted keys of a section are found if all their values stand for a text. -/
theorem exists_found_iff :
    (∃ rows, found f wanted e = .ok rows) ↔
      ∀ key ∈ wanted, ∀ v, rawValue? f e key = some v →
        ∃ out, Expands (rawValue? f e) maxDepth v out := by
  rw [found, exists_mapM_eq_ok_iff]
  simp only [List.mem_filter, List.contains_iff_mem, mem_keysOf_iff]
  constructor
  · intro h key hkey v hv
    obtain ⟨_, hrow⟩ := h key ⟨by rw [hv]; rfl, hkey⟩
    obtain ⟨value, hvalue, -⟩ := bind_eq_ok_iff.mp hrow
    exact (exists_valueOf_iff hv).mp ⟨value, hvalue⟩
  · rintro h key ⟨hsees, hkey⟩
    obtain ⟨v, hv⟩ := Option.isSome_iff_exists.mp hsees
    obtain ⟨value, hvalue⟩ := (exists_valueOf_iff hv).mpr (h key hkey v hv)
    exact ⟨_, bind_eq_ok_iff.mpr ⟨value, hvalue, rfl⟩⟩

/-- Keys can be looked up if all their values that any section sees stand for a text. -/
theorem exists_lookUp_iff
    (hsections : f.sections = f.names.map fun name => (name, f.entries name)) :
    (∃ values, lookUp f wanted = .ok values) ↔
      ∀ name ∈ f.names, ∀ key ∈ wanted, ∀ v, rawValue? f (f.entries name) key = some v →
        ∃ out, Expands (rawValue? f (f.entries name)) maxDepth v out := by
  have hfound : (∃ values, lookUp f wanted = .ok values) ↔
      ∃ all, (f.sections.mapM fun row => found f wanted row.2) = .ok all := by
    constructor
    · rintro ⟨values, h⟩
      obtain ⟨all, hall, -⟩ := bind_eq_ok_iff.mp h
      exact ⟨all, hall⟩
    · rintro ⟨all, hall⟩
      exact ⟨_, bind_eq_ok_iff.mpr ⟨all, hall, rfl⟩⟩
  rw [hfound, exists_mapM_eq_ok_iff, hsections]
  simp only [List.forall_mem_map, exists_found_iff]

/-! ## Files -/

theorem sections_ofStatements (statements : List Statement) :
    (File.ofStatements statements).sections =
      (File.ofStatements statements).names.map fun name =>
        (name, (File.ofStatements statements).entries name) := by
  have hnames := names_ofStatements statements
  apply File.sections_eq
  · rw [hnames]
    exact nodup_sectionNames statements
  · rw [hnames]
    exact fun hmem => ne_default_of_mem_sectionNames hmem rfl

/-- A file says something, and the wanted values that a section of it sees stand for a text. -/
def Readable (contents : Octets) (wanted : List String) : Prop :=
  ∃ statements, Contains contents statements ∧
    ∀ name ∈ sectionNames statements, ∀ key ∈ wanted, ∀ v, seen? statements name key = some v →
      ∃ out, Expands (seen? statements name) maxDepth v out

/-- **The files that can be read and looked up in.** -/
theorem exists_read_lookUp_iff {contents : Octets} :
    (∃ f values, read contents = .ok f ∧ lookUp f wanted = .ok values) ↔
      Readable contents wanted := by
  have hlookUp (statements : List Statement) :
      (∃ values, lookUp (.ofStatements statements) wanted = .ok values) ↔
        ∀ name ∈ sectionNames statements, ∀ key ∈ wanted, ∀ v, seen? statements name key = some v →
          ∃ out, Expands (seen? statements name) maxDepth v out := by
    have hraw (name : String) :
        rawValue? (.ofStatements statements) ((File.ofStatements statements).entries name) =
          seen? statements name :=
      funext (rawValue?_ofStatements statements name)
    -- In a file of statements a section sees what the statements say for it.
    rw [exists_lookUp_iff (sections_ofStatements statements), names_ofStatements]
    simp only [hraw]
  constructor
  · rintro ⟨f, values, hread, hvalues⟩
    obtain ⟨statements, hcontains⟩ := exists_read_iff.mp ⟨f, hread⟩
    -- The statements of the file are those that were read.
    obtain rfl : .ofStatements statements = f :=
      Except.ok.inj ((read_of_contains hcontains).symm.trans hread)
    exact ⟨statements, hcontains, (hlookUp statements).mp ⟨values, hvalues⟩⟩
  · rintro ⟨statements, hcontains, hvalues⟩
    obtain ⟨values, hlook⟩ := (hlookUp statements).mpr hvalues
    exact ⟨_, values, read_of_contains hcontains, hlook⟩

end LedgerNet.Settings.Ini
