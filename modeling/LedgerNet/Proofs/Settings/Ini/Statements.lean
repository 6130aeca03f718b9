import LedgerNet.Proofs.Entries
import LedgerNet.Settings.Ini
import Mathlib.Data.List.TakeWhile

/-!
# What a configuration file says

A file is a sequence of statements: a line starts a section, or it gives a key a value that the
lines behind it go on with. `Says` is that grammar over lines, without a state. Reading, which goes
line by line, executes exactly these statements, and refuses the files that the grammar does not
cover.

## Main statements

- `sectionName?_eq_some_iff`, `keyValue?_eq_some_iff`: the two kinds of lines.
- `run_of_says`: lines that say something are read as that.
- `exists_says_of_run`: lines that are not refused say something.
- `exists_readChars_iff`, `readChars_of_says`: the files that are read, and what is read.
-/

namespace LedgerNet.Settings.Ini

open LedgerNet.Entries (upsert upsert_upsert)

/-! ## Lines -/

/-- The text starts a section: its name stands in brackets, and goes up to the last closing one. -/
def IsHeader (text name : List Char) : Prop :=
  name ≠ [] ∧ ∃ rest, text = '[' :: (name ++ ']' :: rest) ∧ ']' ∉ rest

/-- The text gives a key a value: a name stands before the first `=` or `:`, which is not blank and
is the key in lower case; the value stands behind, without the blanks around it. -/
def IsAssignment (text : List Char) (key : String) (value : List Char) : Prop :=
  ∃ name sign rest, text = name ++ sign :: rest ∧ (∀ c ∈ name, c ≠ '=' ∧ c ≠ ':') ∧
    (sign = '=' ∨ sign = ':') ∧ Text.trimRight name ≠ [] ∧
    key = Text.lower (String.ofList (Text.trimRight name)) ∧ value = Text.trim rest

/-- Text is cut before the first character that is not of a kind. -/
theorem cut_append {p : Char → Bool} {before : List Char} {c : Char} (hall : ∀ x ∈ before, p x)
    (hc : ¬p c) (rest : List Char) :
    (before ++ c :: rest).takeWhile p = before ∧ (before ++ c :: rest).dropWhile p = c :: rest := by
  rw [List.takeWhile_append_of_pos hall, List.takeWhile_cons_of_neg hc, List.append_nil,
    List.dropWhile_append_of_pos hall, List.dropWhile_cons_of_neg hc]
  exact ⟨rfl, rfl⟩

theorem dropWhile_eq_cons_iff {p : Char → Bool} {text rest : List Char} {c : Char} :
    text.dropWhile p = c :: rest ↔ text = text.takeWhile p ++ c :: rest ∧ ¬p c := by
  constructor
  · intro h
    have hhead := List.head?_dropWhile_not p text
    have hsplit := List.takeWhile_append_dropWhile (p := p) (l := text)
    rw [h] at hhead hsplit
    exact ⟨hsplit.symm, by simpa using hhead⟩
  · rintro ⟨h, hc⟩
    rw [h]
    exact (cut_append (fun _ => List.mem_takeWhile_imp) hc rest).2

/-- Text cut behind the last occurrence of a character, from the end. -/
theorem dropWhile_reverse_eq_cons_iff {c d : Char} {text before : List Char} :
    text.reverse.dropWhile (· != c) = d :: before ↔
      d = c ∧ ∃ rest, text = before.reverse ++ c :: rest ∧ c ∉ rest := by
  rw [dropWhile_eq_cons_iff]
  constructor
  · rintro ⟨h, hd⟩
    have hd : d = c := by simpa using hd
    refine ⟨hd, (text.reverse.takeWhile (· != c)).reverse, ?_, ?_⟩
    · simpa [hd] using congrArg List.reverse h
    · intro hmem
      have hne := List.mem_takeWhile_imp (List.mem_reverse.mp hmem)
      simp at hne
  · rintro ⟨rfl, rest, rfl, hrest⟩
    have hall : ∀ x ∈ rest.reverse, (x != d) = true := by
      intro x hx
      simpa using fun hxd : x = d => hrest (hxd ▸ List.mem_reverse.mp hx)
    simp [List.takeWhile_append_of_pos hall]

theorem sectionName?_eq_some_iff {text name : List Char} :
    sectionName? text = some name ↔ IsHeader text name := by
  unfold sectionName? IsHeader
  constructor
  · intro h
    split at h
    case h_1 rest =>
      split at h
      · cases h
      case h_2 c cs hinner =>
        cases h
        -- What was dropped before the name is the bracket at its end.
        obtain ⟨d, hcut⟩ : ∃ d, rest.reverse.dropWhile (· != ']') = d :: c :: cs := by
          cases hcut : rest.reverse.dropWhile (· != ']') with
          | nil => simp [hcut] at hinner
          | cons d inner => exact ⟨d, by rw [hcut] at hinner; simpa using hinner⟩
        obtain ⟨-, rest', hrest, hlast⟩ := dropWhile_reverse_eq_cons_iff.mp hcut
        exact ⟨by simp, rest', by rw [hrest], hlast⟩
    · cases h
  · rintro ⟨hname, rest, rfl, hlast⟩
    have hcut : (name ++ ']' :: rest).reverse.dropWhile (· != ']') = ']' :: name.reverse := by
      rw [dropWhile_reverse_eq_cons_iff]
      exact ⟨rfl, rest, by rw [List.reverse_reverse], hlast⟩
    obtain ⟨c, cs, hcs⟩ := List.exists_cons_of_ne_nil (List.reverse_ne_nil_iff.mpr hname)
    simp only [hcut, List.drop_one, List.tail_cons, hcs]
    rw [← hcs, List.reverse_reverse]

theorem keyValue?_eq_some_iff {text : List Char} {key : String} {value : List Char} :
    keyValue? text = some (key, value) ↔ IsAssignment text key value := by
  unfold keyValue? IsAssignment
  constructor
  · intro h
    dsimp only at h
    split at h
    · cases h
    case h_2 sign rest hcut =>
      split at h
      · cases h
      case h_2 hkey =>
        cases h
        obtain ⟨htext, hsign⟩ := dropWhile_eq_cons_iff.mp hcut
        refine ⟨_, sign, rest, htext, ?_, ?_, hkey, rfl, rfl⟩
        · intro c hc
          simpa using List.mem_takeWhile_imp hc
        · simpa [Classical.or_iff_not_imp_left] using hsign
  · rintro ⟨name, sign, rest, rfl, hname, hsign, hkey, rfl, rfl⟩
    have hall : ∀ c ∈ name, (c != '=' && c != ':') = true := by
      intro c hc
      simpa using hname c hc
    -- The name ends at the first sign, since it holds none itself.
    have hstop : ¬(sign != '=' && sign != ':') = true := by
      rcases hsign with rfl | rfl <;> decide
    obtain ⟨hkept, hcut⟩ := cut_append hall hstop rest
    simp only [hkept, hcut]

/-! ## Statements -/

/-- What a file says: a section starts, or a key gets a value, of which these are the lines. -/
inductive Statement where
  | header (name : String)
  | assignment (key : String) (value : List (List Char))
  deriving DecidableEq, Repr

/-- Whether a line goes on with the value of a key whose line has some indent. -/
def Line.Continues (indent : Nat) : Line → Prop
  | .empty | .comment => True
  | .content further _ => indent < further

instance (indent : Nat) : (line : Line) → Decidable (line.Continues indent)
  | .empty | .comment => isTrue trivial
  | .content further _ => inferInstanceAs (Decidable (indent < further))

/-- What a line adds to a value that it goes on with. -/
def Line.addition : Line → Option (List Char)
  | .empty => some []
  | .comment => none
  | .content _ text => some text

/-- What lines say, one statement after the other. The lines that go on with a value end before the
first one that is indented no deeper than its key. -/
inductive Says : List Line → List Statement → Prop where
  | nil : Says [] []
  | empty {lines statements} : Says lines statements → Says (.empty :: lines) statements
  | comment {lines statements} : Says lines statements → Says (.comment :: lines) statements
  | header {lines statements indent text name} :
      IsHeader text name →
      Says lines statements →
      Says (.content indent text :: lines) (.header (String.ofList name) :: statements)
  | assignment {lines statements indent text key value} (more : List Line) :
      (∀ name, ¬IsHeader text name) →
      IsAssignment text key value →
      (∀ line ∈ more, line.Continues indent) →
      (∀ line ∈ lines.head?, ¬line.Continues indent) →
      Says lines statements →
      Says (.content indent text :: (more ++ lines))
        (.assignment key (value :: more.filterMap Line.addition) :: statements)

/-! ## Changes to a file -/

theorem updateKey_eq (key : String) (change : List (List Char) → List (List Char)) (e : Entries) :
    updateKey key change e = upsert key change [] e := by
  induction e with
  | nil => rfl
  | cons row e ih => rw [updateKey, upsert, ih]

theorem updateSection_eq (name : String) (change : Entries → Entries)
    (sections : List (String × Entries)) :
    updateSection name change sections = upsert name change [] sections := by
  induction sections with
  | nil => rfl
  | cons row sections ih => rw [updateSection, upsert, ih]

theorem File.update_update (file : File) (name : String) (f g : Entries → Entries) :
    (file.update name f).update name g = file.update name (g ∘ f) := by
  by_cases h : name = defaultName <;> simp [File.update, h, updateSection_eq, upsert_upsert]

/-- A file and its current section, after a statement. -/
def Statement.execute (now : File × String) : Statement → File × String
  | .header name => (now.1.update name id, name)
  | .assignment key value => (now.1.update now.2 (updateKey key fun _ => value), now.2)

/-! ## Reading line by line -/

variable {s : State} {lines : List Line} {statements : List Statement}

/-- The state after lines. -/
def State.run (s : State) (lines : List Line) : State := lines.foldl State.next s

/-- The file and the current section of a state. -/
def State.now (s : State) : File × String := (s.file, s.current)

/-- The first of the lines does not go on with a value. -/
def State.Fresh (s : State) (lines : List Line) : Prop :=
  s.key = none ∨ ∀ line ∈ lines.head?, ¬line.Continues s.indent

/-- The state in which a key has been given a value that may go on. -/
def State.assign (s : State) (indent : Nat) (key : String) (value : List (List Char)) : State :=
  { s with
    file := s.file.update s.current (updateKey key fun _ => value)
    key := some key
    indent }

theorem State.extend_assign (indent : Nat) (key : String) (value : List (List Char))
    (text : List Char) :
    (s.assign indent key value).extend key text = s.assign indent key (value ++ [text]) := by
  have hkey : (updateKey key (· ++ [text])) ∘ (updateKey key fun _ => value) =
      updateKey key fun _ => value ++ [text] := by
    funext e
    simp [updateKey_eq, upsert_upsert, Function.comp_def]
  simp only [assign, extend, File.update_update, hkey]

/-- A line that goes on with a value adds to it. -/
theorem State.next_assign {line : Line} {indent : Nat} (h : line.Continues indent) (key : String)
    (value : List (List Char)) :
    (s.assign indent key value).next line =
      s.assign indent key (value ++ line.addition.toList) := by
  cases line with
  | empty => exact extend_assign indent key value []
  | comment => simp [next, Line.addition]
  | content further text =>
    have hnext : (s.assign indent key value).next (.content further text) =
        (s.assign indent key value).extend key text := if_pos h
    rw [hnext, extend_assign]
    rfl

theorem State.run_assign {more : List Line} {indent : Nat}
    (h : ∀ line ∈ more, line.Continues indent) (key : String) (value : List (List Char)) :
    (s.assign indent key value).run more =
      s.assign indent key (value ++ more.filterMap Line.addition) := by
  induction more generalizing value with
  | nil => simp [run]
  | cons line more ih =>
    obtain ⟨hline, hmore⟩ := List.forall_mem_cons.mp h
    have hstep := ih hmore (value ++ line.addition.toList)
    rw [run, List.foldl_cons, next_assign hline, ← run, hstep, List.append_assoc]
    cases hadd : line.addition <;> simp [hadd]

theorem State.next_comment (s : State) : s.next .comment = s := by
  simp [next]

/-- An empty line means nothing where there is no value to go on with. -/
theorem State.next_empty (h : s.key = none) : s.next .empty = s := by
  simp [next, h]

/-- A line that does not go on with a value starts a section or a key. -/
theorem State.next_of_fresh {indent : Nat} {text : List Char}
    (h : s.Fresh (.content indent text :: lines)) :
    s.next (.content indent text) = s.start indent text := by
  unfold next
  cases hkey : s.key with
  | none => rfl
  | some key =>
    have hshallow : ¬s.indent < indent := by
      simpa [Fresh, hkey, Line.Continues] using h
    exact if_neg hshallow

theorem State.key_of_fresh {line : Line} (h : s.Fresh (line :: lines))
    (hline : line.Continues s.indent) : s.key = none := by
  rcases h with h | h
  · exact h
  · exact absurd hline (h line rfl)

theorem State.start_of_header {indent : Nat} {text name : List Char} (h : IsHeader text name) :
    s.start indent text =
      { s with
        file := s.file.update (String.ofList name) id
        current := String.ofList name
        key := none
        indent } := by
  rw [start, sectionName?_eq_some_iff.mpr h]

theorem sectionName?_eq_none_iff {text : List Char} :
    sectionName? text = none ↔ ∀ name, ¬IsHeader text name := by
  simp only [← sectionName?_eq_some_iff, Option.eq_none_iff_forall_ne_some, ne_eq]

theorem State.start_of_assignment {indent : Nat} {text value : List Char} {key : String}
    (hnot : ∀ name, ¬IsHeader text name) (h : IsAssignment text key value) :
    s.start indent text = s.assign indent key [value] := by
  rw [start, sectionName?_eq_none_iff.mpr hnot]
  simp only [keyValue?_eq_some_iff.mpr h]
  rfl

/-! ## What is read is what is said -/

theorem State.run_append (s : State) (before after : List Line) :
    s.run (before ++ after) = (s.run before).run after := List.foldl_append

theorem State.run_cons (s : State) (line : Line) (lines : List Line) :
    s.run (line :: lines) = (s.next line).run lines := rfl

/-- Lines that say something are read as that. -/
theorem State.run_of_says (h : Says lines statements) (hfresh : s.Fresh lines) :
    (s.run lines).now = statements.foldl Statement.execute s.now ∧
      (s.run lines).refused = s.refused := by
  -- The induction is on what is said, for any state that has no value to go on with.
  induction h generalizing s with
  | nil => exact ⟨rfl, rfl⟩
  | empty _ ih =>
    have hkey := key_of_fresh hfresh trivial
    rw [run_cons, next_empty hkey]
    exact ih (.inl hkey)
  | comment _ ih =>
    rw [run_cons, next_comment]
    exact ih (.inl (key_of_fresh hfresh trivial))
  | header hname _ ih =>
    rw [run_cons, next_of_fresh hfresh, start_of_header hname]
    exact ih (.inl rfl)
  | @assignment lines statements indent text key value more hnot hkey hmore hend _ ih =>
    rw [run_cons, next_of_fresh hfresh, start_of_assignment hnot hkey, run_append,
      run_assign hmore]
    exact ih (.inr hend)

theorem State.refused_next (h : s.refused = true) (line : Line) :
    (s.next line).refused = true := by
  have hstart : ∀ indent text, (s.start indent text).refused = true := by
    intro indent text
    unfold start
    dsimp only
    split
    · exact h
    · split
      · exact h
      · rfl
  unfold next
  split
  · exact h
  · exact h
  · exact h
  · exact hstart _ _
  · split
    · exact h
    · exact hstart _ _

/-- A line that is refused is never forgotten. -/
theorem State.refused_run (h : s.refused = true) (lines : List Line) :
    (s.run lines).refused = true := by
  induction lines generalizing s with
  | nil => exact h
  | cons line lines ih => exact ih (refused_next h line)

theorem State.refused_start {indent : Nat} {text : List Char} (hsection : sectionName? text = none)
    (hkey : keyValue? text = none) : (s.start indent text).refused = true := by
  simp [start, hsection, hkey]

/-- The lines that go on with a value, and those behind them. -/
theorem exists_value_lines (indent : Nat) (lines : List Line) :
    ∃ more rest, lines = more ++ rest ∧ (∀ line ∈ more, line.Continues indent) ∧
      ∀ line ∈ rest.head?, ¬line.Continues indent := by
  let p (line : Line) : Bool := decide (line.Continues indent)
  refine ⟨lines.takeWhile p, lines.dropWhile p, List.takeWhile_append_dropWhile.symm, ?_, ?_⟩
  · intro line hline
    have hcontinues : p line = true := List.mem_takeWhile_imp hline
    exact of_decide_eq_true hcontinues
  · intro line hline
    have hhead := List.head?_dropWhile_not p lines
    rw [Option.mem_def.mp hline] at hhead
    have hstops : p line = false := by simpa using hhead
    exact of_decide_eq_false hstops

/-- Lines that are not refused say something. -/
theorem State.exists_says_of_run (hfresh : s.Fresh lines) (h : (s.run lines).refused = false) :
    ∃ statements, Says lines statements := by
  -- A value takes all the lines that go on with it at once, so the induction is on their number.
  induction hlength : lines.length using Nat.strongRecOn generalizing s lines with
  | ind n ih =>
    subst hlength
    cases lines with
    | nil => exact ⟨[], .nil⟩
    | cons line lines =>
      rw [run_cons] at h
      cases line with
      | empty =>
        have hkey := key_of_fresh hfresh trivial
        rw [next_empty hkey] at h
        obtain ⟨statements, hsays⟩ := ih _ (Nat.lt_succ_self _) (.inl hkey) h rfl
        exact ⟨statements, .empty hsays⟩
      | comment =>
        have hkey := key_of_fresh hfresh trivial
        rw [next_comment] at h
        obtain ⟨statements, hsays⟩ := ih _ (Nat.lt_succ_self _) (.inl hkey) h rfl
        exact ⟨statements, .comment hsays⟩
      | content indent text =>
        rw [next_of_fresh hfresh] at h
        cases hsection : sectionName? text with
        | some name =>
          have hname := sectionName?_eq_some_iff.mp hsection
          rw [start_of_header hname] at h
          obtain ⟨statements, hsays⟩ := ih _ (Nat.lt_succ_self _) (.inl rfl) h rfl
          exact ⟨_, .header hname hsays⟩
        | none =>
          cases hkey : keyValue? text with
          | none =>
            rw [refused_run (refused_start hsection hkey)] at h
            cases h
          | some row =>
            obtain ⟨key, value⟩ := row
            have hnot := sectionName?_eq_none_iff.mp hsection
            have hassigned := keyValue?_eq_some_iff.mp hkey
            obtain ⟨more, rest, rfl, hmore, hend⟩ := exists_value_lines indent lines
            rw [start_of_assignment hnot hassigned, run_append, run_assign hmore] at h
            have hshorter : rest.length < (Line.content indent text :: (more ++ rest)).length := by
              simp only [List.length_cons, List.length_append]
              omega
            obtain ⟨statements, hsays⟩ := ih _ hshorter (.inr hend) h rfl
            exact ⟨_, .assignment more hnot hassigned hmore hend hsays⟩

/-! ## Files -/

/-- The text of a file says these statements. -/
def TextSays (text : List Char) (statements : List Statement) : Prop :=
  Says ((Ini.lines (unifyBreaks text)).map Line.ofChars) statements

/-- The state before the first line: there is a first section. -/
def State.first : State where
  file := ({} : File).update firstName id
  current := firstName

/-- The file that statements make. -/
def File.ofStatements (statements : List Statement) : File :=
  (statements.foldl Statement.execute State.first.now).1

theorem readChars_eq (text : List Char) :
    readChars text =
      let s := State.first.run ((Ini.lines (unifyBreaks text)).map Line.ofChars)
      if s.refused then .error .badLine else .ok s.file := rfl

theorem readChars_of_says {text : List Char} (h : TextSays text statements) :
    readChars text = .ok (.ofStatements statements) := by
  obtain ⟨hnow, hrefused⟩ := State.run_of_says h (s := State.first) (.inl rfl)
  rw [readChars_eq]
  dsimp only
  rw [hrefused]
  exact congrArg (fun now => Except.ok now.1) hnow

/-- **A text is read exactly if it says something.** -/
theorem exists_readChars_iff {text : List Char} :
    (∃ file, readChars text = .ok file) ↔ ∃ statements, TextSays text statements := by
  constructor
  · rintro ⟨file, h⟩
    apply State.exists_says_of_run (s := State.first) (.inl rfl)
    rw [readChars_eq] at h
    dsimp only at h
    split at h
    · cases h
    case isFalse hrefused => exact eq_false_of_ne_true hrefused
  · rintro ⟨statements, h⟩
    exact ⟨_, readChars_of_says h⟩

end LedgerNet.Settings.Ini
