import LedgerNet.FileTree
import LedgerNet.Proofs.Entries
import LedgerNet.Proofs.Outcome

/-!
# Places and shapes

Where walking along names succeeds it leads to the place that the names come to, whatever stands in
the tree. The working directory is at such a place, so a file is opened at the place that its path
comes to.

What can be made and opened in a tree does not depend on what its files hold. The shape of a tree is
the tree with all files empty, and every operation but looking at contents can be done on the shape
as well.

## Main statements

- `walk_eq_ok`: where walking leads to.
- `place_of_openFile`: where a file is opened.
- `ensureDirectory_shape`, `openFile_shape`: what the operations come to on the shape of a tree.
- `shape_append`: text that is added to a file leaves the shape.
-/

namespace LedgerNet

open Outcome

/-! ## Places -/

namespace Path

theorem leadsDown_of_isName {name : String} (h : isName name) : LeadsDown name := by
  simp only [isName, Bool.and_eq_true, decide_eq_true_eq] at h
  exact h.1.1.1.2

theorem foldl_next_of_down {names : List String} (h : ∀ name ∈ names, LeadsDown name)
    (place : List String) : names.foldl next place = place ++ names := by
  induction names generalizing place with
  | nil => simp
  | cons name names ih =>
    obtain ⟨⟨hdot, hdots⟩, hrest⟩ := List.forall_mem_cons.mp h
    rw [List.foldl_cons, next, if_neg hdot, if_neg hdots, ih hrest]
    simp

theorem down_next {place : List String} (h : ∀ name ∈ place, LeadsDown name) (name : String) :
    ∀ n ∈ next place name, LeadsDown n := by
  unfold next
  split
  · exact h
  · split
    · exact fun n hn => h n ((List.dropLast_sublist place).subset hn)
    case isFalse hdot hdots =>
      simp only [List.mem_append, List.mem_singleton]
      rintro n (hn | rfl)
      · exact h n hn
      · exact ⟨hdot, hdots⟩

/-- From a place names come to a place. -/
theorem down_normal {start : List String} (h : ∀ name ∈ start, LeadsDown name)
    (names : List String) : ∀ name ∈ normal start names, LeadsDown name := by
  unfold normal
  induction names generalizing start with
  | nil => exact h
  | cons name names ih => exact ih (down_next h name)

end Path

namespace FileTree

variable {t t' : FileTree} {here place : List String} {path : String}

/-! ## Walking -/

theorem walk_eq_ok {names : List String} (h : t.walk here names = .ok place) :
    place = Path.normal here names := by
  induction names generalizing here with
  | nil => exact (Except.ok.inj h).symm
  | cons name names ih =>
    simp only [walk, bind_eq_ok_iff, refuse_eq_ok_iff] at h
    obtain ⟨-, -, -, hrest⟩ := h
    exact ih hrest

theorem startOf_down (t : FileTree) (path : String) :
    ∀ name ∈ t.startOf path, Path.LeadsDown name := by
  unfold startOf
  split
  · simp
  · exact fun name hname =>
      Path.leadsDown_of_isName (List.all_eq_true.mp t.workingDir_names name hname)

theorem place_of_openPlace {names : List String} {size : Nat}
    (hdown : ∀ name ∈ names, Path.LeadsDown name) (h : t.openPlace names size = .ok (place, t')) :
    place = names := by
  simp only [openPlace, refuse_eq_ok_iff, bind_eq_ok_iff] at h
  obtain ⟨-, -, reached, hwalk, hopen⟩ := h
  have hreached : reached = names := by
    rw [walk_eq_ok hwalk, Path.normal, Path.foldl_next_of_down hdown, List.nil_append]
  rw [← hreached]
  split at hopen
  · cases hopen
  · cases hopen
    rfl
  · cases hopen
    rfl

/-- A file is opened at the place that its path comes to. -/
theorem place_of_openFile (h : t.openFile path = .ok (place, t')) : place = t.placeOf path :=
  place_of_openPlace (Path.down_normal (t.startOf_down path) _) h

/-! ## Shapes -/

/-- An entry without what it holds. -/
def Entry.emptied : Entry → Entry
  | .file _ => .file []
  | .directory => .directory

/-- The tree with all files empty. -/
def shape (t : FileTree) : FileTree :=
  { t with entries := t.entries.map fun (p, e) => (p, e.emptied) }

theorem get?_shape (t : FileTree) (place : List String) :
    t.shape.get? place = (t.get? place).map Entry.emptied := by
  have hlookup : t.shape.entries.lookup place = (t.entries.lookup place).map Entry.emptied :=
    Entries.lookup_map_value (fun _ => Entry.emptied) t.entries place
  unfold get?
  rw [hlookup]
  show (if place.isPrefixOf t.workingDir = true then _ else _) = _
  split <;> rfl

theorem startOf_shape (t : FileTree) (path : String) : t.shape.startOf path = t.startOf path := rfl

theorem checkDirectory_shape (t : FileTree) (place : List String) :
    t.shape.checkDirectory place = t.checkDirectory place := by
  unfold checkDirectory
  rw [get?_shape]
  rcases t.get? place with _ | _ | _ <;> rfl

theorem walk_shape (t : FileTree) (here names : List String) :
    t.shape.walk here names = t.walk here names := by
  induction names generalizing here with
  | nil => rfl
  | cons name names ih => simp only [walk, checkDirectory_shape, ih]

theorem look_shape (t : FileTree) (path : String) :
    t.shape.look path = (t.look path).map Entry.emptied := by
  unfold look
  rw [walk_shape, startOf_shape]
  split
  · rfl
  · split
    · exact get?_shape t _
    · rfl

theorem set_shape (t : FileTree) (place : List String) (e : Entry) :
    t.shape.set place e.emptied = (t.set place e).shape := by
  simp only [set, shape, List.map_append, List.filter_map, List.map_cons, List.map_nil]
  rfl

theorem makeDirectory_shape (t : FileTree) (start names : List String) (size : Nat) :
    t.shape.makeDirectory start names size = shape <$> t.makeDirectory start names size := by
  by_cases hzero : names.any Path.holdsZero = true
  · simp only [makeDirectory, if_pos hzero]
    rfl
  by_cases hsize : Path.sizeLimit ≤ size
  · simp only [makeDirectory, if_neg hzero, if_pos hsize]
    rfl
  by_cases hnone : names.isEmpty = true
  · simp only [makeDirectory, if_neg hzero, if_neg hsize, if_pos hnone]
    rfl
  simp only [makeDirectory, if_neg hzero, if_neg hsize, if_neg hnone, walk_shape]
  cases t.walk start names with
  | error e => rfl
  | ok place =>
    simp only [ok_bind, get?_shape]
    cases t.get? place with
    | some e => rfl
    | none => exact congrArg Except.ok (set_shape t place .directory)

theorem leads_shape (t : FileTree) (start names : List String) (size : Nat) :
    t.shape.leads start names size = t.leads start names size := by
  unfold leads
  rw [walk_shape]
  split
  · rw [get?_shape, Option.isSome_map]
  · rfl

theorem makeLast_shape (t : FileTree) (start names : List String) (size : Nat) :
    t.shape.makeLast start names size = (t.makeLast start names size).map shape id := by
  unfold makeLast
  rw [makeDirectory_shape]
  cases t.makeDirectory start names size <;> rfl

theorem makeParents_shape (t : FileTree) (start : List String) (heads : List (String × Nat)) :
    t.shape.makeParents start heads = (t.makeParents start heads).map shape id := by
  induction heads with
  | nil => rfl
  | cons head outer ih =>
    obtain ⟨last, size⟩ := head
    cases outer with
    | nil => exact makeLast_shape t start _ size
    | cons head' outer' =>
      obtain ⟨name, outerSize⟩ := head'
      rw [makeParents, makeParents]
      simp only [leads_shape, ih]
      -- The parents are there, or they are made, or one of them turned out to be there.
      split
      · exact makeLast_shape t start _ size
      · rcases t.makeParents start ((name, outerSize) :: outer') with ⟨u, _ | e⟩
        · simp only [Prod.map_apply, id]
          split
          · rfl
          · exact makeLast_shape u start _ size
        · by_cases hthere : e = .alreadyExists
          · subst hthere
            simp only [Prod.map_apply, id]
            split
            · rfl
            · exact makeLast_shape u start _ size
          · -- Any other error ends the making, in whatever tree it has led to.
            cases e with
            | alreadyExists => exact absurd rfl hthere
            | _ => rfl

theorem makePath_shape (t : FileTree) (path : String) :
    t.shape.makePath path = (t.makePath path).map shape id := by
  unfold makePath
  split <;> exact makeParents_shape t _ _

theorem ensureDirectory_shape (t : FileTree) (path : String) :
    t.shape.ensureDirectory path = (t.ensureDirectory path).map shape id := by
  unfold ensureDirectory
  rw [look_shape, makePath_shape]
  rcases t.look path with _ | _ | _
  · rcases t.makePath path with ⟨u, _ | e⟩ <;> rfl
  · rfl
  · rfl

theorem openPlace_shape (t : FileTree) (place : List String) (size : Nat) :
    t.shape.openPlace place size = Prod.map id shape <$> t.openPlace place size := by
  by_cases hzero : place.any Path.holdsZero = true
  · simp only [openPlace, if_pos hzero]
    rfl
  by_cases hsize : Path.sizeLimit ≤ size
  · simp only [openPlace, if_neg hzero, if_pos hsize]
    rfl
  simp only [openPlace, if_neg hzero, if_neg hsize, walk_shape]
  cases t.walk [] place with
  | error e => rfl
  | ok place =>
    simp only [ok_bind, get?_shape]
    rcases t.get? place with _ | _ | _
    · exact congrArg (fun u => Except.ok (place, u)) (set_shape t place (.file []))
    · rfl
    · rfl

theorem openFile_shape (t : FileTree) (path : String) :
    t.shape.openFile path = Prod.map id shape <$> t.openFile path :=
  openPlace_shape t (t.placeOf path) _

/-- Text that is added to a file leaves the shape. -/
theorem shape_append (t : FileTree) (place : List String) (text : String) :
    (t.append place text).shape = t.shape := by
  have hemptied (e : Entry) : (e.append text).emptied = e.emptied := by
    cases e <;> rfl
  simp only [shape, append, List.map_map]
  congr 2
  funext ⟨p, e⟩
  simp only [Function.comp_apply]
  split
  · rw [hemptied]
  · rfl

/-- Trees of one shape are made into trees of one shape, and with the same success. -/
theorem ensureDirectory_congr {u : FileTree} (h : t.shape = u.shape) (path : String) :
    (t.ensureDirectory path).2 = (u.ensureDirectory path).2 ∧
      (t.ensureDirectory path).1.shape = (u.ensureDirectory path).1.shape := by
  have ht := ensureDirectory_shape t path
  rw [h, ensureDirectory_shape] at ht
  exact ⟨(congrArg Prod.snd ht).symm, (congrArg Prod.fst ht).symm⟩

/-- In trees of one shape a file is opened with the same success. -/
theorem openFile_congr {u : FileTree} (h : t.shape = u.shape) (path : String) :
    Prod.map id shape <$> t.openFile path = Prod.map id shape <$> u.openFile path := by
  rw [← openFile_shape, ← openFile_shape, h]

end FileTree

end LedgerNet
