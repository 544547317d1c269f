import ApiContract.Files.Host
import ApiContract.Proofs.Files.Path

/-!
What the steps on a file tree change. The names of a path decide where it leads, whatever stands
there; the tree only decides whether the way is open. Making folders fills empty places on the way
of a path, writing puts one text in one place, and moving takes one text from a place to another.
None of them removes a folder, so a way that is open stays open.
-/

namespace ApiContract

/-- Where names lead from a place when the way is open; two points lead to the folder above. -/
def Place.lead? (place : Place) : List String → Option Place
  | [] => some place
  | name :: rest =>
      if name = ".." then (if place = [] then none else Place.lead? place.dropLast rest)
      else Place.lead? (place ++ [name]) rest

/-- Where a path leads when the way is open. -/
def Path.goal? (path : String) : Option Place := Place.lead? [] (names path)

/-- The first names of a path lead to the place. -/
def Path.Passes (path : String) (place : Place) : Prop :=
  ∃ front, front <+: names path ∧ Place.lead? [] front = some place

theorem Place.lead?_append (place : Place) (first second : List String) :
    Place.lead? place (first ++ second) =
      (Place.lead? place first).bind fun between => Place.lead? between second := by
  induction first generalizing place with
  | nil => rfl
  | cons name first ih =>
      rw [List.cons_append, Place.lead?, Place.lead?]
      by_cases up : name = ".."
      · rw [if_pos up, if_pos up]
        by_cases root : place = []
        · rw [if_pos root, if_pos root]
          rfl
        · rw [if_neg root, if_neg root, ih]
      · rw [if_neg up, if_neg up, ih]

theorem Place.lead?_down {names : List String} (down : ".." ∉ names) (place : Place) :
    Place.lead? place names = some (place ++ names) := by
  induction names generalizing place with
  | nil => rw [Place.lead?, List.append_nil]
  | cons name names ih =>
      rw [List.mem_cons, not_or] at down
      rw [Place.lead?, if_neg (Ne.symm down.1), ih down.2, List.append_assoc, List.singleton_append]

namespace FileTree

variable {tree next : FileTree} {place other goal : Place}

theorem lookup_cons_place (key place : Place) (entry : TreeEntry)
    (rest : List (Place × TreeEntry)) :
    ((key, entry) :: rest).lookup place = if place = key then some entry else rest.lookup place := by
  by_cases same : place = key
  · simp [same]
  · simp [List.lookup_cons, same, beq_false_of_ne same]

theorem lookup_erased (entries : List (Place × TreeEntry)) (place other : Place) :
    (entries.filter (·.1 != place)).lookup other =
      if other = place then none else entries.lookup other := by
  induction entries with
  | nil => simp
  | cons entry rest ih =>
      obtain ⟨key, held⟩ := entry
      rw [List.filter_cons, lookup_cons_place]
      by_cases erased : key = place
      · rw [if_neg (by simp [erased]), ih, erased]
        by_cases same : other = place
        · rw [if_pos same, if_pos same]
        · rw [if_neg same, if_neg same, if_neg same]
      · rw [if_pos (by simpa using erased), lookup_cons_place, ih]
        by_cases here : other = key
        · rw [if_pos here, if_neg (here ▸ erased), if_pos here]
        · rw [if_neg here, if_neg here]

theorem entry?_of_ne_root (nonroot : place ≠ []) :
    tree.entry? place = tree.entries.lookup place := by
  cases place with
  | nil => exact absurd rfl nonroot
  | cons name rest => rfl

theorem entry?_put (nonroot : place ≠ []) (entry : TreeEntry) (other : Place) :
    FileTree.entry? (tree.put place entry) other =
      if other = place then some entry else tree.entry? other := by
  cases other with
  | nil => rw [if_neg (Ne.symm nonroot)]; rfl
  | cons name rest =>
      rw [entry?_of_ne_root (List.cons_ne_nil _ _), entry?_of_ne_root (List.cons_ne_nil _ _), put, erase]
      rw [lookup_cons_place, lookup_erased]
      by_cases same : name :: rest = place
      · rw [if_pos same, if_pos same]
      · rw [if_neg same, if_neg same, if_neg same]

theorem entry?_erase (nonroot : place ≠ []) (other : Place) :
    FileTree.entry? (tree.erase place) other =
      if other = place then none else tree.entry? other := by
  cases other with
  | nil => rw [if_neg (Ne.symm nonroot)]; rfl
  | cons name rest =>
      rw [entry?_of_ne_root (List.cons_ne_nil _ _), entry?_of_ne_root (List.cons_ne_nil _ _), erase,
        lookup_erased]

theorem text?_eq_some {text : String} :
    tree.text? place = some text ↔ tree.entry? place = some (.file text) := by
  rw [text?]
  rcases tree.entry? place with _ | ⟨⟩ | ⟨held⟩ <;> simp

/-- Between two trees folders were made, in empty places on the way of a path. -/
def Opened (path : String) (before after : FileTree) : Prop :=
  ∀ place, after.entry? place = before.entry? place ∨
    before.entry? place = none ∧ after.entry? place = some .folder ∧ Path.Passes path place

theorem Opened.refl (path : String) (tree : FileTree) : Opened path tree tree := fun _ => .inl rfl

theorem Opened.text {path : String} (opened : Opened path tree next) (place : Place) :
    next.text? place = tree.text? place := by
  rw [text?, text?]
  rcases opened place with same | ⟨empty, folder, -⟩
  · rw [same]
  · rw [empty, folder]

theorem ne_root_of_not_folder (free : ¬ tree.isFolder place = true) : place ≠ [] := by
  rintro rfl
  exact free rfl

theorem ne_root_of_text {text : String} (held : tree.text? place = some text) : place ≠ [] := by
  rintro rfl
  cases held

theorem walk_goal {names : List String} (walked : tree.walk place names = some goal) :
    Place.lead? place names = some goal := by
  induction names generalizing place with
  | nil => exact walked
  | cons name names ih =>
      rw [walk] at walked
      rw [Place.lead?]
      split at walked
      next => cases walked
      next =>
        split at walked
        next up =>
          rw [if_pos up]
          split at walked
          next => cases walked
          next inner => rw [if_neg inner, ih walked]
        next down => rw [if_neg down, ih walked]

theorem filePlace?_goal {path : String} (found : tree.filePlace? path = some place) :
    Path.goal? path = some place := by
  rw [filePlace?] at found
  split at found
  next => cases found
  next => exact walk_goal found

theorem isFolder_iff : tree.isFolder place = true ↔ tree.entry? place = some .folder := beq_iff_eq

/-- All folders of one tree are in another. -/
def FoldersKept (before after : FileTree) : Prop :=
  ∀ place, before.entry? place = some .folder → after.entry? place = some .folder

theorem FoldersKept.trans {first second third : FileTree} (kept : FoldersKept first second)
    (kept' : FoldersKept second third) : FoldersKept first third :=
  fun place folder => kept' place (kept place folder)

theorem FoldersKept.walk (kept : FoldersKept tree next) {names : List String}
    (walked : tree.walk place names = some goal) : next.walk place names = some goal := by
  induction names generalizing place with
  | nil => exact walked
  | cons name names ih =>
      rw [FileTree.walk] at walked ⊢
      split at walked
      next => cases walked
      next folder =>
        rw [Bool.not_eq_true', Bool.not_eq_false, isFolder_iff] at folder
        rw [if_neg (by simp [isFolder_iff.mpr (kept place folder)])]
        split at walked
        next up =>
          rw [if_pos up]
          split at walked
          next => cases walked
          next inner => rw [if_neg inner, ih walked]
        next down => rw [if_neg down, ih walked]

theorem FoldersKept.filePlace? (kept : FoldersKept tree next) {path : String}
    (found : tree.filePlace? path = some place) : next.filePlace? path = some place := by
  rw [FileTree.filePlace?] at found ⊢
  split at found
  next => cases found
  next file => rw [if_neg file, place?, kept.walk found]

theorem FoldersKept.read? (kept : FoldersKept tree next) {path text : String}
    (held : tree.read? path = some text)
    (same : ∀ place, Path.goal? path = some place → next.text? place = tree.text? place) :
    next.read? path = some text := by
  obtain ⟨place, found, here⟩ := Option.bind_eq_some_iff.mp held
  rw [FileTree.read?, kept.filePlace? found, Option.bind_some, same place (filePlace?_goal found), here]

theorem Opened.foldersKept {path : String} (opened : Opened path tree next) :
    FoldersKept tree next := by
  intro place folder
  rcases opened place with same | ⟨empty, -, -⟩
  · rw [same, folder]
  · cases folder.symm.trans empty

theorem makeFolders_entry {names : List String} (made : tree.makeFolders place names = some next)
    (other : Place) : next.entry? other = tree.entry? other ∨
      tree.entry? other = none ∧ next.entry? other = some .folder ∧
        ∃ front, front <+: names ∧ Place.lead? place front = some other := by
  induction names generalizing tree place with
  | nil =>
      rw [makeFolders] at made
      split at made
      next => exact .inl (by cases made; rfl)
      next => cases made
  | cons name names ih =>
      rw [makeFolders] at made
      split at made
      next => cases made
      next =>
        split at made
        next up =>
          split at made
          next => cases made
          next inner =>
            refine (ih made).imp_right fun ⟨empty, folder, front, begins, leads⟩ => ?_
            refine ⟨empty, folder, name :: front, List.prefix_cons_inj name |>.mpr begins, ?_⟩
            rw [Place.lead?, if_pos up, if_neg inner, leads]
        next down =>
          have onward (front : List String) (begins : front <+: names)
              (leads : Place.lead? (place ++ [name]) front = some other) :
              ∃ front, front <+: name :: names ∧ Place.lead? place front = some other := by
            refine ⟨name :: front, List.prefix_cons_inj name |>.mpr begins, ?_⟩
            rw [Place.lead?, if_neg down, leads]
          dsimp only at made
          split at made
          next empty =>
            rcases ih made with same | ⟨free, folder, front, begins, leads⟩
            · rw [entry?_put (by simp)] at same
              split at same
              next here =>
                exact .inr ⟨here ▸ empty, same, onward [] List.nil_prefix (by rw [here]; rfl)⟩
              next => exact .inl same
            · rw [entry?_put (by simp)] at free
              split at free
              next => cases free
              next => exact .inr ⟨free, folder, onward front begins leads⟩
          next =>
            exact (ih made).imp_right fun ⟨free, folder, front, begins, leads⟩ =>
              ⟨free, folder, onward front begins leads⟩

theorem createFolders_opened {path : String} (made : tree.createFolders path = some next) :
    Opened path tree next :=
  makeFolders_entry made

theorem write_entry {path text : String} (written : tree.write path text = some next) :
    ∃ place, Path.goal? path = some place ∧ tree.entry? place ≠ some .folder ∧
      ∀ other, next.entry? other =
        if other = place then some (.file text) else tree.entry? other := by
  rw [write] at written
  split at written
  next => cases written
  next place found =>
    split at written
    next => cases written
    next free =>
      cases written
      exact ⟨place, filePlace?_goal found, fun folder => free (isFolder_iff.mpr folder),
        entry?_put (ne_root_of_not_folder free) (.file text)⟩

theorem rename_entry {source target : String} (moved : tree.rename source target = some next) :
    ∃ origin place text, Path.goal? source = some origin ∧ tree.filePlace? target = some place ∧
      tree.entry? origin = some (.file text) ∧ tree.entry? place ≠ some .folder ∧
      ∀ other, next.entry? other =
        if other = place then some (.file text)
        else if other = origin then none else tree.entry? other := by
  rw [rename] at moved
  split at moved
  next origin place found found' =>
    split at moved
    next => cases moved
    next text held =>
      split at moved
      next => cases moved
      next free =>
        cases moved
        refine ⟨origin, place, text, filePlace?_goal found, found', text?_eq_some.mp held,
          fun folder => free (isFolder_iff.mpr folder), fun other => ?_⟩
        rw [entry?_put (ne_root_of_not_folder free), entry?_erase (ne_root_of_text held)]
  next => cases moved

theorem write_foldersKept {path text : String} (written : tree.write path text = some next) :
    FoldersKept tree next := by
  intro place folder
  obtain ⟨taken, -, free, stands⟩ := write_entry written
  have apart : place ≠ taken := fun same => free (same ▸ folder)
  rw [stands, if_neg apart, folder]

theorem rename_foldersKept {source target : String}
    (moved : tree.rename source target = some next) : FoldersKept tree next := by
  intro place folder
  obtain ⟨origin, taken, text, -, -, held, free, stands⟩ := rename_entry moved
  have apart : place ≠ taken := fun same => free (same ▸ folder)
  have apart' : place ≠ origin := by
    rintro rfl
    cases folder.symm.trans held
  rw [stands, if_neg apart, if_neg apart', folder]

end FileTree

namespace Workspace

/-- A change happens whole, or the tree stays as it is. -/
theorem change_tree (f : FileTree → Option FileTree) (workspace : Workspace) :
    (∃ after, (change f).run workspace = (.ok (), after) ∧ f workspace.tree = some after.tree) ∨
      ∃ reason after, (change f).run workspace = (.error reason, after) ∧
        after.tree = workspace.tree := by
  rw [change]
  simp only [StateT.run_bind, StateT.run_get, pure_bind]
  split
  next changed => exact .inl ⟨_, rfl, changed⟩
  next => exact .inr ⟨"failed", _, rfl, rfl⟩

end Workspace

end ApiContract
