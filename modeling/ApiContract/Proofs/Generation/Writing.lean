import ApiContract.Generation.Writing
import ApiContract.Proofs.Files.Changes

/-!
Writing artifacts file by file. Whatever step fails, the artifacts before a certain one have their new
text and the others what they had; beside them only the temporary files next to artifacts change. The
paths may be written in any way as long as they lead to different files.
-/

namespace ApiContract

open FileTree (Opened FoldersKept)

variable {folder path content : String} {before after middle : FileTree} {place : Place}
  {artifacts written : List Artifact}

/-- Writing to a workspace; it may fail. -/
abbrev Writing := ExceptT GenerationError (StateM Workspace) Unit

/-- How writing that succeeds has changed the tree, and how writing that fails has. -/
def Writing.Does (action : Writing) (done failed : FileTree → FileTree → Prop) : Prop :=
  ∀ workspace : Workspace,
    (∃ next, action.run.run workspace = (.ok (), next) ∧ done workspace.tree next.tree) ∨
      ∃ failure next, action.run.run workspace = (.error failure, next) ∧
        failed workspace.tree next.tree

/-- The file of a path has a text, and nothing stands at its temporary path. -/
def Moved (path text : String) (before after : FileTree) : Prop :=
  FoldersKept before after ∧ ∃ place beside,
    after.filePlace? path = some place ∧ Path.goal? (temporaryPath path) = some beside ∧
    ∀ other, after.entry? other =
      if other = place then some (.file text)
      else if other = beside then none else before.entry? other

/-- The file of a path has a text, after the folders above it were made. -/
def Replaced (path text : String) (before after : FileTree) : Prop :=
  ∃ opened, Opened (Path.parent path) before opened ∧ Moved path text opened after

/-- No file has changed but the temporary one of a path. -/
def Untouched (path : String) (before after : FileTree) : Prop :=
  FoldersKept before after ∧ ∀ place, Path.goal? (temporaryPath path) ≠ some place →
    after.text? place = before.text? place

namespace Writing

variable {action next : Writing} {done failed done' failed' : FileTree → FileTree → Prop}

theorem Does.bind (does : action.Does done failed) (does' : next.Does done' failed') :
    Does (action >>= fun _ => next)
      (fun before after => ∃ middle, done before middle ∧ done' middle after)
      fun before after => failed before after ∨ ∃ middle, done before middle ∧ failed' middle after := by
  intro workspace
  rcases does workspace with ⟨between, ran, made⟩ | ⟨failure, after, ran, made⟩
  · have run : (action >>= fun _ => next).run.run workspace = next.run.run between := by
      simp only [ExceptT.run_bind, StateT.run_bind, ran]
      rfl
    rw [run]
    rcases does' between with ⟨after, ran', made'⟩ | ⟨failure, after, ran', made'⟩
    · exact .inl ⟨after, ran', between.tree, made, made'⟩
    · exact .inr ⟨failure, after, ran', .inr ⟨between.tree, made, made'⟩⟩
  · refine .inr ⟨failure, after, ?_, .inl made⟩
    simp only [ExceptT.run_bind, StateT.run_bind, ran]
    rfl

theorem Does.imp (does : action.Does done failed)
    (weaker : ∀ before after, done before after → done' before after)
    (weaker' : ∀ before after, failed before after → failed' before after) :
    action.Does done' failed' := by
  intro workspace
  rcases does workspace with ⟨after, ran, made⟩ | ⟨failure, after, ran, made⟩
  · exact .inl ⟨after, ran, weaker _ _ made⟩
  · exact .inr ⟨failure, after, ran, weaker' _ _ made⟩

theorem writingStep_does (path : String) (f : FileTree → Option FileTree) :
    Does (writingStep path (Workspace.change f)) (fun before after => f before = some after)
      fun before after => after = before := by
  intro workspace
  have lifted : (liftM (Workspace.change f) : ExceptT GenerationError (StateM Workspace) _).run.run
      workspace = (.ok ((Workspace.change f).run workspace).1,
        ((Workspace.change f).run workspace).2) := rfl
  rw [writingStep, ExceptT.run_bind, StateT.run_bind, lifted]
  rcases Workspace.change_tree f workspace with ⟨after, ran, made⟩ | ⟨reason, after, ran, made⟩
  · rw [ran]
    exact .inl ⟨after, rfl, made⟩
  · rw [ran]
    exact .inr ⟨.write path reason, after, rfl, made⟩

theorem moveIn_does (path text : String) :
    Does (do
        writingStep (temporaryPath path) (Host.writeText (temporaryPath path) text)
        writingStep path (Host.rename (temporaryPath path) path))
      (Moved path text) (Untouched path) := by
  have write := writingStep_does (temporaryPath path) (·.write (temporaryPath path) text)
  have rename := writingStep_does path (·.rename (temporaryPath path) path)
  refine (write.bind rename).imp ?_ ?_
  · rintro before after ⟨middle, stored, moved⟩
    obtain ⟨beside, leads, -, stands⟩ := FileTree.write_entry stored
    obtain ⟨origin, place, found, leads', here, held, -, stands'⟩ := FileTree.rename_entry moved
    have kept := FileTree.rename_foldersKept moved
    -- the text that is moved is the one just written
    cases Option.some.inj (leads.symm.trans leads')
    rw [stands, if_pos rfl] at held
    cases held
    refine ⟨(FileTree.write_foldersKept stored).trans kept, place, beside, kept.filePlace? here,
      leads, fun other => ?_⟩
    rw [stands', stands]
    split
    next => rfl
    next =>
      split
      next => rfl
      next => rfl
  · rintro before after (rfl | ⟨middle, stored, rfl⟩)
    · exact ⟨fun _ folder => folder, fun _ _ => rfl⟩
    · refine ⟨FileTree.write_foldersKept stored, fun other elsewhere => ?_⟩
      obtain ⟨beside, leads, -, stands⟩ := FileTree.write_entry stored
      have apart : other ≠ beside := fun same => elsewhere (leads.trans (congrArg some same.symm))
      rw [FileTree.text?, FileTree.text?, stands, if_neg apart]

theorem writeAtomically_does (path text : String) :
    Does (writeAtomically path text) (Replaced path text) (Untouched path) := by
  rw [writeAtomically]
  dsimp only
  split
  next =>
    have furnish := writingStep_does (Path.parent path) (·.createFolders (Path.parent path))
    refine (furnish.bind (moveIn_does path text)).imp ?_ ?_
    · rintro before after ⟨middle, made, moved⟩
      exact ⟨middle, FileTree.createFolders_opened made, moved⟩
    · rintro before after (rfl | ⟨middle, made, kept, spared⟩)
      · exact ⟨fun _ folder => folder, fun _ _ => rfl⟩
      · have opened := FileTree.createFolders_opened made
        refine ⟨opened.foldersKept.trans kept, fun other elsewhere => ?_⟩
        rw [spared other elsewhere, opened.text]
  next =>
    refine (moveIn_does path text).imp ?_ fun _ _ spared => spared
    intro before after moved
    exact ⟨before, Opened.refl _ before, moved⟩

end Writing

/-- One artifact after the other is replaced. -/
inductive Rewrites (folder : String) : List Artifact → FileTree → FileTree → Prop
  | nil {tree : FileTree} : Rewrites folder [] tree tree
  | cons {artifact : Artifact} {rest : List Artifact} {before middle after : FileTree} :
      Replaced (Path.join folder artifact.name) artifact.text before middle →
      Rewrites folder rest middle after → Rewrites folder (artifact :: rest) before after

theorem writeArtifacts_does (folder : String) (artifacts : List Artifact) :
    Writing.Does (writeArtifacts folder false artifacts) (Rewrites folder artifacts)
      fun before after => ∃ written failing rest middle,
        artifacts = written ++ failing :: rest ∧ Rewrites folder written before middle ∧
          Untouched (Path.join folder failing.name) middle after := by
  induction artifacts with
  | nil => exact fun workspace => .inl ⟨workspace, rfl, .nil⟩
  | cons artifact artifacts ih =>
      have write := Writing.writeAtomically_does (Path.join folder artifact.name) artifact.text
      refine (write.bind ih).imp ?_ ?_
      · rintro before after ⟨middle, replaced, rewritten⟩
        exact .cons replaced rewritten
      -- the first artifact fails, or a later one after the first was replaced
      · rintro before after (spared | ⟨first, replaced, written, failing, rest, middle, split,
          rewritten, spared⟩)
        · exact ⟨[], artifact, artifacts, before, rfl, .nil, spared⟩
        · exact ⟨artifact :: written, failing, rest, middle, by rw [split]; rfl,
            .cons replaced rewritten, spared⟩

namespace Artifact

/-- Where an artifact goes below a folder. -/
def goal? (folder : String) (artifact : Artifact) : Option Place :=
  Path.goal? (Path.join folder artifact.name)

/-- Where the new text of an artifact stands before it is moved. -/
def beside? (folder : String) (artifact : Artifact) : Option Place :=
  Path.goal? (temporaryPath (Path.join folder artifact.name))

/-- Two artifacts lead to different files, and neither to the temporary one of the other. -/
structure Apart (folder : String) (first second : Artifact) : Prop where
  files : ∀ place, first.goal? folder = some place → second.goal? folder ≠ some place
  beside : ∀ place, first.goal? folder = some place → second.beside? folder ≠ some place
  beside' : ∀ place, second.goal? folder = some place → first.beside? folder ≠ some place

/-- Nothing stands in a place but a folder for one of the artifacts. -/
def Vacant (folder : String) (artifacts : List Artifact) (tree : FileTree) (place : Place) : Prop :=
  tree.entry? place = none ∨ tree.entry? place = some .folder ∧
    ∃ artifact ∈ artifacts, Path.Passes (Path.parent (Path.join folder artifact.name)) place

/-- Some artifacts have their new text and others what they had. Beside them only temporary files
have changed, and of these none is left when all artifacts are written. -/
structure WrittenUpTo (folder : String) (written kept : List Artifact) (before after : FileTree) :
    Prop where
  renewed : ∀ artifact ∈ written,
    after.read? (Path.join folder artifact.name) = some artifact.text
  unchanged : ∀ artifact ∈ kept, ∀ place, artifact.goal? folder = some place →
    after.text? place = before.text? place
  others : ∀ place, (∀ artifact ∈ written ++ kept,
      artifact.goal? folder ≠ some place ∧ artifact.beside? folder ≠ some place) →
    after.text? place = before.text? place
  cleared : kept = [] → ∀ artifact ∈ written, ∀ place, artifact.beside? folder = some place →
    Vacant folder written after place

end Artifact

/-- The last name of a temporary path is more than points. -/
theorem ne_of_temporary {last other : String} (points : other.toList.getLast? ≠ some 'p') :
    last ++ ".tmp" ≠ other := by
  rintro rfl
  simp at points

/-- The last name of a temporary path stands behind the names before the last of the path. -/
theorem names_temporary (path : String) : ∃ front last,
    Path.names (temporaryPath path) = front ++ [last ++ ".tmp"] ∧
      (Path.names path = front ∨ Path.names path = front ++ [last]) := by
  obtain ⟨before, last, parts, parts'⟩ :=
    Text.split_extend (by decide : '/' ∉ ".tmp".toList) path
  refine ⟨before.filter fun name => name != "" && name != ".", last, ?_, ?_⟩
  · have leads : (last ++ ".tmp" != "" && last ++ ".tmp" != ".") = true := by
      rw [Bool.and_eq_true, bne_iff_ne, bne_iff_ne]
      exact ⟨ne_of_temporary (by decide), ne_of_temporary (by decide)⟩
    rw [Path.names, temporaryPath, parts', List.filter_append, List.filter_singleton, leads]
    rfl
  · rw [Path.names, parts, List.filter_append, List.filter_singleton]
    cases last != "" && last != "." with
    | true => exact .inr rfl
    | false => exact .inl (List.append_nil _)

/-- No path leads where its temporary path leads. -/
theorem goal?_temporary (leads : Path.goal? (temporaryPath path) = some place) :
    Path.goal? path ≠ some place := by
  obtain ⟨front, last, beside, here⟩ := names_temporary path
  rw [Path.goal?, beside, Place.lead?_append] at leads
  obtain ⟨inner, reached, leads⟩ := Option.bind_eq_some_iff.mp leads
  rw [Place.lead?, if_neg (ne_of_temporary (by decide)), Place.lead?, Option.some.injEq] at leads
  subst leads
  -- the last name of the path leads nowhere further, or up, or to a shorter name
  rcases here with here | here
  · rw [Path.goal?, here, reached]
    simp
  · rw [Path.goal?, here, Place.lead?_append, reached, Option.bind_some, Place.lead?]
    split
    next =>
      split
      next => simp
      next =>
        rw [Place.lead?]
        intro same
        have lengths := congrArg List.length (Option.some.inj same)
        simp at lengths
    next =>
      rw [Place.lead?, Ne, Option.some.injEq, List.append_cancel_left_eq, List.singleton_inj]
      intro same
      have lengths := congrArg String.length same
      simp at lengths

theorem Moved.texts (moved : Moved path content before after) : ∃ place beside,
    after.filePlace? path = some place ∧ Path.goal? (temporaryPath path) = some beside ∧
      ∀ other, after.text? other =
        if other = place then some content else if other = beside then none else before.text? other := by
  obtain ⟨-, place, beside, here, temporary, stands⟩ := moved
  refine ⟨place, beside, here, temporary, fun other => ?_⟩
  rw [FileTree.text?, stands]
  by_cases target : other = place
  · rw [if_pos target, if_pos target]
  · rw [if_neg target, if_neg target]
    by_cases source : other = beside
    · rw [if_pos source, if_pos source]
    · rw [if_neg source, if_neg source, FileTree.text?]

namespace Replaced

theorem holds (replaced : Replaced path content before after) :
    after.read? path = some content := by
  obtain ⟨opened, -, moved⟩ := replaced
  obtain ⟨place, beside, here, -, texts⟩ := moved.texts
  rw [FileTree.read?, here, Option.bind_some, texts, if_pos rfl]

theorem foldersKept (replaced : Replaced path content before after) : FoldersKept before after := by
  obtain ⟨opened, opens, kept, -⟩ := replaced
  exact opens.foldersKept.trans kept

theorem spared (replaced : Replaced path content before after)
    (elsewhere : Path.goal? path ≠ some place)
    (elsewhere' : Path.goal? (temporaryPath path) ≠ some place) :
    after.text? place = before.text? place := by
  obtain ⟨opened, opens, moved⟩ := replaced
  obtain ⟨goal, beside, here, temporary, texts⟩ := moved.texts
  rw [FileTree.filePlace?_goal here, Ne, Option.some.injEq] at elsewhere
  rw [temporary, Ne, Option.some.injEq] at elsewhere'
  rw [texts, if_neg (Ne.symm elsewhere), if_neg (Ne.symm elsewhere'), opens.text]

end Replaced

namespace Artifact

variable {artifact : Artifact} {all : List Artifact}

theorem Vacant.replace (vacant : Vacant folder all before place) (member : artifact ∈ all)
    (replaced : Replaced (Path.join folder artifact.name) content before after)
    (elsewhere : artifact.goal? folder ≠ some place) : Vacant folder all after place := by
  obtain ⟨opened, opens, -, goal, beside, found, -, stands⟩ := replaced
  have here : artifact.goal? folder = some goal := FileTree.filePlace?_goal found
  have apart : place ≠ goal := fun same => elsewhere (here.trans (congrArg some same.symm))
  rw [Vacant, stands, if_neg apart]
  split
  next => exact .inl rfl
  next =>
    -- what stands there now was there before the move: what it was before, or a folder just made
    rcases opens place with same | ⟨-, made, passes⟩
    · rw [same]
      exact vacant
    · exact .inr ⟨made, artifact, member, passes⟩

/-- The temporary file has been moved. -/
theorem vacant_replaced (replaced : Replaced (Path.join folder artifact.name) content before after)
    (temporary : artifact.beside? folder = some place) : Vacant folder all after place := by
  obtain ⟨opened, -, -, goal, beside, found, temporary', stands⟩ := replaced
  have here := FileTree.filePlace?_goal found
  cases Option.some.inj (temporary.symm.trans temporary')
  have apart : place ≠ goal := fun same =>
    goal?_temporary temporary (here.trans (congrArg some same.symm))
  exact .inl (by rw [stands, if_neg apart, if_pos rfl])

end Artifact

namespace Rewrites

variable {all : List Artifact}

theorem spared (rewritten : Rewrites folder written before after)
    (elsewhere : ∀ artifact ∈ written,
      artifact.goal? folder ≠ some place ∧ artifact.beside? folder ≠ some place) :
    after.text? place = before.text? place := by
  induction rewritten with
  | nil => rfl
  | cons replaced rewritten ih =>
      obtain ⟨here, later⟩ := List.forall_mem_cons.mp elsewhere
      rw [ih later, replaced.spared here.1 here.2]

theorem foldersKept (rewritten : Rewrites folder written before after) :
    FoldersKept before after := by
  induction rewritten with
  | nil => exact fun _ folder => folder
  | cons replaced _ ih => exact replaced.foldersKept.trans ih

/-- What is written stays, because nothing later leads there. -/
theorem holds (rewritten : Rewrites folder written before after)
    (apart : written.Pairwise (Artifact.Apart folder)) : ∀ artifact ∈ written,
      after.read? (Path.join folder artifact.name) = some artifact.text := by
  induction rewritten with
  | nil => exact List.forall_mem_nil _
  | cons replaced rewritten ih =>
      obtain ⟨others, apart'⟩ := List.pairwise_cons.mp apart
      refine List.forall_mem_cons.mpr ⟨?_, ih apart'⟩
      refine rewritten.foldersKept.read? replaced.holds fun place here => ?_
      exact rewritten.spared fun other member =>
        ⟨(others other member).files place here, (others other member).beside place here⟩

theorem vacant (rewritten : Rewrites folder written before after) (inside : written ⊆ all)
    (elsewhere : ∀ artifact ∈ written, artifact.goal? folder ≠ some place)
    (empty : Artifact.Vacant folder all before place) : Artifact.Vacant folder all after place := by
  induction rewritten with
  | nil => exact empty
  | cons replaced rewritten ih =>
      obtain ⟨member, inside'⟩ := List.cons_subset.mp inside
      obtain ⟨here, later⟩ := List.forall_mem_cons.mp elsewhere
      exact ih inside' later (empty.replace member replaced here)

theorem cleared (rewritten : Rewrites folder written before after) (inside : written ⊆ all)
    (elsewhere : ∀ artifact ∈ written, artifact.goal? folder ≠ some place)
    {artifact : Artifact} (member : artifact ∈ written)
    (temporary : artifact.beside? folder = some place) : Artifact.Vacant folder all after place := by
  induction rewritten with
  | nil => cases member
  | cons replaced rewritten ih =>
      obtain ⟨-, inside'⟩ := List.cons_subset.mp inside
      obtain ⟨-, elsewhere'⟩ := List.forall_mem_cons.mp elsewhere
      rcases List.mem_cons.mp member with rfl | later
      -- moved away here, and later artifacts leave the place free
      · exact rewritten.vacant inside' elsewhere' (Artifact.vacant_replaced replaced temporary)
      · exact ih inside' elsewhere' later

end Rewrites

namespace Artifact

/-- No temporary file stands where an artifact goes. -/
theorem goal?_ne_of_apart (apart : artifacts.Pairwise (Apart folder)) {artifact other : Artifact}
    (member : artifact ∈ artifacts) (member' : other ∈ artifacts)
    (temporary : artifact.beside? folder = some place) : other.goal? folder ≠ some place := by
  have clear : ∀ ⦃first⦄, first ∈ artifacts → ∀ ⦃second⦄, second ∈ artifacts →
      ∀ place, first.beside? folder = some place → second.goal? folder ≠ some place := by
    refine List.Pairwise.forall_of_forall_of_flip ?_ (apart.imp ?_) (apart.imp ?_)
    · exact fun artifact _ place => goal?_temporary
    · exact fun pair place temporary here => pair.beside' place here temporary
    · exact fun pair place temporary here => pair.beside place here temporary
  exact clear member member' place temporary

theorem writtenUpTo_all (apart : artifacts.Pairwise (Apart folder))
    (rewritten : Rewrites folder artifacts before after) :
    WrittenUpTo folder artifacts [] before after where
  renewed := rewritten.holds apart
  unchanged := List.forall_mem_nil _
  others place elsewhere := rewritten.spared (by rwa [List.append_nil] at elsewhere)
  cleared _ _ member _ temporary := rewritten.cleared (List.Subset.refl artifacts)
    (fun _ member' => goal?_ne_of_apart apart member member' temporary) member temporary

theorem writtenUpTo_failing {failing : Artifact} {rest : List Artifact}
    (apart : (written ++ failing :: rest).Pairwise (Apart folder))
    (rewritten : Rewrites folder written before middle)
    (spared : Untouched (Path.join folder failing.name) middle after) :
    WrittenUpTo folder written (failing :: rest) before after := by
  obtain ⟨apartWritten, apartKept, between⟩ := List.pairwise_append.mp apart
  obtain ⟨kept, spared⟩ := spared
  constructor
  case renewed =>
    intro artifact member
    refine kept.read? (rewritten.holds apartWritten artifact member) fun place here => ?_
    exact spared place ((between artifact member failing List.mem_cons_self).beside place here)
  case unchanged =>
    intro artifact member place here
    have temporary : failing.beside? folder ≠ some place := fun temporary =>
      goal?_ne_of_apart apartKept List.mem_cons_self member temporary here
    rw [spared place temporary, rewritten.spared fun other member' => ?_]
    have pair := between other member' artifact member
    exact ⟨fun there => pair.files place there here, pair.beside' place here⟩
  case others =>
    intro place elsewhere
    have temporary := (elsewhere failing (by simp)).2
    rw [spared place temporary]
    exact rewritten.spared fun artifact member => elsewhere artifact (List.mem_append_left _ member)
  case cleared => exact fun none => absurd none (List.cons_ne_nil _ _)

end Artifact

theorem writeArtifacts_dry (folder : String) (artifacts : List Artifact) (workspace : Workspace) :
    (writeArtifacts folder true artifacts : Writing).run.run workspace = (.ok (),
      { workspace with printed := workspace.printed ++ String.join (artifacts.map Artifact.shown) }) := by
  induction artifacts generalizing workspace with
  | nil =>
      rw [List.map_nil, String.join_nil, String.append_empty]
      rfl
  | cons artifact rest ih =>
      have step : (writeArtifacts folder true (artifact :: rest) : Writing).run.run workspace =
          (writeArtifacts folder true rest : Writing).run.run
            { workspace with printed := workspace.printed ++ artifact.shown } := rfl
      rw [step, ih, List.map_cons, String.join_cons, ← String.append_assoc]

theorem Path.Proper.temporary {name : String} (proper : Path.Proper name) :
    Path.Proper (temporaryPath name) := by
  intro part inside
  obtain ⟨before, last, parts, parts'⟩ :=
    Text.split_extend (by decide : '/' ∉ ".tmp".toList) name
  rw [temporaryPath, parts'] at inside
  rcases List.mem_append.mp inside with earlier | ending
  · exact proper part (by rw [parts]; exact List.mem_append_left _ earlier)
  · rw [List.mem_singleton.mp ending]
    exact ⟨ne_of_temporary (by decide), ne_of_temporary (by decide), ne_of_temporary (by decide)⟩

theorem Path.Proper.goal? {name : String} (proper : Path.Proper name) (folder : String) :
    Path.goal? (Path.join folder name) =
      (Path.goal? folder).map (· ++ Text.split '/' name) := by
  have leads : Path.names name = Text.split '/' name := by
    refine List.filter_eq_self.mpr fun part inside => ?_
    obtain ⟨nonempty, further, -⟩ := proper part inside
    simp [nonempty, further]
  have down : ".." ∉ Text.split '/' name := fun up => (proper ".." up).2.2 rfl
  rw [Path.goal?, Path.names_join proper.relative, leads, Place.lead?_append, Path.goal?]
  cases Place.lead? [] (Path.names folder) with
  | none => rfl
  | some place => exact Place.lead?_down down place

theorem Path.Proper.temporaryPath_join {name : String} (proper : Path.Proper name)
    (folder : String) : temporaryPath (Path.join folder name) =
      Path.join folder (temporaryPath name) := by
  rw [temporaryPath, Path.join, Path.join, proper.relative, proper.temporary.relative]
  split
  next => rfl
  next =>
    split
    all_goals exact String.append_assoc

/-- Proper names lead to different files as soon as they differ. -/
theorem Artifact.apart_of_proper {first second : Artifact} (proper : Path.Proper first.name)
    (proper' : Path.Proper second.name) (differ : first.name ≠ second.name)
    (free : first.name ≠ temporaryPath second.name) (free' : second.name ≠ temporaryPath first.name)
    (folder : String) : Artifact.Apart folder first second := by
  have apart {name other : String} (proper : Path.Proper name) (proper' : Path.Proper other)
      (differ : name ≠ other) (place : Place)
      (here : Path.goal? (Path.join folder name) = some place) :
      Path.goal? (Path.join folder other) ≠ some place := by
    intro there
    rw [proper.goal?, Option.map_eq_some_iff] at here
    rw [proper'.goal?, Option.map_eq_some_iff] at there
    obtain ⟨base, found, rfl⟩ := here
    obtain ⟨base', found', same⟩ := there
    cases found.symm.trans found'
    exact differ (Text.split_injective '/' (List.append_cancel_left same).symm)
  constructor
  case files => exact apart proper proper' differ
  case beside =>
    intro place here
    rw [Artifact.beside?, proper'.temporaryPath_join]
    exact apart proper proper'.temporary free place here
  case beside' =>
    intro place here
    rw [Artifact.beside?, proper.temporaryPath_join]
    exact apart proper' proper.temporary free' place here

/-- Writing stops at an artifact or goes to the end: those before it have their new text and the
others what they had. Printing changes no file. -/
theorem writeArtifacts_atomic (folder : String) (artifacts : List Artifact) (workspace : Workspace) :
    (artifacts.Pairwise (Artifact.Apart folder) → ∃ result after written kept,
      (writeArtifacts folder false artifacts : Writing).run.run workspace = (result, after) ∧
        artifacts = written ++ kept ∧ (result = .ok () ↔ kept = []) ∧
        Artifact.WrittenUpTo folder written kept workspace.tree after.tree) ∧
    (writeArtifacts folder true artifacts : Writing).run.run workspace = (.ok (),
      { workspace with
        printed := workspace.printed ++ String.join (artifacts.map Artifact.shown) }) := by
  refine ⟨fun apart => ?_, writeArtifacts_dry folder artifacts workspace⟩
  rcases writeArtifacts_does folder artifacts workspace with ⟨after, ran, rewritten⟩ |
    ⟨failure, after, ran, written, failing, rest, middle, rfl, rewritten, spared⟩
  · exact ⟨_, after, artifacts, [], ran, (List.append_nil _).symm, by simp,
      Artifact.writtenUpTo_all apart rewritten⟩
  · exact ⟨_, after, written, failing :: rest, ran, rfl, by simp,
      Artifact.writtenUpTo_failing apart rewritten spared⟩

/-- Two files, one of them in a folder of its own. -/
def petShop : List Artifact := [⟨"lib.rs", "mod pets;"⟩, ⟨"pets/dog.rs", "struct Dog;"⟩]

/-- A workspace with other files, where the fifth change of the tree fails. -/
def oldShop : Workspace :=
  { tree := .ofFiles [("out/lib.rs", ""), ("out/notes", "keep")]
    disturbed := [false, false, false, false, true] }

/-- Where the second file of two cannot be written, the first is whole. -/
theorem petShop_stopped :
    petShop.Pairwise (Artifact.Apart "out") ∧ ∃ after written kept,
      (writeArtifacts "out" false petShop : Writing).run.run oldShop =
          (.error (.write "out/pets/dog.rs.tmp" "failed"), after) ∧
        petShop = written ++ kept ∧ kept ≠ [] ∧
        Artifact.WrittenUpTo "out" written kept oldShop.tree after.tree := by
  have apart : petShop.Pairwise (Artifact.Apart "out") := by
    refine List.pairwise_pair.mpr (Artifact.apart_of_proper ?_ ?_ ?_ ?_ ?_ "out")
    all_goals decide +kernel
  have stopped : ((writeArtifacts "out" false petShop : Writing).run.run oldShop).1 =
      .error (.write "out/pets/dog.rs.tmp" "failed") := by decide +kernel
  obtain ⟨result, after, written, kept, ran, split, whole, upTo⟩ :=
    (writeArtifacts_atomic "out" petShop oldShop).1 apart
  rw [ran] at stopped
  subst stopped
  refine ⟨apart, after, written, kept, ran, split, fun none => ?_, upTo⟩
  cases whole.mpr none

/-- Two names of one file. -/
def twoSpellings : List Artifact := [⟨"notes.rs", "old"⟩, ⟨"./notes.rs", "new"⟩]

/-- A file, and another in a folder with the name of its temporary file. -/
def temporaryFolder : List Artifact := [⟨"a", "1"⟩, ⟨"a.tmp/b", "2"⟩]

/-- Different relative names, none of them the temporary path of another, may still be names of one
file, or need a folder where a temporary file stood. -/
theorem different_names_collide :
    (∀ artifacts ∈ [twoSpellings, temporaryFolder],
      (artifacts.map Artifact.name).Nodup ∧
        (∀ artifact ∈ artifacts, Text.startsWith '/' artifact.name = false) ∧
        (∀ first ∈ artifacts, ∀ second ∈ artifacts, first.name ≠ temporaryPath second.name) ∧
        ((writeArtifacts "out" false artifacts : Writing).run.run {}).1 = .ok ()) ∧
      ((writeArtifacts "out" false twoSpellings : Writing).run.run {}).2.tree.read?
        (Path.join "out" "notes.rs") = some "new" ∧
      ((writeArtifacts "out" false temporaryFolder : Writing).run.run {}).2.tree.place?
        (temporaryPath (Path.join "out" "a")) = some ["out", "a.tmp"] ∧
      ((writeArtifacts "out" false temporaryFolder : Writing).run.run {}).2.tree.isFolder
        ["out", "a.tmp"] = true := by
  decide +kernel

end ApiContract
