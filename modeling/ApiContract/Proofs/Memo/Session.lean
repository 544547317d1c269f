import ApiContract.Proofs.Memo.Plans

/-!
Calls that share the tables of one run. A session starts calls and lets them ask their questions in
any order, each question being one step; running one call to its end is the case where its steps
follow one another. Main statement: whatever the order, a call gives what it gives on empty tables,
it does so after a bounded number of its own steps, and the tables only grow and stay closed. No
condition on the model is needed: a schema in a circle of element links never gets an entry.
-/

namespace ApiContract

open Planning

/-- A question to the resolver or to the planner. -/
inductive Query where
  | resolve (id : SchemaId)
  | resolveNullable (id : SchemaId) (nullable : Bool)
  | resolveProperty (owner : String) (property : Property)
  | resolveParameter (operation : String) (parameter : Parameter)
  | plan (id : SchemaId) (format : WireFormat)
  deriving DecidableEq

inductive Answer where
  | type (used : TypeUse)
  | plan (plan : WirePlan)
  deriving DecidableEq

namespace Query

def ask (model : Model) : Query → Planning ModelError Answer
  | resolve id => Answer.type <$> model.resolve id
  | resolveNullable id nullable => Answer.type <$> model.resolveUse id nullable id
  | resolveProperty owner property => Answer.type <$> model.resolveProperty owner property
  | resolveParameter operation parameter =>
      Answer.type <$> model.resolveParameter operation parameter
  | plan id format => Answer.plan <$> model.plan id format

/-- The answer on empty tables. -/
def alone (model : Model) (query : Query) : Except ModelError Answer := ((query.ask model).run {}).1

theorem ask_steady (model : Model) (query : Query) : (query.ask model).Steady model.tableLaw := by
  have mapped : ∀ {α : Type} {p : Planning ModelError α} {wrap : α → Answer},
      p.Steady model.tableLaw → (wrap <$> p).Steady model.tableLaw := by
    intro α p wrap steady
    rw [map_eq_pure_bind]
    exact steady.bind fun a _ => steady_pure (wrap a)
  cases query with
  | resolve id => exact mapped (Model.resolveUse_steady id false id)
  | resolveNullable id nullable => exact mapped (Model.resolveUse_steady id nullable id)
  | resolveProperty owner property => exact mapped (Model.resolveUse_steady _ _ _)
  | resolveParameter operation parameter => exact mapped (Model.resolveUse_steady _ _ _)
  | plan id format => exact mapped (Model.plan_steady id format)

theorem alone_eq_fresh (model : Model) (query : Query) :
    query.alone model = (query.ask model).fresh :=
  ((ask_steady model query).run (Memo.empty_obeys model.tableLaw)).1

end Query

namespace Planning

variable {ε α : Type} {law : TableLaw}

/-- A computation that asks at most so many questions, whatever lawful tables answer. -/
def EndsWithin (law : TableLaw) : Nat → Planning ε α → Prop
  | _, done _ => True
  | 0, _ => False
  | bound + 1, findType key next =>
      (∀ value, law.type key = some value → EndsWithin law bound (next (some value))) ∧
        EndsWithin law bound (next none)
  | bound + 1, keepType _ value next => EndsWithin law bound (next value)
  | bound + 1, findPlan key next =>
      (∀ value, law.plan key = some value → EndsWithin law bound (next (some value))) ∧
        EndsWithin law bound (next none)
  | bound + 1, keepPlan _ value next => EndsWithin law bound (next value)

theorem EndsWithin.positive {p : Planning ε α} {bound : Nat} (ends : p.EndsWithin law bound)
    (asking : ∀ result, p ≠ done result) : ∃ below, bound = below + 1 := by
  cases bound with
  | succ below => exact ⟨below, rfl⟩
  | zero =>
      cases p with
      | done result => exact absurd rfl (asking result)
      | _ => exact ends.elim

theorem EndsWithin.below {p : Planning ε α} {bound bound' : Nat} (ends : p.EndsWithin law bound)
    (asking : ∀ result, p ≠ done result) (more : bound ≤ bound') :
    ∃ below below', bound = below + 1 ∧ bound' = below' + 1 ∧ below ≤ below' := by
  obtain ⟨below, rfl⟩ := ends.positive asking
  obtain ⟨below', rfl⟩ := Nat.exists_eq_add_of_le' (Nat.le_trans (Nat.le_add_left 1 below) more)
  exact ⟨below, below', rfl, rfl, Nat.le_of_succ_le_succ more⟩

theorem EndsWithin.mono {p : Planning ε α} {bound bound' : Nat} (ends : p.EndsWithin law bound)
    (more : bound ≤ bound') : p.EndsWithin law bound' := by
  induction p generalizing bound bound' with
  | done result => cases bound' <;> exact trivial
  | findType key next ih =>
      obtain ⟨below, below', rfl, rfl, less⟩ := ends.below (fun _ same => by cases same) more
      exact ⟨fun value allowed => ih _ (ends.1 value allowed) less, ih _ ends.2 less⟩
  | keepType key value next ih =>
      obtain ⟨below, below', rfl, rfl, less⟩ := ends.below (fun _ same => by cases same) more
      exact ih _ ends less
  | findPlan key next ih =>
      obtain ⟨below, below', rfl, rfl, less⟩ := ends.below (fun _ same => by cases same) more
      exact ⟨fun value allowed => ih _ (ends.1 value allowed) less, ih _ ends.2 less⟩
  | keepPlan key value next ih =>
      obtain ⟨below, below', rfl, rfl, less⟩ := ends.below (fun _ same => by cases same) more
      exact ih _ ends less

/-- Two answers are possible to a look-up, as the law allows one value: a bound for both is one for
the look-up. -/
theorem exists_answersWithin {law : TableLaw} {β : Type} (allowed : Option β)
    {next : Option β → Planning ε α}
    (each : ∀ answer, ∃ bound, (next answer).EndsWithin law bound) :
    ∃ bound, (∀ value, allowed = some value → (next (some value)).EndsWithin law bound) ∧
      (next none).EndsWithin law bound := by
  obtain ⟨missed, ends⟩ := each none
  cases allowed with
  | none => exact ⟨missed, (fun _ same => by cases same), ends⟩
  | some value =>
      obtain ⟨found, ends'⟩ := each (some value)
      refine ⟨max missed found, fun other same => ?_, ends.mono (Nat.le_max_left _ _)⟩
      cases same
      exact ends'.mono (Nat.le_max_right _ _)

theorem exists_endsWithin (law : TableLaw) (p : Planning ε α) : ∃ bound, p.EndsWithin law bound := by
  induction p with
  | done result => exact ⟨0, trivial⟩
  | findType key next ih =>
      obtain ⟨bound, ends⟩ := exists_answersWithin (law.type key) ih
      exact ⟨bound + 1, ends⟩
  | keepType key value next ih =>
      obtain ⟨bound, ends⟩ := ih value
      exact ⟨bound + 1, ends⟩
  | findPlan key next ih =>
      obtain ⟨bound, ends⟩ := exists_answersWithin (law.plan key) ih
      exact ⟨bound + 1, ends⟩
  | keepPlan key value next ih =>
      obtain ⟨bound, ends⟩ := ih value
      exact ⟨bound + 1, ends⟩

/-- One question fewer after each step. -/
theorem EndsWithin.step {post : Except ε α → List TypeKey → Prop} {known : List TypeKey}
    {p : Planning ε α} {bound : Nat} {memo : Memo} (ends : p.EndsWithin law (bound + 1))
    (held : Holds law post known p) (lawful : memo.Obeys law)
    (cached : ∀ key ∈ known, (memo.type? key).isSome) :
    (p.step memo).1.EndsWithin law bound := by
  cases p with
  | done result => cases bound <;> exact trivial
  | findType key next =>
      cases found : memo.type? key with
      | none => simpa [Planning.step, found] using ends.2
      | some value => simpa [Planning.step, found] using ends.1 value (lawful.type key value found)
  | keepType key value next =>
      have same := (Memo.keepType_obeys lawful held.1
        fun need member => cached need (held.2.1 need member)).1
      simpa only [Planning.step, same] using (show EndsWithin law bound (next value) from ends)
  | findPlan key next =>
      cases found : memo.plan? key with
      | none => simpa [Planning.step, found] using ends.2
      | some value => simpa [Planning.step, found] using ends.1 value (lawful.plan key value found)
  | keepPlan key value next =>
      have same := (Memo.keepPlan_obeys lawful held.1
        fun need member => cached need (held.2.1 need member)).1
      simpa only [Planning.step, same] using (show EndsWithin law bound (next value) from ends)

end Planning

/-- The tables of a run and the calls that were started on them, finished ones included. -/
structure Session where
  memo : Memo := {}
  calls : List (Query × Planning ModelError Answer) := []

/-- Starts a call, or lets one that was started ask its next question. -/
inductive Move where
  | start (query : Query)
  | advance (index : Nat)
  deriving DecidableEq

namespace Session

def move (model : Model) (session : Session) : Move → Session
  | .start query => { session with calls := session.calls ++ [(query, query.ask model)] }
  | .advance index =>
      match session.calls[index]? with
      | none => session
      | some (query, call) =>
          { memo := (call.step session.memo).2
            calls := session.calls.set index (query, (call.step session.memo).1) }

def play (model : Model) (session : Session) (moves : List Move) : Session :=
  moves.foldl (fun session next => session.move model next) session

/-- A call under way: what it still asks leads to the answer it has alone. -/
def OnCourse (model : Model) (memo : Memo) (query : Query) (call : Planning ModelError Answer) :
    Prop :=
  ∃ known, (∀ key ∈ known, (memo.type? key).isSome) ∧
    Holds model.tableLaw (fun result _ => result = query.alone model) known call

/-- Lawful tables and calls that are all on course. -/
structure Sound (model : Model) (session : Session) : Prop where
  memo : session.memo.Obeys model.tableLaw
  calls : ∀ call ∈ session.calls, OnCourse model session.memo call.1 call.2

variable {model : Model}

theorem OnCourse.grow {before after : Memo} {query : Query} {call : Planning ModelError Answer}
    (course : OnCourse model before query call) (grown : before.Extends after) :
    OnCourse model after query call := by
  obtain ⟨known, cached, held⟩ := course
  exact ⟨known, fun key member => grown.isSome (cached key member), held⟩

theorem move_sound {session : Session} (sound : session.Sound model) (next : Move) :
    (session.move model next).Sound model ∧
      session.memo.Extends (session.move model next).memo := by
  cases next with
  | start query =>
      refine ⟨⟨sound.memo, fun call member => ?_⟩, Memo.Extends.refl _⟩
      rcases List.mem_append.mp member with old | started
      · exact sound.calls call old
      · have same : call = (query, query.ask model) := by simpa using started
        subst same
        refine ⟨[], by simp, ?_⟩
        simpa only [Query.alone_eq_fresh] using query.ask_steady model []
  | advance index =>
      cases found : session.calls[index]? with
      | none => simpa only [move, found] using ⟨sound, Memo.Extends.refl _⟩
      | some pair =>
          obtain ⟨query, call⟩ := pair
          obtain ⟨known, cached, held⟩ := sound.calls _ (List.mem_of_getElem? found)
          obtain ⟨lawful, grown, known', cached', held'⟩ := held.step sound.memo cached
          simp only [move, found]
          refine ⟨⟨lawful, fun other member => ?_⟩, grown⟩
          -- The other calls stay on course because the tables only grew.
          rcases List.mem_or_eq_of_mem_set member with old | same
          · exact (sound.calls other old).grow grown
          · subst same
            exact ⟨known', cached', held'⟩

theorem play_sound {session : Session} (sound : session.Sound model) (moves : List Move) :
    (session.play model moves).Sound model ∧
      session.memo.Extends (session.play model moves).memo := by
  induction moves generalizing session with
  | nil => exact ⟨sound, Memo.Extends.refl _⟩
  | cons next rest ih =>
      obtain ⟨sound', grown⟩ := move_sound sound next
      obtain ⟨sound'', grown'⟩ := ih sound'
      exact ⟨sound'', grown.trans grown'⟩

theorem empty_sound (model : Model) : Sound model {} :=
  ⟨Memo.empty_obeys model.tableLaw, fun _ member => by cases member⟩

/-- A call that is still to ask at most `bound` questions. -/
def Pending (model : Model) (session : Session) (index : Nat) (query : Query) (bound : Nat) : Prop :=
  ∃ call, session.calls[index]? = some (query, call) ∧ call.EndsWithin model.tableLaw bound

theorem move_pending {session : Session} (sound : session.Sound model) {index : Nat}
    {query : Query} {bound : Nat} (pending : session.Pending model index query bound)
    (next : Move) :
    (session.move model next).Pending model index query
      (if next = .advance index then bound - 1 else bound) := by
  obtain ⟨call, found, ends⟩ := pending
  have inside : index < session.calls.length := (List.getElem?_eq_some_iff.mp found).1
  cases next with
  | start other =>
      refine ⟨call, ?_, by simpa using ends⟩
      rw [← found]
      exact List.getElem?_append_left inside
  | advance other =>
      -- Only a step of the call itself uses up its bound.
      by_cases same : other = index
      · subst same
        obtain ⟨known, cached, held⟩ := sound.calls _ (List.mem_of_getElem? found)
        refine ⟨(call.step session.memo).1, ?_, ?_⟩
        · simp only [move, found, List.getElem?_set_self inside]
        simp only [if_true]
        cases bound with
        | zero =>
            cases call with
            | done result => exact trivial
            | _ => exact ends.elim
        | succ bound => exact ends.step held sound.memo cached
      · refine ⟨call, ?_, by simpa [same] using ends⟩
        cases other' : session.calls[other]? with
        | none => simpa [move, other'] using found
        | some pair => simpa [move, other', List.getElem?_set_ne same] using found

theorem play_pending {session : Session} (sound : session.Sound model) {index : Nat}
    {query : Query} {bound : Nat} (pending : session.Pending model index query bound)
    (moves : List Move) :
    (session.play model moves).Pending model index query
      (bound - moves.count (.advance index)) := by
  induction moves generalizing session bound with
  | nil => exact pending
  | cons next rest ih =>
      have rest' := ih (move_sound sound next).1 (move_pending sound pending next)
      by_cases same : next = .advance index
      · rw [if_pos same, Nat.sub_sub, Nat.add_comm] at rest'
        rwa [List.count_cons, beq_iff_eq.mpr same, if_pos rfl]
      · rw [if_neg same] at rest'
        rwa [List.count_cons_of_ne (Ne.symm (Ne.symm same))]

end Session

/-- Under every entry of the tables lie the entries it is made from. -/
structure Memo.Closed (model : Model) (memo : Memo) : Prop where
  plain : ∀ id used, memo.type? ⟨id, true⟩ = some used →
    used.nullable = true ∧ memo.type? ⟨id, false⟩ = some ⟨used.type, false⟩
  element : ∀ id item nullable, memo.type? ⟨id, false⟩ = some ⟨.collection item, nullable⟩ →
    ∃ element, model.schema? id = some (.array element) ∧
      memo.type? ⟨element, false⟩ = some ⟨item, false⟩
  value : ∀ id item nullable, memo.type? ⟨id, false⟩ = some ⟨.dictionary item, nullable⟩ →
    ∃ value, model.schema? id = some (.dictionary value) ∧
      memo.type? ⟨value, false⟩ = some ⟨item, false⟩
  root : ∀ id name schema base selector nullable,
    memo.type? ⟨id, false⟩ = some ⟨.model name schema (.derived base selector), nullable⟩ →
    (memo.type? ⟨base, false⟩).isSome
  planned : ∀ id object plan, model.schema? id = some (.object object) →
    memo.plan? ⟨id, .json⟩ = some plan → (memo.type? ⟨id, false⟩).isSome

namespace Memo.Obeys

variable {model : Model} {memo : Memo}

theorem cached_type (lawful : memo.Obeys model.tableLaw) {id : SchemaId} {nullable : Bool}
    (cached : (memo.type? ⟨id, nullable⟩).isSome) {type : RustType}
    (computed : model.typeOf id = .ok type) :
    memo.type? ⟨id, nullable⟩ = some ⟨type, nullable⟩ := by
  obtain ⟨value, found⟩ := Option.isSome_iff_exists.mp cached
  have allowed := lawful.type _ _ found
  rw [Model.tableLaw_type_of_ok computed] at allowed
  rw [found, ← allowed]

theorem cached_link (lawful : memo.Obeys model.tableLaw) {id linked : SchemaId} {used : TypeUse}
    (found : memo.type? ⟨id, false⟩ = some used) (link : model.typeLink? id = some linked) :
    (memo.type? ⟨linked, false⟩).isSome :=
  lawful.underType _ _ found _ (by simp [Model.tableLaw, link])

theorem closed (lawful : memo.Obeys model.tableLaw) : memo.Closed model where
  plain id used found := by
    obtain ⟨type, computed, same⟩ := Model.tableLaw_type (lawful.type _ _ found)
    subst same
    have below := lawful.underType _ _ found ⟨id, false⟩ (by simp [Model.tableLaw])
    exact ⟨rfl, lawful.cached_type below computed⟩
  element id item nullable found := by
    obtain ⟨type, computed, same⟩ := Model.tableLaw_type (lawful.type _ _ found)
    cases same
    obtain ⟨element, schema, link, resolved⟩ := Model.typeOf_shape computed
    exact ⟨element, schema, lawful.cached_type (lawful.cached_link found link) resolved⟩
  value id item nullable found := by
    obtain ⟨type, computed, same⟩ := Model.tableLaw_type (lawful.type _ _ found)
    cases same
    obtain ⟨value, schema, link, resolved⟩ := Model.typeOf_shape computed
    exact ⟨value, schema, lawful.cached_type (lawful.cached_link found link) resolved⟩
  root id name schema base selector nullable found := by
    obtain ⟨type, computed, same⟩ := Model.tableLaw_type (lawful.type _ _ found)
    cases same
    obtain ⟨object, schema, role⟩ := Model.typeOf_shape computed
    cases role with
    | derived declared walked resolved =>
        have link : model.typeLink? id = some base := by
          simp [Model.typeLink?, schema, declared, walked]
        exact lawful.cached_link found link
  planned id object plan schema found :=
    lawful.underPlan _ _ found ⟨id, false⟩ (by simp [Model.tableLaw, schema, Schema.object?])

end Memo.Obeys

/-- The tables are invisible. After any moves, every call that is done gave the answer it has on
empty tables; every call under way is done, with that answer, once it has taken a bounded number
of further steps, whatever the others do in between; no entry ever changes; and the tables are
closed. -/
theorem tables_invisible (model : Model) (moves : List Move) :
    let session := Session.play model {} moves
    (∀ call ∈ session.calls, ∀ result, call.2 = .done result → result = call.1.alone model) ∧
    (∀ index query call, session.calls[index]? = some (query, call) →
      ∃ bound, ∀ later, bound ≤ later.count (Move.advance index) →
        (session.play model later).calls[index]? = some (query, .done (query.alone model))) ∧
    (∀ later, session.memo.Extends (session.play model later).memo) ∧
    session.memo.Closed model := by
  intro session
  have sound : session.Sound model := (Session.play_sound (Session.empty_sound model) moves).1
  have answered : ∀ {other : Session}, other.Sound model → ∀ call ∈ other.calls, ∀ result,
      call.2 = .done result → result = call.1.alone model := by
    intro other sound' call member result finished
    obtain ⟨known, -, held⟩ := sound'.calls call member
    rw [finished] at held
    exact held
  refine ⟨answered sound, ?_, fun later => (Session.play_sound sound later).2, sound.memo.closed⟩
  intro index query call found
  obtain ⟨bound, ends⟩ := exists_endsWithin model.tableLaw call
  refine ⟨bound, fun later enough => ?_⟩
  obtain ⟨rest, found', ends'⟩ := Session.play_pending sound ⟨call, found, ends⟩ later
  rw [Nat.sub_eq_zero_of_le enough] at ends'
  cases rest with
  | done result =>
      have same := answered (Session.play_sound sound later).1 _ (List.mem_of_getElem? found')
        result rfl
      rw [found', same]
  | _ => exact ends'.elim

end ApiContract
