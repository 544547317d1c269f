import ApiContract.Plan.Memo
import ApiContract.Proofs.Results

/-!
Laws of computations over the two tables. `fresh` is the result of a computation whose look-ups
all miss; it is a function of results alone, so it can be computed step by step. `Holds` says
what a computation does on every table that obeys a law, whatever is put into the tables between
two of its questions.
-/

namespace ApiContract

namespace Planning

variable {ε ε' α β : Type}

/-- The result where no look-up finds anything and every entry offered is kept. -/
def fresh : Planning ε α → Except ε α
  | done result => result
  | findType _ next => (next none).fresh
  | keepType _ value next => (next value).fresh
  | findPlan _ next => (next none).fresh
  | keepPlan _ value next => (next value).fresh

@[simp] theorem fresh_done (result : Except ε α) : (done result).fresh = result := rfl

@[simp] theorem fresh_pure (a : α) : (pure a : Planning ε α).fresh = .ok a := rfl

@[simp] theorem fresh_lift (result : Except ε α) : (lift result).fresh = result := rfl

@[simp] theorem fresh_liftM (result : Except ε α) :
    (liftM result : Planning ε α).fresh = result := rfl

@[simp] theorem fresh_fail (e : ε) : (fail e : Planning ε α).fresh = .error e := rfl

@[simp] theorem liftM_ok_bind (a : α) (f : α → Planning ε β) :
    (liftM (Except.ok a : Except ε α) : Planning ε α) >>= f = f a := rfl

@[simp] theorem liftM_error_bind (e : ε) (f : α → Planning ε β) :
    (liftM (Except.error e : Except ε α) : Planning ε α) >>= f = fail e := rfl

protected theorem bind_pure (p : Planning ε α) : p.bind (fun a => done (.ok a)) = p := by
  induction p with
  | done result => cases result <;> rfl
  | findType key next ih => exact congrArg (findType key) (funext ih)
  | keepType key value next ih => exact congrArg (keepType key value) (funext ih)
  | findPlan key next ih => exact congrArg (findPlan key) (funext ih)
  | keepPlan key value next ih => exact congrArg (keepPlan key value) (funext ih)

protected theorem bind_assoc {γ : Type} (p : Planning ε α) (f : α → Planning ε β)
    (g : β → Planning ε γ) : (p.bind f).bind g = p.bind fun a => (f a).bind g := by
  induction p with
  | done result => cases result <;> rfl
  | findType key next ih => exact congrArg (findType key) (funext ih)
  | keepType key value next ih => exact congrArg (keepType key value) (funext ih)
  | findPlan key next ih => exact congrArg (findPlan key) (funext ih)
  | keepPlan key value next ih => exact congrArg (keepPlan key value) (funext ih)

instance : LawfulMonad (Planning ε) :=
  LawfulMonad.mk' (Planning ε) (fun p => Planning.bind_pure p) (fun _ _ => rfl)
    fun p f g => Planning.bind_assoc p f g

@[simp] theorem fresh_bind (p : Planning ε α) (f : α → Planning ε β) :
    (p >>= f).fresh = p.fresh >>= fun a => (f a).fresh := by
  change (p.bind f).fresh = _
  induction p with
  | done result => cases result <;> rfl
  | findType key next ih => exact ih none
  | keepType key value next ih => exact ih value
  | findPlan key next ih => exact ih none
  | keepPlan key value next ih => exact ih value

@[simp] theorem fresh_map (f : α → β) (p : Planning ε α) : (f <$> p).fresh = f <$> p.fresh := by
  rw [map_eq_pure_bind, fresh_bind, map_eq_pure_bind]
  rfl

@[simp] theorem fresh_mapError (f : ε → ε') (p : Planning ε α) :
    (p.mapError f).fresh = p.fresh.mapError f := by
  induction p with
  | done result => cases result <;> rfl
  | findType key next ih => exact ih none
  | keepType key value next ih => exact ih value
  | findPlan key next ih => exact ih none
  | keepPlan key value next ih => exact ih value

@[simp] theorem fresh_attempt (p : Planning ε α) :
    (p.attempt : Planning ε' (Except ε α)).fresh = .ok p.fresh := by
  induction p with
  | done result => rfl
  | findType key next ih => exact ih none
  | keepType key value next ih => exact ih value
  | findPlan key next ih => exact ih none
  | keepPlan key value next ih => exact ih value

end Planning

@[simp] theorem Planning.fresh_mapM {ε α β : Type} (f : α → Planning ε β) (items : List α) :
    (items.mapM f).fresh = items.mapM fun item => (f item).fresh := by
  induction items with
  | nil => rfl
  | cons item rest ih => simp [List.mapM_cons, ih]

/-- What the tables may hold: at most one entry for each key, and under each entry the types that
have to be there with it. -/
structure TableLaw where
  type : TypeKey → Option TypeUse
  plan : PlanKey → Option WirePlan
  underType : TypeKey → List TypeKey
  underPlan : PlanKey → List TypeKey

namespace Memo

/-- Every entry is the one the law allows, and what it rests on is in the tables. -/
structure Obeys (law : TableLaw) (memo : Memo) : Prop where
  type : ∀ key value, memo.type? key = some value → law.type key = some value
  plan : ∀ key value, memo.plan? key = some value → law.plan key = some value
  underType : ∀ key value, memo.type? key = some value →
    ∀ need ∈ law.underType key, (memo.type? need).isSome
  underPlan : ∀ key value, memo.plan? key = some value →
    ∀ need ∈ law.underPlan key, (memo.type? need).isSome

/-- Every entry of the first memo is in the second. -/
def Extends (before after : Memo) : Prop :=
  (∀ key value, before.type? key = some value → after.type? key = some value) ∧
    ∀ key value, before.plan? key = some value → after.plan? key = some value

theorem Extends.refl (memo : Memo) : memo.Extends memo :=
  ⟨fun _ _ found => found, fun _ _ found => found⟩

theorem Extends.trans {first second third : Memo} (left : first.Extends second)
    (right : second.Extends third) : first.Extends third :=
  ⟨fun key value found => right.1 key value (left.1 key value found),
    fun key value found => right.2 key value (left.2 key value found)⟩

theorem Extends.isSome {before after : Memo} (grown : before.Extends after) {key : TypeKey}
    (cached : (before.type? key).isSome) : (after.type? key).isSome := by
  obtain ⟨value, found⟩ := Option.isSome_iff_exists.mp cached
  rw [grown.1 key value found]
  rfl

theorem empty_obeys (law : TableLaw) : Obeys law {} := by
  constructor <;> intro key value found <;> cases found

section Entries
variable {κ ν : Type} [BEq κ] [LawfulBEq κ] {key other : κ} {value held : ν}
  {entries : List (κ × ν)}

theorem lookup_cons_cases (found : ((key, value) :: entries).lookup other = some held) :
    (other = key ∧ held = value) ∨ entries.lookup other = some held := by
  by_cases same : other = key
  · subst same
    rw [List.lookup_cons_self] at found
    exact .inl ⟨rfl, (Option.some.inj found).symm⟩
  · simp only [List.lookup_cons, beq_false_of_ne same] at found
    exact .inr found

theorem lookup_cons_of_missing (missing : entries.lookup key = none)
    (found : entries.lookup other = some held) :
    ((key, value) :: entries).lookup other = some held := by
  have different : other ≠ key := by
    intro same
    rw [same, missing] at found
    cases found
  simp only [List.lookup_cons, beq_false_of_ne different]
  exact found

end Entries

/-- Keeping an allowed entry: the tables hold it afterwards, whoever put it there. -/
theorem keepType_obeys {law : TableLaw} {memo : Memo} (lawful : memo.Obeys law) {key : TypeKey}
    {value : TypeUse} (allowed : law.type key = some value)
    (grounded : ∀ need ∈ law.underType key, (memo.type? need).isSome) :
    (memo.keepType key value).1 = value ∧ (memo.keepType key value).2.Obeys law ∧
      memo.Extends (memo.keepType key value).2 ∧
      (memo.keepType key value).2.type? key = some value := by
  cases cached : memo.type? key with
  | some kept =>
      -- Whoever was first kept the same value: the law allows only one.
      have same : kept = value :=
        Option.some.inj ((lawful.type key kept cached).symm.trans allowed)
      subst same
      simp only [keepType, cached]
      exact ⟨trivial, lawful, Extends.refl memo, trivial⟩
  | none =>
      have grown : memo.Extends { memo with types := (key, value) :: memo.types } :=
        ⟨fun _ _ found => lookup_cons_of_missing cached found, fun _ _ found => found⟩
      simp only [keepType, cached]
      refine ⟨trivial, ?_, grown, List.lookup_cons_self⟩
      constructor
      · intro other held found
        rcases lookup_cons_cases found with ⟨same, now⟩ | before
        · rw [same, now]
          exact allowed
        · exact lawful.type other held before
      · exact lawful.plan
      · intro other held found need needed
        apply grown.isSome
        rcases lookup_cons_cases found with ⟨same, -⟩ | before
        · exact grounded need (same ▸ needed)
        · exact lawful.underType other held before need needed
      · intro other held found need needed
        exact grown.isSome (lawful.underPlan other held found need needed)

theorem keepPlan_obeys {law : TableLaw} {memo : Memo} (lawful : memo.Obeys law) {key : PlanKey}
    {value : WirePlan} (allowed : law.plan key = some value)
    (grounded : ∀ need ∈ law.underPlan key, (memo.type? need).isSome) :
    (memo.keepPlan key value).1 = value ∧ (memo.keepPlan key value).2.Obeys law ∧
      memo.Extends (memo.keepPlan key value).2 := by
  cases cached : memo.plan? key with
  | some kept =>
      have same : kept = value :=
        Option.some.inj ((lawful.plan key kept cached).symm.trans allowed)
      subst same
      simp only [keepPlan, cached]
      exact ⟨trivial, lawful, Extends.refl memo⟩
  | none =>
      have grown : memo.Extends { memo with plans := (key, value) :: memo.plans } :=
        ⟨fun _ _ found => found, fun _ _ found => lookup_cons_of_missing cached found⟩
      simp only [keepPlan, cached]
      refine ⟨trivial, ?_, grown⟩
      constructor
      · exact lawful.type
      · intro other held found
        rcases lookup_cons_cases found with ⟨same, now⟩ | before
        · rw [same, now]
          exact allowed
        · exact lawful.plan other held before
      · exact lawful.underType
      · intro other held found need needed
        rcases lookup_cons_cases found with ⟨same, -⟩ | before
        · exact grounded need (same ▸ needed)
        · exact lawful.underPlan other held before need needed

end Memo

namespace Planning

variable {ε ε' α β : Type} {law : TableLaw}

/-- What holds of the result on all tables under a law. `known` are types known to be in the table;
an entry that is found comes with all it rests on, and one that is kept has to be the allowed one
and to rest on known types. A look-up may miss whatever is known, which costs nothing. -/
def Holds (law : TableLaw) (post : Except ε α → List TypeKey → Prop) :
    List TypeKey → Planning ε α → Prop
  | known, done result => post result known
  | known, findType key next =>
      (∀ value, law.type key = some value →
        Holds law post (key :: (law.underType key ++ known)) (next (some value))) ∧
        Holds law post known (next none)
  | known, keepType key value next =>
      law.type key = some value ∧ (∀ need ∈ law.underType key, need ∈ known) ∧
        Holds law post (key :: known) (next value)
  | known, findPlan key next =>
      (∀ value, law.plan key = some value → Holds law post known (next (some value))) ∧
        Holds law post known (next none)
  | known, keepPlan key value next =>
      law.plan key = some value ∧ (∀ need ∈ law.underPlan key, need ∈ known) ∧
        Holds law post known (next value)

theorem Holds.weaken {post post' : Except ε α → List TypeKey → Prop}
    (weaker : ∀ result known, post result known → post' result known) {known : List TypeKey}
    {p : Planning ε α} (held : Holds law post known p) : Holds law post' known p := by
  induction p generalizing known with
  | done result => exact weaker result known held
  | findType key next ih =>
      exact ⟨fun value allowed => ih _ (held.1 value allowed), ih _ held.2⟩
  | keepType key value next ih => exact ⟨held.1, held.2.1, ih _ held.2.2⟩
  | findPlan key next ih =>
      exact ⟨fun value allowed => ih _ (held.1 value allowed), ih _ held.2⟩
  | keepPlan key value next ih => exact ⟨held.1, held.2.1, ih _ held.2.2⟩

theorem Holds.bind {post : Except ε β → List TypeKey → Prop} {known : List TypeKey}
    {p : Planning ε α} {f : α → Planning ε β}
    (held : Holds law
      (fun result known' =>
        match result with
        | .ok a => Holds law post known' (f a)
        | .error e => post (.error e) known') known p) :
    Holds law post known (p >>= f) := by
  change Holds law post known (p.bind f)
  induction p generalizing known with
  | done result => cases result <;> exact held
  | findType key next ih =>
      exact ⟨fun value allowed => ih _ (held.1 value allowed), ih _ held.2⟩
  | keepType key value next ih => exact ⟨held.1, held.2.1, ih _ held.2.2⟩
  | findPlan key next ih =>
      exact ⟨fun value allowed => ih _ (held.1 value allowed), ih _ held.2⟩
  | keepPlan key value next ih => exact ⟨held.1, held.2.1, ih _ held.2.2⟩

theorem Holds.mapError {post : Except ε' α → List TypeKey → Prop} {known : List TypeKey}
    {p : Planning ε α} {f : ε → ε'}
    (held : Holds law (fun result known' => post (result.mapError f) known') known p) :
    Holds law post known (p.mapError f) := by
  induction p generalizing known with
  | done result => cases result <;> exact held
  | findType key next ih =>
      exact ⟨fun value allowed => ih _ (held.1 value allowed), ih _ held.2⟩
  | keepType key value next ih => exact ⟨held.1, held.2.1, ih _ held.2.2⟩
  | findPlan key next ih =>
      exact ⟨fun value allowed => ih _ (held.1 value allowed), ih _ held.2⟩
  | keepPlan key value next ih => exact ⟨held.1, held.2.1, ih _ held.2.2⟩

/-- One question to lawful tables: they stay lawful, only grow, and the rest of the computation
holds with what is known then. -/
theorem Holds.step {post : Except ε α → List TypeKey → Prop} {known : List TypeKey}
    {p : Planning ε α} {memo : Memo} (held : Holds law post known p) (lawful : memo.Obeys law)
    (cached : ∀ key ∈ known, (memo.type? key).isSome) :
    (p.step memo).2.Obeys law ∧ memo.Extends (p.step memo).2 ∧
      ∃ known', (∀ key ∈ known', ((p.step memo).2.type? key).isSome) ∧
        Holds law post known' (p.step memo).1 := by
  cases p with
  | done result => exact ⟨lawful, Memo.Extends.refl memo, known, cached, held⟩
  | findType key next =>
      refine ⟨lawful, Memo.Extends.refl memo, ?_⟩
      cases found : memo.type? key with
      | none => exact ⟨known, cached, by simpa [Planning.step, found] using held.2⟩
      | some value =>
          refine ⟨key :: (law.underType key ++ known), ?_, ?_⟩
          · intro other member
            rcases List.mem_cons.mp member with same | below
            · simp [same, Planning.step, found]
            · rcases List.mem_append.mp below with needed | old
              · exact lawful.underType key value found other needed
              · exact cached other old
          · simpa [Planning.step, found] using held.1 value (lawful.type key value found)
  | keepType key value next =>
      obtain ⟨allowed, needs, rest⟩ := held
      obtain ⟨same, lawful', grown, present⟩ := Memo.keepType_obeys lawful allowed
        fun need member => cached need (needs need member)
      refine ⟨lawful', grown, key :: known, ?_, ?_⟩
      · intro other member
        rcases List.mem_cons.mp member with equal | old
        · rw [equal]
          exact Option.isSome_iff_exists.mpr ⟨value, present⟩
        · exact grown.isSome (cached other old)
      · simpa [Planning.step, same] using rest
  | findPlan key next =>
      refine ⟨lawful, Memo.Extends.refl memo, known, cached, ?_⟩
      cases found : memo.plan? key with
      | none => simpa [Planning.step, found] using held.2
      | some value => simpa [Planning.step, found] using held.1 value (lawful.plan key value found)
  | keepPlan key value next =>
      obtain ⟨allowed, needs, rest⟩ := held
      obtain ⟨same, lawful', grown⟩ := Memo.keepPlan_obeys lawful allowed
        fun need member => cached need (needs need member)
      refine ⟨lawful', grown, known, fun other member => grown.isSome (cached other member), ?_⟩
      simpa [Planning.step, same] using rest

/-- A run is its first step and the run of the rest. -/
theorem run_step (p : Planning ε α) (memo : Memo) :
    (p.step memo).1.run (p.step memo).2 = p.run memo := by
  cases p <;> rfl

/-- What has to run to its end for a chain of steps to do so. -/
theorem run_bind_eq_ok {p : Planning ε α} {f : α → Planning ε β} {memo memo' : Memo} {b : β}
    (ran : (p >>= f).run memo = (.ok b, memo')) :
    ∃ a between, p.run memo = (.ok a, between) ∧ (f a).run between = (.ok b, memo') := by
  change (p.bind f).run memo = (.ok b, memo') at ran
  induction p generalizing memo with
  | done result =>
      cases result with
      | ok a => exact ⟨a, memo, rfl, ran⟩
      | error e => cases ran
  | findType key next ih => exact ih _ ran
  | keepType key value next ih => exact ih _ ran
  | findPlan key next ih => exact ih _ ran
  | keepPlan key value next ih => exact ih _ ran

theorem run_bind {p : Planning ε α} {f : α → Planning ε β} {memo between : Memo} {a : α}
    (ran : p.run memo = (.ok a, between)) : (p >>= f).run memo = (f a).run between := by
  change (p.bind f).run memo = _
  induction p generalizing memo with
  | done result =>
      cases ran
      rfl
  | findType key next ih => exact ih _ ran
  | keepType key value next ih => exact ih _ ran
  | findPlan key next ih => exact ih _ ran
  | keepPlan key value next ih => exact ih _ ran

theorem run_bind_error {p : Planning ε α} {f : α → Planning ε β} {memo memo' : Memo} {e : ε}
    (ran : p.run memo = (.error e, memo')) : (p >>= f).run memo = (.error e, memo') := by
  change (p.bind f).run memo = _
  induction p generalizing memo with
  | done result =>
      cases ran
      rfl
  | findType key next ih => exact ih _ ran
  | keepType key value next ih => exact ih _ ran
  | findPlan key next ih => exact ih _ ran
  | keepPlan key value next ih => exact ih _ ran

/-- Where a chain of steps fails. -/
theorem run_bind_eq_error {p : Planning ε α} {f : α → Planning ε β} {memo memo' : Memo} {e : ε}
    (ran : (p >>= f).run memo = (.error e, memo')) :
    p.run memo = (.error e, memo') ∨
      ∃ a between, p.run memo = (.ok a, between) ∧ (f a).run between = (.error e, memo') := by
  change (p.bind f).run memo = (.error e, memo') at ran
  induction p generalizing memo with
  | done result =>
      cases result with
      | ok a => exact .inr ⟨a, memo, rfl, ran⟩
      | error other =>
          cases ran
          exact .inl rfl
  | findType key next ih => exact ih _ ran
  | keepType key value next ih => exact ih _ ran
  | findPlan key next ih => exact ih _ ran
  | keepPlan key value next ih => exact ih _ ran

theorem run_mapError_eq_error {f : ε → ε'} {p : Planning ε α} {memo memo' : Memo} {e : ε'}
    (ran : (p.mapError f).run memo = (.error e, memo')) : ∃ cause, e = f cause := by
  induction p generalizing memo with
  | done result =>
      cases result with
      | ok a => cases ran
      | error cause =>
          cases ran
          exact ⟨cause, rfl⟩
  | findType key next ih => exact ih _ ran
  | keepType key value next ih => exact ih _ ran
  | findPlan key next ih => exact ih _ ran
  | keepPlan key value next ih => exact ih _ ran

/-- A whole run on lawful tables. -/
theorem Holds.run {post : Except ε α → List TypeKey → Prop} {known : List TypeKey}
    {p : Planning ε α} {memo : Memo} (held : Holds law post known p) (lawful : memo.Obeys law)
    (cached : ∀ key ∈ known, (memo.type? key).isSome) :
    (p.run memo).2.Obeys law ∧ memo.Extends (p.run memo).2 ∧
      ∃ known', (∀ key ∈ known', ((p.run memo).2.type? key).isSome) ∧
        post (p.run memo).1 known' := by
  induction p generalizing known memo with
  | done result => exact ⟨lawful, Memo.Extends.refl memo, known, cached, held⟩
  | _ =>
      rename_i ih
      obtain ⟨lawful', grown, known', cached', held'⟩ := held.step lawful cached
      rw [← run_step]
      obtain ⟨lawful'', grown', outcome⟩ := ih _ held' lawful' cached'
      exact ⟨lawful'', grown.trans grown', outcome⟩

/-- A computation whose result does not depend on the tables. -/
def Steady (law : TableLaw) (p : Planning ε α) : Prop :=
  ∀ known, Holds law (fun result _ => result = p.fresh) known p

theorem Steady.run {p : Planning ε α} (steady : p.Steady law) {memo : Memo}
    (lawful : memo.Obeys law) : (p.run memo).1 = p.fresh ∧ (p.run memo).2.Obeys law := by
  obtain ⟨lawful', -, -, -, same⟩ := (steady []).run lawful (by simp)
  exact ⟨same, lawful'⟩

theorem steady_pure (a : α) : (pure a : Planning ε α).Steady law := fun _ => rfl

theorem steady_lift (result : Except ε α) : (lift result).Steady law := fun _ => rfl

theorem steady_fail (e : ε) : (fail e : Planning ε α).Steady law := fun _ => rfl

theorem Steady.bind {p : Planning ε α} {f : α → Planning ε β} (first : p.Steady law)
    (next : ∀ a, p.fresh = .ok a → (f a).Steady law) : (p >>= f).Steady law := by
  intro known
  apply Holds.bind
  apply (first known).weaken
  intro result known' same
  cases result with
  | ok a =>
      apply (next a same.symm known').weaken
      intro result' _ same'
      rw [same', fresh_bind, ← same]
      rfl
  | error e =>
      rw [fresh_bind, ← same]
      rfl

theorem Steady.mapError {p : Planning ε α} (steady : p.Steady law) (f : ε → ε') :
    (p.mapError f).Steady law := by
  intro known
  apply Holds.mapError
  exact (steady known).weaken fun _ _ same => by rw [same, fresh_mapError]

theorem steady_mapM {f : α → Planning ε β} (items : List α)
    (each : ∀ item ∈ items, (f item).Steady law) : (items.mapM f).Steady law := by
  induction items with
  | nil => exact steady_pure []
  | cons item rest ih =>
      rw [List.mapM_cons]
      apply (each item (by simp)).bind
      intro b _
      apply (ih fun other member => each other (by simp [member])).bind
      intro bs _
      exact steady_pure (b :: bs)

end Planning

end ApiContract
