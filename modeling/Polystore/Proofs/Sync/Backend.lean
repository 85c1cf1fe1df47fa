import Polystore.Proofs.Sync.Relational
import Polystore.Sync.Document

/-!
# Requests to a backend

A synchronization makes requests of a connection or of a document store for the changes that it has
planned. `Carries` says of a program which changes it makes requests for and how it ends, and has a law
for each way in which a run is put together: it ends with the first refusal that is fatal, and otherwise
reports the indexes that were refused.
-/

namespace Polystore.Sync

variable {σ α : Type}

/-- What a synchronization works on: a relational store with its dialect, or a document store. -/
inductive Backend (σ : Type) where
  | relational (c : Connection σ) (d : SqlDialect)
  | document (store : DocumentStore σ)

/-- A request that was made for a change, and the error with which it was refused. -/
structure Trial where
  change : Change
  refusal : Option Error

/-- The error of an answer. -/
def refusalOf : Except Error α → Option Error
  | .ok _ => none
  | .error e => some e

namespace Backend

def synchronize (shape : TableShape) (options : SyncOptions) : Backend σ → Action σ Report
  | relational c d => Sync.synchronize c (.sql d) shape options
  | document store => Sync.document store shape options

/-- What is read of a table before anything is planned. A document store is not asked. -/
def existing (table : String) : Backend σ → Action σ (ExistingTable × Report)
  | relational c d => existingTable c d table {}
  | document _ => pure (.absent, {})

def plan (shape : TableShape) (existing : ExistingTable) (options : SyncOptions) :
    Backend σ → Except Error (List Change)
  | relational _ d => Plan.changes shape existing options (.sql d)
  | document _ => .ok (collectionPlan shape options.force)

/-- All changes can be written. A document store is sent no text. -/
def Renders (table : String) (plan : List Change) : Backend σ → Prop
  | relational _ d => ∀ change ∈ plan, ∃ statements, Ddl.render d table change = .ok statements
  | document _ => True

/-- The changes that a run makes requests for. That a collection is there is not planned, but made sure
of. -/
def aims (shape : TableShape) (force : Bool) (plan : List Change) : Backend σ → List Change
  | relational .. => plan
  | document _ => if force then plan else .createTable shape :: plan

/-- A run does not go on after a refusal that is met with this change. -/
def Fatal (force : Bool) (change : Change) : Backend σ → Prop
  | relational .. => change.makesTable = true ∨ force = true ∧ change.isIndex = true
  | document _ => change.makesTable = true

/-- What ends a run is wrapped. -/
def Wraps (force : Bool) : Backend σ → Prop
  | relational .. => True
  | document _ => force = true

/-- The error of a run that a refusal ends. -/
def raised (table : String) (force : Bool) (e : Error) : Backend σ → Error
  | relational .. => .tableNotSynced table e
  | document _ => if force then .collectionNotSynced table e else e

theorem wraps_iff (B : Backend σ) (table : String) (force : Bool) (e : Error) :
    ((B.raised table force e).kind? = some .sync ∧ (B.raised table force e).cause? = some e) ↔
      B.Wraps force := by
  cases B with
  | relational c d => exact ⟨fun _ => trivial, fun _ => ⟨rfl, rfl⟩⟩
  | document store =>
    cases force with
    | true => exact ⟨fun _ => rfl, fun _ => ⟨rfl, rfl⟩⟩
    | false => exact ⟨fun h => absurd h.2 e.cause?_ne_self, fun h => Bool.noConfusion h⟩

theorem raised_of_not_wraps (B : Backend σ) {table : String} {force : Bool} {e : Error}
    (h : ¬B.Wraps force) : B.raised table force e = e := by
  cases B with
  | relational c d => exact absurd trivial h
  | document store => exact if_neg h

end Backend

/-- A backend answers a request for a change: a statement of the change, or an operation on the
collection. -/
inductive Answers (table : String) : Backend σ → Trial → σ → σ → Prop where
  | statement {c : Connection σ} {d : SqlDialect} {change : Change} {statements : List String}
      {sql : String} {r : Except Error (List Row)} {x y : σ}
      (hrender : Ddl.render d table change = .ok statements) (hsql : sql ∈ statements)
      (hanswer : c.answer sql x = (r, y)) :
      Answers table (.relational c d) ⟨change, refusalOf r⟩ x y
  | list {store : DocumentStore σ} {change : Change} {r : Except Error (List String)} {x y : σ}
      (hchange : change.makesTable = true) (hanswer : store.listNames x = (r, y)) :
      Answers table (.document store) ⟨change, refusalOf r⟩ x y
  | create {store : DocumentStore σ} {change : Change} {r : Except Error Unit} {x y : σ}
      (hchange : change.makesTable = true) (hanswer : store.create table x = (r, y)) :
      Answers table (.document store) ⟨change, refusalOf r⟩ x y
  | drop {store : DocumentStore σ} {shape : TableShape} {r : Except Error Unit} {x y : σ}
      (hanswer : store.drop table x = (r, y)) :
      Answers table (.document store) ⟨.recreateTable shape, refusalOf r⟩ x y
  | index {store : DocumentStore σ} {name : String} {fields : List (String × Int)} {unique : Value}
      {r : Except Error Unit} {x y : σ}
      (hanswer : store.createIndex table fields unique (some name) x = (r, y)) :
      Answers table (.document store) ⟨.createIndex name fields unique, refusalOf r⟩ x y

/-- The requests that were made between two states of a backend, in order. -/
inductive Tried (B : Backend σ) (table : String) : σ → List Trial → σ → Prop where
  | nil (x : σ) : Tried B table x [] x
  | cons {t : Trial} {ts : List Trial} {x y z : σ} (hfirst : Answers table B t x y)
      (hrest : Tried B table y ts z) : Tried B table x (t :: ts) z

/-- The warning for an index that was refused. -/
def Trial.warning? (table : String) (t : Trial) : Option Warning :=
  match t.change, t.refusal with
  | .createIndex name .., some e => some (indexRefused table name e)
  | _, _ => none

/-- The warnings of a report about indexes that were refused or could not be written. -/
def Report.indexWarnings (r : Report) : List Warning :=
  r.warnings.filter (·.kind == .indexCreationFailed)

/-- How a program for some changes ends that has made these requests, after a report: with the first
refusal that is fatal, or with every index tried and a warning for each that was refused. -/
inductive Concludes (B : Backend σ) (table : String) (force : Bool) (changes : List Change)
    (r : Report) : List Trial → Except Error Report → Prop where
  | stopped {done : List Trial} {change : Change} {e : Error} (hfatal : B.Fatal force change)
      (hdone : ∀ t ∈ done, B.Fatal force t.change → t.refusal = none) :
      Concludes B table force changes r (done ++ [⟨change, some e⟩]) (.error (B.raised table force e))
  | reported {ts : List Trial} {report : Report}
      (hnone : ∀ t ∈ ts, B.Fatal force t.change → t.refusal = none)
      (hindexes : (ts.filter (·.change.isIndex)).map (·.change) = changes.filter Change.isIndex)
      (hwarnings : report.indexWarnings = r.indexWarnings ++ ts.filterMap (Trial.warning? table)) :
      Concludes B table force changes r ts (.ok report)

/-- A program makes requests for some changes alone, after a report. -/
def Carries (B : Backend σ) (table : String) (force : Bool) (changes : List Change) (r : Report)
    (a : Action σ Report) : Prop :=
  ∀ s, ∃ ts, Tried B table s.state ts (a.runFrom s).2.state ∧ (∀ t ∈ ts, t.change ∈ changes) ∧
    Concludes B table force changes r ts (a.runFrom s).1

variable {B : Backend σ} {table : String} {force : Bool} {ts us : List Trial} {x y z : σ}
  {change : Change} {changes rest plan : List Change} {r r' : Report} {a : Action σ Report}

/-! ### Programs that carry out changes -/

theorem Tried.append (h : Tried B table x ts y) (h' : Tried B table y us z) :
    Tried B table x (ts ++ us) z := by
  induction h with
  | nil => exact h'
  | cons hfirst _ ih => exact .cons hfirst (ih h')

theorem Concludes.prepend {result : Except Error Report}
    (hnone : ∀ t ∈ ts, B.Fatal force t.change → t.refusal = none)
    (hindexes : (ts.filter (·.change.isIndex)).map (·.change) = changes.filter Change.isIndex)
    (hwarnings : r'.indexWarnings = r.indexWarnings ++ ts.filterMap (Trial.warning? table))
    (h : Concludes B table force rest r' us result) :
    Concludes B table force (changes ++ rest) r (ts ++ us) result := by
  cases h with
  | stopped hfatal hdone =>
    rw [← List.append_assoc]
    exact .stopped hfatal fun t ht => (List.mem_append.1 ht).elim (hnone t) (hdone t)
  | reported hnone' hindexes' hwarnings' =>
    refine .reported (fun t ht => (List.mem_append.1 ht).elim (hnone t) (hnone' t)) ?_ ?_
    · rw [List.filter_append, List.map_append, hindexes, hindexes', List.filter_append]
    · rw [hwarnings', hwarnings, List.filterMap_append, List.append_assoc]

theorem Concludes.congr {result : Except Error Report}
    (h : Concludes B table force changes r ts result)
    (hchanges : changes.filter Change.isIndex = rest.filter Change.isIndex)
    (hreport : r.indexWarnings = r'.indexWarnings) : Concludes B table force rest r' ts result := by
  cases h with
  | stopped hfatal hdone => exact .stopped hfatal hdone
  | reported hnone hindexes hwarnings =>
    exact .reported hnone (hindexes.trans hchanges) (hreport ▸ hwarnings)

namespace Carries

theorem pure (hwarnings : r'.indexWarnings = r.indexWarnings) :
    Carries B table force [] r (Pure.pure r') := by
  intro s
  refine ⟨[], .nil _, List.forall_mem_nil _, .reported (List.forall_mem_nil _) rfl ?_⟩
  rw [hwarnings, List.filterMap_nil, List.append_nil]

theorem after_note {level : LogLevel} {source : LogSource} {text : String}
    (h : Carries B table force changes r a) :
    Carries B table force changes r (do Action.note level source text; a) :=
  fun s => h { s with log := s.log ++ [⟨level, source, text⟩] }

theorem bind {f : Report → Action σ Report} (h : Carries B table force changes r a)
    (hf : ∀ r, Carries B table force rest r (f r)) :
    Carries B table force (changes ++ rest) r (a >>= f) := by
  intro s
  obtain ⟨ts, htried, hchanges, hconcludes⟩ := h s
  cases hrun : a.runFrom s with
  | mk result s₁ =>
    rw [hrun] at htried hconcludes
    cases hconcludes with
    | stopped hfatal hdone =>
      rw [Action.runFrom_bind_error hrun]
      exact ⟨_, htried, fun t ht => List.mem_append_left _ (hchanges t ht), .stopped hfatal hdone⟩
    | @reported _ report hnone hindexes hwarnings =>
      obtain ⟨us, htried', hchanges', hrest⟩ := hf report s₁
      rw [Action.runFrom_bind_ok hrun]
      refine ⟨ts ++ us, htried.append htried', fun t ht => ?_,
        hrest.prepend hnone hindexes hwarnings⟩
      exact (List.mem_append.1 ht).elim (fun ht => List.mem_append_left _ (hchanges t ht))
        fun ht => List.mem_append_right _ (hchanges' t ht)

theorem foldlM {α : Type} {f : Report → α → Action σ Report} {changeOf : α → Change} {items : List α}
    (h : ∀ item ∈ items, ∀ r, Carries B table force [changeOf item] r (f r item)) (r : Report) :
    Carries B table force (items.map changeOf) r (items.foldlM f r) := by
  induction items generalizing r with
  | nil => exact pure rfl
  | cons item items ih =>
    obtain ⟨hfirst, hrest⟩ := List.forall_mem_cons.1 h
    rw [List.foldlM_cons]
    exact (hfirst r).bind (ih hrest)

end Carries

/-! ### One change -/

/-- The requests for a change of which some were accepted, before one was refused or the change was
done. -/
def requests (change : Change) (accepted : Nat) (failure : Option Error) : List Trial :=
  List.replicate accepted ⟨change, none⟩ ++ failure.toList.map fun e => ⟨change, some e⟩

theorem of_mem_requests_none {accepted : Nat} {t : Trial} (h : t ∈ requests change accepted none) :
    t = ⟨change, none⟩ := by
  rw [requests, Option.toList_none, List.map_nil, List.append_nil] at h
  exact List.eq_of_mem_replicate h

theorem change_of_mem_requests {accepted : Nat} {failure : Option Error} {t : Trial}
    (h : t ∈ requests change accepted failure) : t.change ∈ [change] := by
  rw [List.mem_singleton]
  rcases List.mem_append.1 h with h | h
  · rw [List.eq_of_mem_replicate h]
  · obtain ⟨e, -, rfl⟩ := List.mem_map.1 h
    rfl

theorem concludes_fatal {accepted : Nat} {failure : Option Error} (hfatal : B.Fatal force change)
    (hindex : change.isIndex = true → failure = none → accepted = 1)
    (hwarnings : r'.indexWarnings = r.indexWarnings) :
    Concludes B table force [change] r (requests change accepted failure)
      (Action.outcomeOf (failure.map (B.raised table force)) r') := by
  cases failure with
  | some e =>
    refine .stopped hfatal fun t ht _ => ?_
    rw [List.eq_of_mem_replicate ht]
  | none =>
    refine .reported (fun t ht _ => ?_) ?_ ?_
    · rw [of_mem_requests_none ht]
    · cases hchange : change.isIndex with
      | true =>
        rw [hindex hchange rfl]
        simp [requests, hchange]
      | false => simp [requests, hchange]
    · have hnone : (requests change accepted none).filterMap (Trial.warning? table) = [] := by
        refine List.filterMap_eq_nil_iff.2 fun t ht => ?_
        rw [of_mem_requests_none ht]
        cases change <;> rfl
      rw [hnone, hwarnings, List.append_nil]

theorem concludes_tolerated {refusal : Option Error} (hfatal : ¬B.Fatal force change)
    (hwarnings : r'.indexWarnings =
      r.indexWarnings ++ [⟨change, refusal⟩].filterMap (Trial.warning? table)) :
    Concludes B table force [change] r [⟨change, refusal⟩] (.ok r') := by
  refine .reported (List.forall_mem_singleton.2 fun h => absurd h hfatal) ?_ hwarnings
  cases hchange : change.isIndex <;> simp [hchange]

theorem carries_fatal {b : Action σ Unit} (hfatal : B.Fatal force change)
    (hwarnings : r'.indexWarnings = r.indexWarnings)
    (hb : ∀ s, ∃ accepted failure y, Tried B table s.state (requests change accepted failure) y ∧
      b.runFrom s = (Action.outcomeOf (failure.map (B.raised table force)) (), { s with state := y }) ∧
      (change.isIndex = true → failure = none → accepted = 1)) :
    Carries B table force [change] r (do b; pure r') := by
  intro s
  obtain ⟨accepted, failure, y, htried, hrun, hindex⟩ := hb s
  have hconcludes : Concludes B table force [change] r _ _ := concludes_fatal hfatal hindex hwarnings
  cases failure with
  | none =>
    rw [Action.runFrom_bind_ok hrun]
    exact ⟨_, htried, fun _ => change_of_mem_requests, hconcludes⟩
  | some e =>
    rw [Action.runFrom_bind_error hrun]
    exact ⟨_, htried, fun _ => change_of_mem_requests, hconcludes⟩

theorem carries_tolerated {b : Action σ Unit} {f : Except Error Unit → Action σ Report}
    (hfatal : ¬B.Fatal force change)
    (hb : ∀ s, ∃ refusal y, Tried B table s.state [⟨change, refusal⟩] y ∧
      b.runFrom s = (Action.outcomeOf refusal (), { s with state := y }))
    (hf : ∀ refusal s, ∃ report log, (f (Action.outcomeOf refusal ())).runFrom s =
        (.ok report, { s with log := log }) ∧
      report.indexWarnings = r.indexWarnings ++ [⟨change, refusal⟩].filterMap (Trial.warning? table)) :
    Carries B table force [change] r (b.attempt >>= f) := by
  intro s
  obtain ⟨refusal, y, htried, hrun⟩ := hb s
  have hattempt := Action.runFrom_attempt b s
  rw [hrun] at hattempt
  obtain ⟨report, log, hreport, hwarnings⟩ := hf refusal { s with state := y }
  rw [Action.runFrom_bind_ok hattempt, hreport]
  exact ⟨_, htried, List.forall_mem_singleton.2 List.mem_cons_self,
    concludes_tolerated hfatal hwarnings⟩

theorem runFrom_mapError_outcomeOf {b : Action σ Unit} {f : Error → Error} {failure : Option Error}
    {s s' : Session σ} (h : b.runFrom s = (Action.outcomeOf failure (), s')) :
    (b.mapError f).runFrom s = (Action.outcomeOf (failure.map f) (), s') := by
  rw [Action.runFrom_mapError, h]
  cases failure <;> rfl

/-- A refused index is one more warning about indexes, and a refused column is none. -/
theorem indexWarnings_append (r : Report) (w : Warning) :
    Report.indexWarnings { r with warnings := r.warnings ++ [w] } =
      r.indexWarnings ++ [w].filter (·.kind == .indexCreationFailed) :=
  List.filter_append ..

end Polystore.Sync
