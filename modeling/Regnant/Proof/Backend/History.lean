import Regnant.Backend.Apps
import Regnant.Proof.Backend.Serial

namespace Regnant.Backend
open CallTree

variable {ι : Type} {K V : ι → Type} {Body : Type} [DecidableEq ι]

def Endpoint.entry (c : ι) : Endpoint ι K V Body → Option (K c × V c)
  | .create c' key value _ => if same : c' = c then some (same ▸ (key, value)) else none
  | .createIn _ _ _ c' key value _ => if same : c' = c then some (same ▸ (key, value)) else none
  | _ => none

def Endpoint.stores (e : Endpoint ι K V Body) (x : Except Exn Body) (c : ι) : Option (K c × V c) :=
  match x with
  | .ok _ => e.entry c
  | .error _ => none

section
variable {Q : Type} (app : Q → Endpoint ι K V Body)

def created (answers : List (Q × Except Exn Body)) (c : ι) : List (K c × V c) :=
  answers.filterMap fun answer => (app answer.1).stores answer.2 c

variable [∀ c, DecidableEq (K c)]

def replay (answers : List (Q × Except Exn Body)) : Store ι K V :=
  fun c => .assigned (created app answers c)

/-- What is answered when exactly these objects were stored. -/
def Endpoint.expected (stored : (c : ι) → List (K c × V c)) :
    Endpoint ι K V Body → Except Exn Body
  | .list c body => .ok (body ((stored c).map Prod.snd))
  | .listWhere c keep body => .ok (body (((stored c).map Prod.snd).filter keep))
  | .create _ _ _ body => .ok body
  | .createIn parent id detail _ _ _ body =>
      if ((stored parent).map Prod.fst).contains id then .ok body
      else .error (.httpException 404 detail)

variable {app} {answers before : List (Q × Except Exn Body)} {asked : Q} {x : Except Exn Body}
  {s s' : Store ι K V} {c : ι} {drawn : ι → Prop}

theorem serve_expected (e : Endpoint ι K V Body) (s : Store ι K V) :
    (e.serve s).1 = e.expected fun c => (s c).entries := by
  cases e with
  | createIn parent id detail c key value body =>
      simp only [Endpoint.serve, Endpoint.expected, List.contains_iff_mem]
      split <;> split <;> first | rfl | contradiction
  | _ => rfl

omit [∀ c, DecidableEq (K c)] in
theorem own_of_stores {e : Endpoint ι K V Body} {entry : K c × V c}
    (stores : e.stores x c = some entry) : e.own = some ⟨c, entry.1⟩ := by
  have enters : e.entry c = some entry := by
    cases x with
    | ok body => exact stores
    | error failure => cases stores
  cases e with
  | create c' key value body =>
      simp only [Endpoint.entry] at enters
      split at enters
      next same =>
        subst same
        cases enters
        rfl
      next => cases enters
  | createIn parent id detail c' key value body =>
      simp only [Endpoint.entry] at enters
      split at enters
      next same =>
        subst same
        cases enters
        rfl
      next => cases enters
  | _ => cases enters

def stored (d : Dictionary (K c) (V c)) (entry : Option (K c × V c)) : Dictionary (K c) (V c) :=
  entry.elim d fun entry => d.set entry.1 entry.2

theorem update_create {c' : ι} (key : K c') (value : V c') (body : Body) (s : Store ι K V) (c : ι) :
    Function.update s c' ((s c').set key value) c =
      stored (s c) ((Endpoint.create c' key value body).entry c) := by
  by_cases same : c' = c
  · subst same
    simp [Endpoint.entry, stored]
  · simp [Endpoint.entry, stored, same, Function.update_of_ne (Ne.symm same)]

theorem serve_stores {e : Endpoint ι K V Body} (served : e.serve s = (x, s')) (c : ι) :
    s' c = stored (s c) (e.stores x c) := by
  cases e with
  | create c' key value body =>
      cases served
      exact update_create key value body s c
  | createIn parent id detail c' key value body =>
      simp only [Endpoint.serve] at served
      split at served
      · cases served
        exact update_create key value body s c
      · cases served
        rfl
  | _ =>
      cases served
      rfl

omit [∀ c, DecidableEq (K c)] in
theorem created_append (answers : List (Q × Except Exn Body)) (asked : Q) (x : Except Exn Body)
    (c : ι) : created app (answers ++ [(asked, x)]) c =
      created app answers c ++ ((app asked).stores x c).toList := by
  rw [created, List.filterMap_append]
  cases stores : (app asked).stores x c <;> simp [created, stores]

theorem replay_append (answers : List (Q × Except Exn Body)) (asked : Q) (x : Except Exn Body)
    (c : ι) : replay app (answers ++ [(asked, x)]) c =
      stored (replay app answers c) ((app asked).stores x c) := by
  rw [replay, created_append]
  cases (app asked).stores x c with
  | none => exact congrArg Dictionary.assigned (List.append_nil _)
  | some entry => exact Dictionary.assigned_append _ entry

/-! ## Threads -/

abbrev Serial (app : Q → Endpoint ι K V Body) (drawn : ι → Prop) :
    List (Q × Except Exn Body) → Store ι K V → Prop :=
  Pool.Serial perform (fun asked => (app asked).handler) (discipline app drawn).knows
    (fun asked => (app asked).Aborts) fun _ => .empty

theorem serial_replay (serial : Serial app drawn answers s) : s = replay app answers := by
  induction serial with
  | nil => rfl
  | @answered done s s' asked x _ _ alone ih =>
      subst ih
      funext c
      rw [replay_append, serve_stores ((run_handler _ _).symm.trans alone)]
  | @aborted done s asked e _ abort ih =>
      subst ih
      funext c
      rw [replay_append]
      rfl

theorem entries_replay (serial : Serial app drawn answers s) (isDrawn : drawn c) :
    (s c).entries = created app answers c := by
  induction serial with
  | nil => rfl
  | @answered done s s' asked x _ new alone ih =>
      rw [serve_stores ((run_handler _ _).symm.trans alone), created_append, ← ih]
      cases stores : (app asked).stores x c with
      | none => exact (List.append_nil _).symm
      | some entry =>
          have own := own_of_stores stores
          exact Dictionary.set_new (new c entry.1 isDrawn own) entry.2
  | @aborted done s asked e _ abort ih =>
      rw [created_append, ← ih]
      exact (List.append_nil _).symm

theorem Serial.answer {after : List (Q × Except Exn Body)}
    (serial : Serial app drawn (before ++ (asked, x) :: after) s) :
    ∃ s, Serial app drawn before s ∧ ((x = .error changedSize ∧ (app asked).watches ≠ none) ∨
      x = ((app asked).serve s).1) := by
  induction after using List.reverseRecOn generalizing s with
  | nil =>
      generalize whole : before ++ [(asked, x)] = answers at serial
      cases serial with
      | nil => simp at whole
      | @answered done s s' asked' x' serial _ alone =>
          obtain ⟨rfl, same⟩ := List.append_inj' whole rfl
          cases same
          exact ⟨s, serial, .inr (congrArg Prod.fst ((run_handler _ _).symm.trans alone)).symm⟩
      | @aborted done s asked' e serial abort =>
          obtain ⟨rfl, same⟩ := List.append_inj' whole rfl
          cases same
          exact ⟨s, serial, .inl ⟨congrArg _ abort.1, abort.2⟩⟩
  | append_singleton after last ih =>
      generalize whole : before ++ (asked, x) :: (after ++ [last]) = answers at serial
      rw [← List.cons_append, ← List.append_assoc] at whole
      cases serial with
      | nil => simp at whole
      | answered serial =>
          obtain ⟨rfl, -⟩ := List.append_inj' whole rfl
          exact ih serial
      | aborted serial =>
          obtain ⟨rfl, -⟩ := List.append_inj' whole rfl
          exact ih serial

section
variable {ν : Type} [DecidableEq ν]

variable (app) in
abbrev after (turns : List (Pool.Turn ν Q)) :
    Pool ν Q (Call ι K V) Call.Result Exn Body (Store ι K V) :=
  Pool.after perform (fun asked => (app asked).handler) (fun _ => .empty) turns

variable (app) in
/-- No two requests are under way at once that are not apart. -/
abbrev Along (apart : Q → Q → Prop) (turns : List (Pool.Turn ν Q)) : Prop :=
  Machine.Along (Pool.step perform fun asked => (app asked).handler) (Pool.Overlaps apart)
    ⟨fun _ => .empty, ∅, []⟩ turns

theorem serial_turns {turns : List (Pool.Turn ν Q)}
    (distinct : (turns.filterMap Pool.Turn.asked).Pairwise (discipline app drawn).distinct)
    (overlaps : Along app (discipline app drawn).apart turns) :
    Serial app drawn (after app turns).answers (after app turns).shared :=
  (discipline app drawn).serial_after _ turns distinct overlaps
    fun _ _ _ _ _ _ => List.not_mem_nil

theorem along_drawn {turns : List (Pool.Turn ν Q)} :
    Along app (discipline app fun _ => True).apart turns := by
  refine (Machine.Along.true _ _ turns).mono _ fun s turn _ => ?_
  cases turn with
  | start name asked => exact fun _ thread _ => (app asked).apart_of_drawn (app thread.2.1)
  | call name => trivial

end

/-! ## Jira and Confluence -/

def FromHistory (app : Q → Endpoint ι K V Body) (answers : List (Q × Except Exn Body)) : Prop :=
  ∀ before asked x after, answers = before ++ (asked, x) :: after →
    (x = .error changedSize ∧ (app asked).watches ≠ none) ∨
      x = (app asked).expected (created app before)

theorem fromHistory (serial : Serial app (fun _ => True) answers s) : FromHistory app answers := by
  rintro before asked x after rfl
  obtain ⟨s, serial, fails | alone⟩ := serial.answer
  · exact .inl fails
  · have entries : (fun c => (s c).entries) = created app before :=
      funext fun c => entries_replay serial trivial
    rw [serve_expected, entries] at alone
    exact .inr alone

end

def Fresh {Q : Type} (uuid : Q → Option String) (asked asked' : Q) : Prop :=
  uuid asked = none ∨ uuid asked ≠ uuid asked'

instance {Q : Type} (uuid : Q → Option String) : DecidableRel (Fresh uuid) :=
  fun asked asked' => inferInstanceAs (Decidable (uuid asked = none ∨ uuid asked ≠ uuid asked'))

omit [DecidableEq ι] in
theorem distinct_of_fresh {Q : Type} {app : Q → Endpoint ι (fun _ => String) V Body}
    {uuid : Q → Option String}
    (owns : ∀ asked c key, (app asked).own = some ⟨c, key⟩ → uuid asked = some key)
    {asked asked' : Q} (fresh : Fresh uuid asked asked') :
    (app asked).Distinct (fun _ => True) (app asked') := by
  intro c key _ own own'
  rcases fresh with none | other
  · rw [owns asked c key own] at none
    cases none
  · exact other ((owns asked c key own).trans (owns asked' c key own').symm)

namespace Jira

def Request.uuid : Request → Option String
  | .createProject _ draws => some draws.uuid
  | .createIssue _ draws => some draws.uuid
  | .createSprint _ draws => some draws.uuid
  | _ => none

theorem own_uuid (asked : Request) (kind : Kind) (key : String)
    (own : (app asked).own = some ⟨kind, key⟩) : asked.uuid = some key := by
  cases asked with
  | listIssues projectId =>
      simp only [app, listIssues] at own
      split at own <;> cases own
  | createIssue payload draws =>
      simp only [app, createIssue] at own
      split at own <;> cases own <;> rfl
  | _ => cases own <;> rfl

end Jira

namespace Confluence

def Request.uuid : Request → Option String
  | .createSpace _ draws => some draws.uuid
  | .createPage _ draws => some draws.uuid
  | .createLabel _ draws => some draws.uuid
  | _ => none

theorem own_uuid (asked : Request) (kind : Kind) (key : String)
    (own : (app asked).own = some ⟨kind, key⟩) : asked.uuid = some key := by
  cases asked with
  | listPages spaceId =>
      simp only [app, listPages] at own
      split at own <;> cases own
  | createPage payload draws =>
      simp only [app, createPage] at own
      split at own <;> cases own <;> rfl
  | _ => cases own <;> rfl

end Confluence

/-- However the operations of requests on their threads interleave, what either backend answers is
what the objects created by requests that were answered before make it, unless a listing by parent
found its dictionary grown. -/
theorem history_determines_answers :
    (∀ turns : List (Pool.Turn Nat Jira.Request),
      (turns.filterMap Pool.Turn.asked).Pairwise (Fresh Jira.Request.uuid) →
      FromHistory Jira.app (after Jira.app turns).answers) ∧
    ∀ turns : List (Pool.Turn Nat Confluence.Request),
      (turns.filterMap Pool.Turn.asked).Pairwise (Fresh Confluence.Request.uuid) →
      FromHistory Confluence.app (after Confluence.app turns).answers := by
  constructor
  · intro turns fresh
    exact fromHistory (serial_turns (fresh.imp (distinct_of_fresh Jira.own_uuid)) along_drawn)
  · intro turns fresh
    exact fromHistory
      (serial_turns (fresh.imp (distinct_of_fresh Confluence.own_uuid)) along_drawn)

namespace Jira

def lateIssue : List (Pool.Turn Nat Request) :=
  [.start 0 (.createProject ∅ ⟨"p", "now"⟩), .call 0,
    .start 0 (.createIssue ((∅ : Payload).insert "project_id" "p") ⟨"i", "now"⟩), .call 0,
    .start 1 (.listIssues (some "p")), .call 1, .call 0, .call 1,
    .start 1 (.listIssues (some "p")), .call 1, .call 1, .call 1]

theorem lateIssue_from_history :
    ((after app lateIssue).answers.map Prod.snd).drop 2 =
        [.error changedSize, .ok (.issues [⟨"i", "p", "untitled", "todo", "now"⟩])] ∧
      FromHistory app (after app lateIssue).answers :=
  ⟨by decide, history_determines_answers.1 lateIssue (by decide)⟩

end Jira

end Regnant.Backend
