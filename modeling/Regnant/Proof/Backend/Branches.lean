import Regnant.Proof.Backend.History

namespace Regnant.Backend.Bitbucket
open CallTree

def Request.uuid : Request → Option String
  | .createRepo _ draws => some draws.uuid
  | .createPullrequest _ draws => some draws.uuid
  | _ => none

def Disturbs : Request → Request → Bool
  | .createBranch _, .listBranches repoId => (truthy repoId).isSome
  | _, _ => false

def Drawn (kind : Kind) : Prop :=
  kind ≠ .branches

def Undisturbed (asked asked' : Request) : Prop :=
  ¬Disturbs asked asked' ∧ ¬Disturbs asked' asked

instance : DecidableRel Undisturbed := fun asked asked' =>
  inferInstanceAs (Decidable (¬Disturbs asked asked' ∧ ¬Disturbs asked' asked))

theorem own_uuid {asked : Request} {kind : Kind} {key : Key kind} (drawn : Drawn kind)
    (own : (app asked).own = some ⟨kind, key⟩) :
    ∃ uuid, asked.uuid = some uuid ∧ HEq key uuid := by
  cases asked with
  | createRepo payload draws =>
      cases own
      exact ⟨_, rfl, .rfl⟩
  | createPullrequest payload draws =>
      simp only [app, createPullrequest] at own
      split at own <;> cases own <;> exact ⟨_, rfl, .rfl⟩
  | createBranch payload =>
      simp only [app, createBranch] at own
      split at own <;> cases own <;> exact absurd rfl drawn
  | listPullrequests repoId =>
      simp only [app, listPullrequests] at own
      split at own <;> cases own
  | listBranches repoId =>
      simp only [app, listBranches] at own
      split at own <;> cases own
  | listRepos => cases own

theorem writes_branches {asked : Request} {key : Key .branches}
    (own : (app asked).own = some ⟨.branches, key⟩) : ∃ payload, asked = .createBranch payload := by
  cases asked with
  | createBranch payload => exact ⟨payload, rfl⟩
  | createPullrequest payload draws =>
      simp only [app, createPullrequest] at own
      split at own <;> cases own
  | listPullrequests repoId =>
      simp only [app, listPullrequests] at own
      split at own <;> cases own
  | listBranches repoId =>
      simp only [app, listBranches] at own
      split at own <;> cases own
  | _ => cases own

theorem iterates_branches {asked : Request} (watches : (app asked).watches = some .branches) :
    ∃ repoId, asked = .listBranches repoId ∧ (truthy repoId).isSome := by
  cases asked with
  | listBranches repoId =>
      simp only [app, listBranches] at watches
      split at watches
      next given => exact ⟨repoId, rfl, by rw [given]; rfl⟩
      next => cases watches
  | createBranch payload =>
      simp only [app, createBranch] at watches
      split at watches <;> cases watches
  | createPullrequest payload draws =>
      simp only [app, createPullrequest] at watches
      split at watches <;> cases watches
  | listPullrequests repoId =>
      simp only [app, listPullrequests] at watches
      split at watches <;> cases watches
  | _ => cases watches

theorem disturbs {asked asked' : Request} {kind : Kind} {key : Key kind} (undrawn : ¬Drawn kind)
    (own : (app asked).own = some ⟨kind, key⟩) (watches : (app asked').watches = some kind) :
    Disturbs asked asked' := by
  obtain rfl : kind = .branches := not_not.mp undrawn
  obtain ⟨payload, rfl⟩ := writes_branches own
  obtain ⟨repoId, rfl, given⟩ := iterates_branches watches
  exact given

theorem distinct_of_fresh {asked asked' : Request} (fresh : Fresh Request.uuid asked asked') :
    (app asked).Distinct Drawn (app asked') := by
  intro kind key drawn own own'
  obtain ⟨uuid, here, same⟩ := own_uuid drawn own
  obtain ⟨uuid', there, same'⟩ := own_uuid drawn own'
  obtain rfl := eq_of_heq (same.symm.trans same')
  rcases fresh with none | other
  · rw [here] at none
    cases none
  · exact other (here.trans there.symm)

theorem apart_of_undisturbed {asked asked' : Request} (undisturbed : Undisturbed asked asked') :
    (app asked).Apart Drawn (app asked') where
  watched _ _ undrawn own watches := undisturbed.1 (disturbs undrawn own watches)
  watches _ _ undrawn own watches := undisturbed.2 (disturbs undrawn own watches)

/-- What was stored before an answer: of repositories and pull requests all that were created, and
of the branches of one name and repository the one that was created last. -/
structure StoredBefore (before : List (Request × Except Exn Body))
    (stored : (kind : Kind) → List (Key kind × Value kind)) : Prop where
  drawn : ∀ kind, Drawn kind → stored kind = created app before kind
  branches : Dictionary.Latest (created app before .branches) (stored .branches)

/-- Where no branch is written while the branches of a repository are listed, every answer follows
from those that were given before, however operations interleave. -/
theorem branches_latest (turns : List (Pool.Turn Nat Request))
    (fresh : (turns.filterMap Pool.Turn.asked).Pairwise (Fresh Request.uuid))
    (undisturbed : Along app Undisturbed turns) :
    ∀ before asked x later, (after app turns).answers = before ++ (asked, x) :: later →
      (x = .error changedSize ∧ (app asked).watches ≠ none) ∨
        ∃ stored, StoredBefore before stored ∧ x = (app asked).expected stored := by
  intro before asked x later split
  have overlaps : Along app (discipline app Drawn).apart turns :=
    undisturbed.mono _ fun _ _ => Pool.Overlaps.mono fun _ _ => apart_of_undisturbed
  have serial := serial_turns (fresh.imp distinct_of_fresh) overlaps
  rw [split] at serial
  obtain ⟨s, serial, fails | alone⟩ := serial.answer
  · exact .inl fails
  · refine .inr ⟨fun kind => (s kind).entries, ⟨fun kind => entries_replay serial, ?_⟩, ?_⟩
    · rw [serial_replay serial]
      exact Dictionary.latest_assigned _
    · rw [alone, serve_expected]

def branch (name commit : String) : Request :=
  let payload : Payload := ((∅ : Payload).insert "repo_id" "r").insert "name" name
  .createBranch (payload.insert "commit_sha" commit)

def torn : List (Pool.Turn Nat Request) :=
  let create (asked : Request) : List (Pool.Turn Nat Request) :=
    [.start 1 asked, .call 1, .call 1]
  .start 1 (.createRepo ∅ ⟨"r", "now"⟩) :: .call 1 :: create (branch "a" "1") ++
    create (branch "b" "1") ++
    [.start 0 (.listBranches (some "r")), .call 0, .call 0] ++ create (branch "a" "2") ++
    create (branch "b" "2") ++ [.call 0, .call 0]

theorem torn_listing :
    let answers := (after app torn).answers
    let listed := Except.ok (Body.branches [⟨"a", "r", "1"⟩, ⟨"b", "r", "2"⟩])
    (answers.map Prod.snd).getLast? = some listed ∧
      ∀ n ≤ answers.length, (app (.listBranches (some "r"))).expected
        (fun kind => (replay app (answers.take n) kind).entries) ≠ listed := by
  decide

def moved : List (Pool.Turn Nat Request) :=
  [.start 0 (.createRepo ∅ ⟨"r", "now"⟩), .call 0,
    .start 0 (.listBranches (some "r")), .call 0, .call 0,
    .start 0 (branch "a" "1"), .call 0, .start 1 (branch "a" "2"), .call 1, .call 1, .call 0,
    .start 0 (.listBranches (some "r")), .call 0, .call 0, .call 0]

theorem moved_latest :
    let answers := (after app moved).answers
    let listed := Except.ok (Body.branches [⟨"a", "r", "1"⟩])
    (answers.map Prod.snd).getLast? = some listed ∧
      ∀ before asked x later, answers = before ++ (asked, x) :: later →
        (x = .error changedSize ∧ (app asked).watches ≠ none) ∨
          ∃ stored, StoredBefore before stored ∧ x = (app asked).expected stored :=
  ⟨by decide, branches_latest moved (by decide) (by decide)⟩

end Regnant.Backend.Bitbucket
