import Regnant.Backend.Apps
import Regnant.Lib.Upkeep
import Regnant.Proof.Backend.History

namespace Regnant.Backend
open CallTree

section
variable {ι : Type} {K V : ι → Type} {Body : Type} {s s' : Store ι K V} {c : ι}

structure Shape (ι : Type) (K V : ι → Type) where
  key : (c : ι) → V c → K c
  owner : (c : ι) → V c → Option (Sigma K)

variable (shape : Shape ι K V)

structure Shape.Sound (s : Store ι K V) : Prop where
  keyed : ∀ c, ∀ entry ∈ (s c).entries, shape.key c entry.2 = entry.1
  owned : ∀ c, ∀ entry ∈ (s c).entries, ∀ owner, shape.owner c entry.2 = some owner →
    owner.2 ∈ (s owner.1).keys

def Shape.Fits : Endpoint ι K V Body → Prop
  | .create c key value _ => shape.key c value = key ∧ shape.owner c value = none
  | .createIn parent id _ c key value _ =>
      shape.key c value = key ∧ shape.owner c value = some ⟨parent, id⟩
  | _ => True

def KeepsKeys (s s' : Store ι K V) : Prop :=
  ∀ c, ∀ key ∈ (s c).keys, key ∈ (s' c).keys

variable {shape}

theorem Shape.Sound.exists_owner (sound : shape.Sound s) {value : V c}
    (member : value ∈ (s c).values) {parent : ι} {id : K parent}
    (owns : shape.owner c value = some ⟨parent, id⟩) :
    ∃ owner ∈ (s parent).values, shape.key parent owner = id := by
  obtain ⟨entry, stored, rfl⟩ := List.mem_map.mp member
  obtain ⟨parent', stored', same⟩ := List.mem_map.mp (sound.owned c entry stored _ owns)
  exact ⟨parent'.2, List.mem_map_of_mem stored', (sound.keyed parent parent' stored').trans same⟩

variable [DecidableEq ι] [∀ c, DecidableEq (K c)]

theorem keepsKeys_set (s : Store ι K V) (c : ι) (key : K c) (value : V c) :
    KeepsKeys s (Function.update s c ((s c).set key value)) := by
  intro c' key' member
  by_cases same : c' = c
  · subst same
    rw [Function.update_self]
    exact Dictionary.mem_keys_set.mpr (.inr member)
  · rwa [Function.update_of_ne same]

theorem Shape.Sound.set (sound : shape.Sound s) {key : K c} {value : V c}
    (keyed : shape.key c value = key)
    (owned : ∀ owner, shape.owner c value = some owner → owner.2 ∈ (s owner.1).keys) :
    shape.Sound (Function.update s c ((s c).set key value)) := by
  have stored {c' : ι} {entry : K c' × V c'}
      (member : entry ∈ (Function.update s c ((s c).set key value) c').entries) :
      shape.key c' entry.2 = entry.1 ∧ ∀ owner, shape.owner c' entry.2 = some owner →
        owner.2 ∈ (s owner.1).keys := by
    by_cases same : c' = c
    · subst same
      rw [Function.update_self, Dictionary.set] at member
      rcases Collect.mem_assign.mp member with ⟨here, there⟩ | ⟨-, member⟩
      · rw [here, there]
        exact ⟨keyed, owned⟩
      · exact ⟨sound.keyed c' entry member, sound.owned c' entry member⟩
    · rw [Function.update_of_ne same] at member
      exact ⟨sound.keyed c' entry member, sound.owned c' entry member⟩
  exact ⟨fun c' entry member => (stored member).1, fun c' entry member owner owns =>
    keepsKeys_set s c key value _ _ ((stored member).2 owner owns)⟩

theorem upholds_reads {t : Handler ι K V Body}
    (reads : t.Calls fun call => ∀ s, (perform call s).2 = s) :
    t.Upholds perform KeepsKeys shape.Sound fun _ => True := by
  induction t with
  | call call k ih =>
      refine ⟨fun _ _ _ _ => trivial, fun s sound _ => ?_⟩
      rw [reads.1 s]
      exact ⟨sound, fun _ _ => id, _, trivial, ih _ (reads.2 _)⟩
  | _ => trivial

theorem calls_comprehension (keep : V c → Bool) (fuel : Nat) (it : Dictionary.Iterator)
    (kept : List (V c)) :
    (comprehension (K := K) c keep fuel it kept).Calls fun call => ∀ s, (perform call s).2 = s := by
  induction fuel generalizing it kept with
  | zero => trivial
  | succ fuel ih =>
      refine ⟨fun _ => rfl, fun r => ?_⟩
      match r with
      | .error _ => trivial
      | .ok none => trivial
      | .ok (some (value, it)) => exact ih it _

theorem upholds_set {key : K c} {value : V c} {body : Body} {known : Store ι K V → Prop}
    (keyed : shape.key c value = key) (stable : ∀ s s', known s → KeepsKeys s s' → known s')
    (owned : ∀ s, known s → ∀ owner, shape.owner c value = some owner →
      owner.2 ∈ (s owner.1).keys) :
    (Dictionaries.set c key value >>= fun _ => ret body : Handler ι K V Body).Upholds perform
      KeepsKeys shape.Sound known := by
  refine ⟨stable, fun s sound here => ⟨sound.set keyed (owned s here), keepsKeys_set s c key value,
    fun _ => True, trivial, trivial⟩⟩

theorem upholds_handler {e : Endpoint ι K V Body} (fits : shape.Fits e) :
    e.handler.Upholds perform KeepsKeys shape.Sound fun _ => True := by
  cases e with
  | list c body => exact upholds_reads (calls_bind (calls_invoke fun _ => rfl) fun _ => trivial)
  | listWhere c keep body =>
      refine upholds_reads (calls_bind (calls_invoke fun _ => rfl) fun it => ?_)
      exact calls_bind (calls_comprehension keep _ it []) fun _ => trivial
  | create c key value body =>
      refine upholds_set fits.1 (fun _ _ _ _ => trivial) fun _ _ owner owns => ?_
      rw [fits.2] at owns
      cases owns
  | createIn parent id detail c key value body =>
      refine ⟨fun _ _ _ _ => trivial, fun s sound _ => ⟨sound, fun _ _ member => member, ?_⟩⟩
      by_cases known : id ∈ (s parent).keys
      · have step : perform (Call.contains parent id) s = (.ok true, s) := by
          rw [perform, decide_eq_true known]
        rw [step]
        -- the parent is found, and no other thread removes it
        refine ⟨fun s => id ∈ (s parent).keys, known, upholds_set fits.1 ?_ ?_⟩
        · exact fun s s' here keeps => keeps parent id here
        · intro s here owner owns
          obtain rfl := Option.some.inj (fits.2.symm.trans owns)
          exact here
      · have step : perform (Call.contains parent id) s = (.ok false, s) := by
          rw [perform, decide_eq_false known]
        rw [step]
        exact ⟨fun _ => True, trivial, trivial⟩

theorem sound_after {Q ν : Type} [DecidableEq ν] {app : Q → Endpoint ι K V Body}
    (fits : ∀ asked, shape.Fits (app asked)) (turns : List (Pool.Turn ν Q)) :
    shape.Sound (after app turns).shared :=
  Pool.upheld_after (fun asked => upholds_handler (fits asked)) ⟨by simp [Dictionary.empty],
    by simp [Dictionary.empty]⟩ turns

end

theorem truthy_some {parameter : Option String} {given : String}
    (isTrue : truthy parameter = some given) : given ≠ "" := by
  obtain ⟨-, isTrue⟩ := Option.filter_eq_some_iff.mp isTrue
  simpa using isTrue

namespace Jira

def shape : Shape Kind (fun _ => String) Value where
  key
    | .projects, project => Project.id project
    | .issues, issue => Issue.id issue
    | .sprints, sprint => Sprint.id sprint
  owner
    | .issues, issue =>
        if Issue.projectId issue = "" then none else some ⟨.projects, Issue.projectId issue⟩
    | _, _ => none

theorem shape_fits (asked : Request) : shape.Fits (app asked) := by
  cases asked with
  | listIssues projectId =>
      simp only [app, listIssues]
      split <;> trivial
  | createIssue payload draws =>
      simp only [app, createIssue]
      split
      next projectId given => exact ⟨rfl, by simp [shape, given, truthy_some given]⟩
      next absent => exact ⟨rfl, by simp [shape, absent]⟩
  | createProject payload draws => exact ⟨rfl, rfl⟩
  | createSprint payload draws => exact ⟨rfl, rfl⟩
  | _ => trivial

end Jira

namespace Confluence

def shape : Shape Kind (fun _ => String) Value where
  key
    | .spaces, space => Space.id space
    | .pages, page => Page.id page
    | .labels, label => Label.id label
  owner
    | .pages, page => if Page.spaceId page = "" then none else some ⟨.spaces, Page.spaceId page⟩
    | _, _ => none

theorem shape_fits (asked : Request) : shape.Fits (app asked) := by
  cases asked with
  | listPages spaceId =>
      simp only [app, listPages]
      split <;> trivial
  | createPage payload draws =>
      simp only [app, createPage]
      split
      next spaceId given => exact ⟨rfl, by simp [shape, given, truthy_some given]⟩
      next absent => exact ⟨rfl, by simp [shape, absent]⟩
  | createSpace payload draws => exact ⟨rfl, rfl⟩
  | createLabel payload draws => exact ⟨rfl, rfl⟩
  | _ => trivial

end Confluence

namespace Bitbucket

def shape : Shape Kind Key Value where
  key
    | .repos, repo => Repo.id repo
    | .prs, pr => PullRequest.id pr
    | .branches, branch => (Branch.repoId branch, Branch.name branch)
  owner
    | .repos, _ => none
    | .prs, pr =>
        if PullRequest.repoId pr = "" then none else some ⟨.repos, PullRequest.repoId pr⟩
    | .branches, branch =>
        if Branch.repoId branch = "" then none else some ⟨.repos, Branch.repoId branch⟩

theorem shape_fits (asked : Request) : shape.Fits (app asked) := by
  cases asked with
  | listPullrequests repoId =>
      simp only [app, listPullrequests]
      split <;> trivial
  | listBranches repoId =>
      simp only [app, listBranches]
      split <;> trivial
  | createPullrequest payload draws =>
      simp only [app, createPullrequest]
      split
      next given => exact ⟨rfl, if_neg given⟩
      next absent => exact ⟨rfl, if_pos (not_not.mp absent)⟩
  | createBranch payload =>
      simp only [app, createBranch]
      split
      next given => exact ⟨rfl, if_neg given⟩
      next absent => exact ⟨rfl, if_pos (not_not.mp absent)⟩
  | createRepo payload draws => exact ⟨rfl, rfl⟩
  | listRepos => trivial

end Bitbucket

/-- At every moment of every run, between any two operations of any threads and whatever UUIDs are
drawn, the objects that others belong to are stored. -/
theorem parents_exist :
    (∀ turns : List (Pool.Turn Nat Jira.Request), let s := (after Jira.app turns).shared
      ∀ issue ∈ (s .issues).values, issue.projectId ≠ "" →
        ∃ project ∈ (s .projects).values, project.id = issue.projectId) ∧
    (∀ turns : List (Pool.Turn Nat Confluence.Request), let s := (after Confluence.app turns).shared
      ∀ page ∈ (s .pages).values, page.spaceId ≠ "" →
        ∃ space ∈ (s .spaces).values, space.id = page.spaceId) ∧
    ∀ turns : List (Pool.Turn Nat Bitbucket.Request), let s := (after Bitbucket.app turns).shared
      (∀ pr ∈ (s .prs).values, pr.repoId ≠ "" →
        ∃ repo ∈ (s .repos).values, repo.id = pr.repoId) ∧
      ∀ branch ∈ (s .branches).values, branch.repoId ≠ "" →
        ∃ repo ∈ (s .repos).values, repo.id = branch.repoId := by
  refine ⟨fun turns issue member given => ?_, fun turns page member given => ?_, fun turns =>
    ⟨fun pr member given => ?_, fun branch member given => ?_⟩⟩
  · exact (sound_after Jira.shape_fits turns).exists_owner member (if_neg given)
  · exact (sound_after Confluence.shape_fits turns).exists_owner member (if_neg given)
  · exact (sound_after Bitbucket.shape_fits turns).exists_owner member (if_neg given)
  · exact (sound_after Bitbucket.shape_fits turns).exists_owner member (if_neg given)

theorem lateIssue_parent :
    let s := (after Jira.app Jira.lateIssue).shared
    ∃ issue ∈ (s .issues).values, ∃ project ∈ (s .projects).values, project.id = issue.projectId :=
  ⟨⟨"i", "p", "untitled", "todo", "now"⟩, by decide,
    parents_exist.1 Jira.lateIssue _ (by decide) (by decide)⟩

end Regnant.Backend
