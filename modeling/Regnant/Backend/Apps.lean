import Mathlib.Data.Finmap
import Regnant.Backend.Endpoint

namespace Regnant.Backend

abbrev Payload :=
  Finmap fun _ : String => String

def Payload.get (payload : Payload) (key default : String) : String :=
  (payload.lookup key).getD default

structure Draws where
  uuid : String
  now : String

def truthy (parameter : Option String) : Option String :=
  parameter.filter (· ≠ "")

/-! ## Jira -/

namespace Jira

structure Project where
  id : String
  key : String
  name : String
  createdAt : String
  deriving DecidableEq

structure Issue where
  id : String
  projectId : String
  summary : String
  status : String
  createdAt : String
  deriving DecidableEq

structure Sprint where
  id : String
  projectId : String
  name : String
  state : String
  createdAt : String
  deriving DecidableEq

inductive Kind where
  | projects
  | issues
  | sprints
  deriving DecidableEq

abbrev Value : Kind → Type
  | .projects => Project
  | .issues => Issue
  | .sprints => Sprint

inductive Body where
  | project (project : Project)
  | projects (projects : List Project)
  | issue (issue : Issue)
  | issues (issues : List Issue)
  | sprint (sprint : Sprint)
  | sprints (sprints : List Sprint)
  deriving DecidableEq

abbrev Endpoint :=
  Backend.Endpoint Kind (fun _ => String) Value Body

def listProjects : Endpoint :=
  .list .projects .projects

def createProject (payload : Payload) (draws : Draws) : Endpoint :=
  let project : Project := {
    id := draws.uuid
    key := payload.get "key" "REG"
    name := payload.get "name" "Regnant Project"
    createdAt := draws.now }
  .create .projects project.id project (.project project)

def listIssues (projectId : Option String) : Endpoint :=
  match truthy projectId with
  | some projectId => .listWhere .issues (fun i : Issue => i.projectId = projectId) .issues
  | none => .list .issues .issues

def createIssue (payload : Payload) (draws : Draws) : Endpoint :=
  let projectId := payload.lookup "project_id"
  let issue : Issue := {
    id := draws.uuid
    projectId := (truthy projectId).getD ""
    summary := payload.get "summary" "untitled"
    status := payload.get "status" "todo"
    createdAt := draws.now }
  match truthy projectId with
  | some projectId =>
      .createIn .projects projectId "project not found" .issues issue.id issue (.issue issue)
  | none => .create .issues issue.id issue (.issue issue)

def listSprints : Endpoint :=
  .list .sprints .sprints

def createSprint (payload : Payload) (draws : Draws) : Endpoint :=
  let sprint : Sprint := {
    id := draws.uuid
    projectId := payload.get "project_id" ""
    name := payload.get "name" "Sprint"
    state := payload.get "state" "active"
    createdAt := draws.now }
  -- no project of the id needs to exist
  .create .sprints sprint.id sprint (.sprint sprint)

inductive Request where
  | listProjects
  | createProject (payload : Payload) (draws : Draws)
  | listIssues (projectId : Option String)
  | createIssue (payload : Payload) (draws : Draws)
  | listSprints
  | createSprint (payload : Payload) (draws : Draws)

def app : Request → Endpoint
  | .listProjects => listProjects
  | .createProject payload draws => createProject payload draws
  | .listIssues projectId => listIssues projectId
  | .createIssue payload draws => createIssue payload draws
  | .listSprints => listSprints
  | .createSprint payload draws => createSprint payload draws

end Jira

/-! ## Confluence -/

namespace Confluence

structure Space where
  id : String
  key : String
  name : String
  createdAt : String
  deriving DecidableEq

structure Page where
  id : String
  spaceId : String
  title : String
  content : String
  createdAt : String
  deriving DecidableEq

structure Label where
  id : String
  name : String
  color : String
  deriving DecidableEq

inductive Kind where
  | spaces
  | pages
  | labels
  deriving DecidableEq

abbrev Value : Kind → Type
  | .spaces => Space
  | .pages => Page
  | .labels => Label

inductive Body where
  | space (space : Space)
  | spaces (spaces : List Space)
  | page (page : Page)
  | pages (pages : List Page)
  | label (label : Label)
  | labels (labels : List Label)
  deriving DecidableEq

abbrev Endpoint :=
  Backend.Endpoint Kind (fun _ => String) Value Body

def listSpaces : Endpoint :=
  .list .spaces .spaces

def createSpace (payload : Payload) (draws : Draws) : Endpoint :=
  let space : Space := {
    id := draws.uuid
    key := payload.get "key" "REG"
    name := payload.get "name" "Regnant Space"
    createdAt := draws.now }
  .create .spaces space.id space (.space space)

def listPages (spaceId : Option String) : Endpoint :=
  match truthy spaceId with
  | some spaceId => .listWhere .pages (fun p : Page => p.spaceId = spaceId) .pages
  | none => .list .pages .pages

def createPage (payload : Payload) (draws : Draws) : Endpoint :=
  let spaceId := payload.lookup "space_id"
  let page : Page := {
    id := draws.uuid
    spaceId := (truthy spaceId).getD ""
    title := payload.get "title" "untitled"
    content := payload.get "content" ""
    createdAt := draws.now }
  match truthy spaceId with
  | some spaceId => .createIn .spaces spaceId "space not found" .pages page.id page (.page page)
  | none => .create .pages page.id page (.page page)

def listLabels : Endpoint :=
  .list .labels .labels

def createLabel (payload : Payload) (draws : Draws) : Endpoint :=
  let label : Label := {
    id := draws.uuid
    name := payload.get "name" "untitled"
    color := payload.get "color" "#888" }
  .create .labels label.id label (.label label)

inductive Request where
  | listSpaces
  | createSpace (payload : Payload) (draws : Draws)
  | listPages (spaceId : Option String)
  | createPage (payload : Payload) (draws : Draws)
  | listLabels
  | createLabel (payload : Payload) (draws : Draws)

def app : Request → Endpoint
  | .listSpaces => listSpaces
  | .createSpace payload draws => createSpace payload draws
  | .listPages spaceId => listPages spaceId
  | .createPage payload draws => createPage payload draws
  | .listLabels => listLabels
  | .createLabel payload draws => createLabel payload draws

end Confluence

/-! ## Bitbucket -/

namespace Bitbucket

structure Repo where
  id : String
  workspace : String
  slug : String
  defaultBranch : String
  createdAt : String
  deriving DecidableEq

structure PullRequest where
  id : String
  repoId : String
  title : String
  state : String
  sourceBranch : String
  targetBranch : String
  createdAt : String
  deriving DecidableEq

structure Branch where
  name : String
  repoId : String
  commitSha : String
  deriving DecidableEq

inductive Kind where
  | repos
  | prs
  | branches
  deriving DecidableEq

abbrev Key : Kind → Type
  | .repos => String
  | .prs => String
  | .branches => String × String

abbrev Value : Kind → Type
  | .repos => Repo
  | .prs => PullRequest
  | .branches => Branch

instance : ∀ kind, DecidableEq (Key kind)
  | .repos => inferInstanceAs (DecidableEq String)
  | .prs => inferInstanceAs (DecidableEq String)
  | .branches => inferInstanceAs (DecidableEq (String × String))

inductive Body where
  | repo (repo : Repo)
  | repos (repos : List Repo)
  | pr (pr : PullRequest)
  | prs (prs : List PullRequest)
  | branch (branch : Branch)
  | branches (branches : List Branch)
  deriving DecidableEq

abbrev Endpoint :=
  Backend.Endpoint Kind Key Value Body

def listRepos : Endpoint :=
  .list .repos .repos

def createRepo (payload : Payload) (draws : Draws) : Endpoint :=
  let repo : Repo := {
    id := draws.uuid
    workspace := payload.get "workspace" "regnant"
    slug := payload.get "slug" "repo"
    defaultBranch := payload.get "default_branch" "main"
    createdAt := draws.now }
  .create .repos repo.id repo (.repo repo)

def listPullrequests (repoId : Option String) : Endpoint :=
  match truthy repoId with
  | some repoId => .listWhere .prs (fun p : PullRequest => p.repoId = repoId) .prs
  | none => .list .prs .prs

def createPullrequest (payload : Payload) (draws : Draws) : Endpoint :=
  let repoId := payload.get "repo_id" ""
  let pr : PullRequest := {
    id := draws.uuid
    repoId := repoId
    title := payload.get "title" "untitled"
    state := payload.get "state" "open"
    sourceBranch := payload.get "source_branch" "feature"
    targetBranch := payload.get "target_branch" "main"
    createdAt := draws.now }
  if repoId ≠ "" then .createIn .repos repoId "repo not found" .prs pr.id pr (.pr pr)
  else .create .prs pr.id pr (.pr pr)

def listBranches (repoId : Option String) : Endpoint :=
  match truthy repoId with
  | some repoId => .listWhere .branches (fun b : Branch => b.repoId = repoId) .branches
  | none => .list .branches .branches

def createBranch (payload : Payload) : Endpoint :=
  let repoId := payload.get "repo_id" ""
  let branch : Branch := {
    name := payload.get "name" "main"
    repoId := repoId
    commitSha := payload.get "commit_sha" "0000000" }
  if repoId ≠ "" then
    .createIn .repos repoId "repo not found" .branches (repoId, branch.name) branch (.branch branch)
  else .create .branches (repoId, branch.name) branch (.branch branch)

inductive Request where
  | listRepos
  | createRepo (payload : Payload) (draws : Draws)
  | listPullrequests (repoId : Option String)
  | createPullrequest (payload : Payload) (draws : Draws)
  | listBranches (repoId : Option String)
  | createBranch (payload : Payload)

def app : Request → Endpoint
  | .listRepos => listRepos
  | .createRepo payload draws => createRepo payload draws
  | .listPullrequests repoId => listPullrequests repoId
  | .createPullrequest payload draws => createPullrequest payload draws
  | .listBranches repoId => listBranches repoId
  | .createBranch payload => createBranch payload

end Bitbucket

end Regnant.Backend
