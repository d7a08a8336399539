import Regnant.Lib.CallTree
import Regnant.Lib.Collect

/-!
# Reading a paged listing

A listing is asked for page by page, each with the token that came with the one before. Every name
of a page is loaded before the next page is asked for. The loop has no bound of its own, so it takes
a number of pages after which it is given up.
-/

namespace Paging
open CallTree
variable {C : Type} {R : C → Type} {E ρ τ ν κ α σ : Type}

structure Reader (C : Type) (R : C → Type) (E ρ τ ν κ α : Type) where
  list : Option τ → CallTree C R E ρ
  names : ρ → List ν
  next : ρ → Option (Option τ)
  load : ν → CallTree C R E (Option (κ × α))

namespace Reader
section
variable (r : Reader C R E ρ τ ν κ α) [DecidableEq κ]

def visit : List ν → List (κ × α) → CallTree C R E (List (κ × α))
  | [], entries => pure entries
  | name :: names, entries => do
      match ← r.load name with
      | some (key, a) => visit names (Collect.assign entries key a)
      | none => visit names entries

def walk : Nat → Option τ → List (κ × α) → CallTree C R E (Option (List (κ × α)))
  | 0, _, _ => pure none
  | n + 1, token, entries => do
      let response ← r.list token
      let entries ← r.visit (r.names response) entries
      match r.next response with
      | none => return some entries
      | some token => walk n token entries

end

theorem calls_visit {P : C → Prop} {r : Reader C R E ρ τ ν κ α} [DecidableEq κ]
    (load : ∀ name, (r.load name).Calls P) (names : List ν) (entries : List (κ × α)) :
    (r.visit names entries).Calls P := by
  induction names generalizing entries with
  | nil => trivial
  | cons name names ih =>
      refine calls_bind (load name) fun entry => ?_
      cases entry with
      | none => exact ih entries
      | some entry => exact ih _

theorem calls_walk {P : C → Prop} {r : Reader C R E ρ τ ν κ α} [DecidableEq κ]
    (list : ∀ token, (r.list token).Calls P) (load : ∀ name, (r.load name).Calls P) (n : Nat)
    (token : Option τ) (entries : List (κ × α)) : (r.walk n token entries).Calls P := by
  induction n generalizing token entries with
  | zero => trivial
  | succ n ih =>
      refine calls_bind (list token) fun response =>
        calls_bind (calls_visit load _ entries) fun entries => ?_
      cases r.next response with
      | none => trivial
      | some token => exact ih token entries

section
variable (r : Reader C R E ρ τ ν κ α) (p : (c : C) → σ → Except E (R c) × σ)

inductive Loads : List ν → σ → List (Option (κ × α)) → σ → Prop where
  | nil {s : σ} : Loads [] s [] s
  | cons {name : ν} {names : List ν} {s s' s'' : σ} {loaded : Option (κ × α)}
      {rest : List (Option (κ × α))} (load : run p (r.load name) s = (.ok loaded, s'))
      (loads : Loads names s' rest s'') : Loads (name :: names) s (loaded :: rest) s''

/-- A listing from the page of the token to the last one, with these responses and with these
results for the names on them. -/
inductive Listing : Option τ → σ → List ρ → List (Option (κ × α)) → σ → Prop where
  | last {token : Option τ} {response : ρ} {s s' s'' : σ} {loaded : List (Option (κ × α))}
      (list : run p (r.list token) s = (.ok response, s'))
      (loads : Loads r p (r.names response) s' loaded s'') (ends : r.next response = none) :
      Listing token s [response] loaded s''
  | more {token token' : Option τ} {response : ρ} {responses : List ρ} {s s' s'' s''' : σ}
      {loaded rest : List (Option (κ × α))} (list : run p (r.list token) s = (.ok response, s'))
      (loads : Loads r p (r.names response) s' loaded s'') (next : r.next response = some token')
      (listing : Listing token' s'' responses rest s''') :
      Listing token s (response :: responses) (loaded ++ rest) s'''

end

def gather [DecidableEq κ] (entries : List (κ × α)) (loaded : List (Option (κ × α))) :
    List (κ × α) :=
  (loaded.filterMap id).foldl (fun entries entry => Collect.assign entries entry.1 entry.2) entries

variable {r : Reader C R E ρ τ ν κ α} {p : (c : C) → σ → Except E (R c) × σ} [DecidableEq κ]
  {names : List ν} {entries entries' : List (κ × α)} {token : Option τ} {s s' : σ} {n : Nat}

theorem loads_of_visit (ran : run p (r.visit names entries) s = (.ok entries', s')) :
    ∃ loaded, Loads r p names s loaded s' ∧ entries' = gather entries loaded := by
  induction names generalizing entries s with
  | nil =>
      obtain ⟨rfl, rfl⟩ : entries = entries' ∧ s = s' := by simpa [visit] using ran
      exact ⟨[], .nil, rfl⟩
  | cons name names ih =>
      obtain ⟨entry, s₁, load, ran⟩ := (run_bind_eq_ok p).mp ran
      cases entry with
      | none =>
          obtain ⟨loaded, loads, rfl⟩ := ih ran
          exact ⟨none :: loaded, .cons load loads, rfl⟩
      | some entry =>
          obtain ⟨loaded, loads, rfl⟩ := ih ran
          exact ⟨some entry :: loaded, .cons load loads, rfl⟩

theorem gather_append (loaded loaded' : List (Option (κ × α))) :
    gather entries (loaded ++ loaded') = gather (gather entries loaded) loaded' := by
  rw [gather, List.filterMap_append, List.foldl_append]
  rfl

theorem listing_of_walk (ran : run p (r.walk n token entries) s = (.ok (some entries'), s')) :
    ∃ responses loaded, Listing r p token s responses loaded s' ∧
      entries' = gather entries loaded := by
  induction n generalizing token entries s with
  | zero => cases ran
  | succ n ih =>
      obtain ⟨response, s₁, list, ran⟩ := (run_bind_eq_ok p).mp ran
      obtain ⟨visited, s₂, visit, ran⟩ := (run_bind_eq_ok p).mp ran
      obtain ⟨loaded, loads, rfl⟩ := loads_of_visit visit
      cases next : r.next response with
      | none =>
          rw [next] at ran
          obtain ⟨rfl, rfl⟩ : gather entries loaded = entries' ∧ s₂ = s' := by simpa using ran
          exact ⟨[response], loaded, .last list loads next, rfl⟩
      | some token' =>
          rw [next] at ran
          obtain ⟨responses, rest, listing, rfl⟩ := ih ran
          exact ⟨response :: responses, loaded ++ rest, .more list loads next listing,
            (gather_append loaded rest).symm⟩

structure Static (r : Reader C R E ρ τ ν κ α) (p : (c : C) → σ → Except E (R c) × σ)
    (respond : Option τ → ρ) (load : ν → Except E (Option (κ × α))) : Prop where
  list : ∀ token s, run p (r.list token) s = (.ok (respond token), s)
  load : ∀ name s, run p (r.load name) s = (load name, s)

inductive Pages (r : Reader C R E ρ τ ν κ α) (respond : Option τ → ρ) :
    Option τ → List (List ν) → Prop where
  | last {token : Option τ} (ends : r.next (respond token) = none) :
      Pages r respond token [r.names (respond token)]
  | more {token token' : Option τ} {pages : List (List ν)}
      (next : r.next (respond token) = some token') (rest : Pages r respond token' pages) :
      Pages r respond token (r.names (respond token) :: pages)

variable {respond : Option τ → ρ} {load : ν → Except E (Option (κ × α))} {pages : List (List ν)}

theorem Static.run_visit (static : Static r p respond load) :
    run p (r.visit names entries) s = (names.foldlM (Collect.store load) entries, s) := by
  induction names generalizing entries with
  | nil => rfl
  | cons name names ih =>
      rw [visit, run_bind, static.load, List.foldlM_cons, Collect.store]
      cases load name with
      | error e => rfl
      | ok entry => cases entry <;> exact ih

theorem Static.run_walk (static : Static r p respond load) (listed : Pages r respond token pages)
    (enough : pages.length ≤ n) :
    run p (r.walk n token entries) s =
      ((pages.foldlM (fun entries page => List.foldlM (Collect.store load) entries page)
        entries).map some, s) := by
  induction listed generalizing entries n with
  | last ends =>
      obtain ⟨n, rfl⟩ := Nat.exists_eq_succ_of_ne_zero (Nat.one_le_iff_ne_zero.mp enough)
      rw [walk, run_bind, static.list]
      dsimp only
      rw [run_bind, static.run_visit, List.foldlM_cons]
      cases (r.names _).foldlM (Collect.store load) entries with
      | error e => rfl
      | ok visited =>
          dsimp only
          rw [ends]
          rfl
  | @more token token' pages next rest ih =>
      obtain ⟨n, rfl⟩ := Nat.exists_eq_succ_of_ne_zero
        (Nat.ne_of_gt (Nat.lt_of_lt_of_le (Nat.succ_pos _) enough))
      rw [walk, run_bind, static.list]
      dsimp only
      rw [run_bind, static.run_visit, List.foldlM_cons]
      cases (r.names (respond token)).foldlM (Collect.store load) entries with
      | error e => rfl
      | ok visited =>
          dsimp only
          rw [next]
          exact ih (Nat.le_of_succ_le_succ enough)

def listings (lists : C → Bool) (log : List ((c : C) × Except E (R c))) : Nat :=
  log.countP fun entry => lists entry.1

structure Lists (r : Reader C R E ρ τ ν κ α) (lists : C → Bool) : Prop where
  list : ∀ token (p : (c : C) → σ → Except E (R c) × σ) s,
    listings lists (log p (r.list token) s) = 1
  load : ∀ name (p : (c : C) → σ → Except E (R c) × σ) s,
    listings lists (log p (r.load name) s) = 0

theorem listings_append (lists : C → Bool) (log log' : List ((c : C) × Except E (R c))) :
    listings lists (log ++ log') = listings lists log + listings lists log' :=
  List.countP_append

theorem listings_eq_zero {β : Type} {lists : C → Bool} {t : CallTree C R E β}
    (calls : t.Calls fun c => lists c = false) : listings lists (log p t s) = 0 := by
  rw [listings, List.countP_eq_zero]
  intro entry here
  simp [log_calls p calls entry here]

theorem listings_visit {lists : C → Bool} (counts : Lists (σ := σ) r lists) :
    listings lists (log p (r.visit names entries) s) = 0 := by
  induction names generalizing entries s with
  | nil => rfl
  | cons name names ih =>
      rw [visit, log_bind, listings_append, counts.load, Nat.zero_add]
      cases run p (r.load name) s with
      | mk result s' =>
          cases result with
          | error e => rfl
          | ok entry => cases entry <;> exact ih

theorem Static.listings_walk {lists : C → Bool} (static : Static r p respond load)
    (counts : Lists (σ := σ) r lists) (listed : Pages r respond token pages)
    (enough : pages.length ≤ n)
    (collected : (run p (r.walk n token entries) s).1 = .ok (some entries')) :
    listings lists (log p (r.walk n token entries) s) = pages.length := by
  induction listed generalizing entries n with
  | last ends =>
      obtain ⟨n, rfl⟩ := Nat.exists_eq_succ_of_ne_zero (Nat.one_le_iff_ne_zero.mp enough)
      obtain ⟨response, s₁, list, ran, split⟩ := run_bind_ok p collected
      rw [static.list] at list
      cases list
      obtain ⟨visited, s₂, -, ran, split'⟩ := run_bind_ok p ran
      rw [walk, split, split', listings_append, listings_append, counts.list,
        listings_visit counts, ends]
      rfl
  | @more token token' pages next rest ih =>
      obtain ⟨n, rfl⟩ := Nat.exists_eq_succ_of_ne_zero
        (Nat.ne_of_gt (Nat.lt_of_lt_of_le (Nat.succ_pos _) enough))
      obtain ⟨response, s₁, list, ran, split⟩ := run_bind_ok p collected
      rw [static.list] at list
      cases list
      obtain ⟨visited, s₂, visit, ran, split'⟩ := run_bind_ok p ran
      rw [static.run_visit] at visit
      obtain rfl : s = s₂ := (Prod.mk.inj visit).2
      rw [next] at ran
      rw [walk, split, split', listings_append, listings_append, counts.list,
        listings_visit counts, next]
      dsimp only
      rw [ih (Nat.le_of_succ_le_succ enough) ran, List.length_cons]
      omega

end Reader

end Paging
