import Regnant.Backend.Endpoint
import Regnant.Lib.Serial

namespace Regnant.Backend
open CallTree

theorem kept_append {ν : Type} {keep : ν → Bool} {values : List ν} {n : Nat}
    (inside : n < values.length) :
    (if keep values[n] then (values.take n).filter keep ++ [values[n]]
      else (values.take n).filter keep) = (values.take (n + 1)).filter keep := by
  rw [List.take_succ_eq_append_getElem inside, List.filter_append]
  cases keeps : keep values[n] <;> simp [keeps]

variable {ι : Type} {K V : ι → Type} {Body : Type}

namespace Endpoint

def own : Endpoint ι K V Body → Option (Sigma K)
  | .list _ _ => none
  | .listWhere _ _ _ => none
  | .create c key _ _ => some ⟨c, key⟩
  | .createIn _ _ _ c key _ _ => some ⟨c, key⟩

def watches : Endpoint ι K V Body → Option ι
  | .listWhere c _ _ => some c
  | _ => none

/-- What others may do: no keys are removed, none is set in place under an iterator, and a key that
was drawn is not used by them. -/
structure Rely (drawn : ι → Prop) (e : Endpoint ι K V Body) (s s' : Store ι K V) : Prop where
  keys : ∀ c, ∀ key ∈ (s c).keys, key ∈ (s' c).keys
  watched : ∀ c, e.watches = some c → (s c).Grows (s' c)
  unused : ∀ c key, drawn c → e.own = some ⟨c, key⟩ → key ∉ (s c).keys → key ∉ (s' c).keys

def New (drawn : ι → Prop) (e : Endpoint ι K V Body) (s : Store ι K V) : Prop :=
  ∀ c key, drawn c → e.own = some ⟨c, key⟩ → key ∉ (s c).keys

def Distinct (drawn : ι → Prop) (e e' : Endpoint ι K V Body) : Prop :=
  ∀ c key, drawn c → e.own = some ⟨c, key⟩ → e'.own ≠ some ⟨c, key⟩

/-- None of the endpoints iterates over a dictionary where the other one may replace a value. -/
structure Apart (drawn : ι → Prop) (e e' : Endpoint ι K V Body) : Prop where
  watched : ∀ c key, ¬drawn c → e.own = some ⟨c, key⟩ → e'.watches ≠ some c
  watches : ∀ c key, ¬drawn c → e'.own = some ⟨c, key⟩ → e.watches ≠ some c

variable {drawn : ι → Prop} {e e' : Endpoint ι K V Body}

theorem Distinct.symm (distinct : e.Distinct drawn e') : e'.Distinct drawn e :=
  fun c key isDrawn own' own => distinct c key isDrawn own own'

theorem Apart.symm (apart : e.Apart drawn e') : e'.Apart drawn e where
  watched := apart.watches
  watches := apart.watched

theorem apart_of_drawn (e e' : Endpoint ι K V Body) : e.Apart (fun _ => True) e' where
  watched _ _ undrawn := absurd trivial undrawn
  watches _ _ undrawn := absurd trivial undrawn

theorem Rely.refl (drawn : ι → Prop) (e : Endpoint ι K V Body) (s : Store ι K V) :
    e.Rely drawn s s :=
  ⟨fun _ _ => id, fun _ _ => .refl _, fun _ _ _ _ => id⟩

def Aborts (e : Endpoint ι K V Body) (failure : Exn) : Prop :=
  failure = changedSize ∧ e.watches ≠ none

abbrev Guarantee (drawn : ι → Prop) : Endpoint ι K V Body → Store ι K V → Store ι K V → Prop :=
  Pool.Guarantee (Rely drawn) (New drawn) (Distinct drawn) (Apart drawn)

theorem guarantee_refl (e : Endpoint ι K V Body) (s : Store ι K V) : e.Guarantee drawn s s :=
  fun e' _ => ⟨id, fun _ => .refl drawn e' s⟩

theorem New.stable {s s' : Store ι K V} (new : e.New drawn s) (rely : e.Rely drawn s s') :
    e.New drawn s' :=
  fun c key isDrawn own => rely.unused c key isDrawn own (new c key isDrawn own)

end Endpoint

variable [DecidableEq ι] [∀ c, DecidableEq (K c)] {s : Store ι K V} {c : ι} {keep : V c → Bool}
  {kept : List (V c)} {it : Dictionary.Iterator}

@[simp] theorem run_contains (c : ι) (key : K c) (s : Store ι K V) :
    run perform (Dictionaries.contains c key) s = (.ok (decide (key ∈ (s c).keys)), s) := rfl

@[simp] theorem run_values (c : ι) (s : Store ι K V) :
    run perform (Dictionaries.values c) s = (.ok (s c).values, s) := rfl

@[simp] theorem run_iter (c : ι) (s : Store ι K V) :
    run perform (Dictionaries.iter c) s = (.ok (s c).iter, s) := rfl

@[simp] theorem run_set (c : ι) (key : K c) (value : V c) (s : Store ι K V) :
    run perform (Dictionaries.set c key value) s =
      (.ok (), Function.update s c ((s c).set key value)) := rfl

theorem perform_next_inside (same : it.used = (s c).size)
    (inside : it.position < (s c).values.length) :
    perform (Call.next c it) s =
      (.ok (some ((s c).values[it.position], ⟨it.used, it.position + 1⟩)), s) := by
  rw [perform, Dictionary.next_inside same inside]
  rfl

theorem perform_next_end (same : it.used = (s c).size)
    (outside : (s c).values.length ≤ it.position) : perform (Call.next c it) s = (.ok none, s) := by
  rw [perform, Dictionary.next_end same outside]
  rfl

theorem perform_next_changed (changed : it.used ≠ (s c).size) :
    perform (Call.next c it) s = (.error changedSize, s) := by
  rw [perform, Dictionary.next_changed changed]
  rfl

theorem run_comprehension {fuel : Nat} (same : it.used = (s c).size)
    (begun : kept = ((s c).values.take it.position).filter keep)
    (enough : (s c).values.length < it.position + fuel) :
    run perform (comprehension c keep fuel it kept) s = (.ok ((s c).values.filter keep), s) := by
  induction fuel generalizing it kept with
  | zero =>
      rw [begun, List.take_of_length_le (by omega)]
      rfl
  | succ fuel ih =>
      rcases Nat.lt_or_ge it.position (s c).values.length with inside | outside
      · rw [comprehension, run_call, perform_next_inside same inside]
        refine ih same ?_ (by simp only; omega)
        rw [begun, kept_append inside]
      · rw [comprehension, run_call, perform_next_end same outside, begun,
          List.take_of_length_le outside]
        rfl

theorem run_handler (e : Endpoint ι K V Body) (s : Store ι K V) :
    run perform e.handler s = e.serve s := by
  cases e with
  | list c body => simp [Endpoint.handler, Endpoint.serve]
  | create c key value body => simp [Endpoint.handler, Endpoint.serve]
  | createIn parent id detail c key value body =>
      by_cases known : id ∈ (s parent).keys <;> simp [Endpoint.handler, Endpoint.serve, known]
  | listWhere c keep body =>
      have whole : run perform (comprehension c keep ((s c).iter.used + 1) (s c).iter []) s =
          (.ok ((s c).values.filter keep), s) :=
        run_comprehension rfl rfl (by simp [Dictionary.iter])
      simp [Endpoint.handler, Endpoint.serve, whole]

namespace Endpoint
variable {drawn : ι → Prop} {e e' : Endpoint ι K V Body}

theorem Distinct.new_set {c' : ι} {key : K c} {key' : K c'} (distinct : e.Distinct drawn e')
    (own : e.own = some ⟨c, key⟩) (value : V c) (isDrawn : drawn c')
    (own' : e'.own = some ⟨c', key'⟩) (absent : key' ∉ (s c').keys) :
    key' ∉ (Function.update s c ((s c).set key value) c').keys := by
  by_cases same : c' = c
  · subst same
    rw [Function.update_self, Dictionary.mem_keys_set]
    rintro (rfl | member)
    · exact distinct c' key' isDrawn own own'
    · exact absent member
  · rwa [Function.update_of_ne same]

theorem Apart.rely_set {key : K c} (apart : e.Apart drawn e') (distinct : e.Distinct drawn e')
    (own : e.own = some ⟨c, key⟩) (new : e.New drawn s) (value : V c) :
    e'.Rely drawn s (Function.update s c ((s c).set key value)) where
  keys := by
    intro c' key' member
    by_cases same : c' = c
    · subst same
      rw [Function.update_self]
      exact Dictionary.mem_keys_set.mpr (.inr member)
    · rwa [Function.update_of_ne same]
  watched := by
    intro c' watches
    by_cases same : c' = c
    · subst same
      rw [Function.update_self]
      by_cases isDrawn : drawn c'
      · exact Dictionary.grows_set (new c' key isDrawn own) value
      · exact absurd watches (apart.watched c' key isDrawn own)
    · rw [Function.update_of_ne same]
      exact .refl _
  unused _ _ isDrawn own' absent := distinct.new_set own value isDrawn own' absent

theorem guarantee_set {key : K c} (own : e.own = some ⟨c, key⟩) (new : e.New drawn s)
    (value : V c) : e.Guarantee drawn s (Function.update s c ((s c).set key value)) := by
  intro e' distinct
  constructor
  · intro new' c' key' isDrawn own'
    exact distinct.new_set own value isDrawn own' (new' c' key' isDrawn own')
  · exact fun apart => apart.rely_set distinct own new value

abbrev Commits (drawn : ι → Prop) (e : Endpoint ι K V Body) :
    Handler ι K V Body → (Store ι K V → Prop) → Prop :=
  CallTree.Commits perform (e.Rely drawn) (e.Guarantee drawn) e.Aborts e.handler

theorem commits_comprehension {body : List (V c) → Body} {d : Dictionary (K c) (V c)} {fuel : Nat}
    (same : it.used = d.size) (begun : kept = (d.values.take it.position).filter keep)
    (enough : it.position + fuel = d.values.length) :
    Commits drawn (.listWhere c keep body)
      (comprehension c keep (fuel + 1) it kept >>= fun kept => ret (body kept))
      fun s => d.Grows (s c) := by
  induction fuel generalizing it kept with
  | zero =>
      refine Commits.call (fun s s' known rely => known.trans (rely.watched c rfl))
        fun s known => ?_
      by_cases size : it.used = (s c).size
      · obtain rfl := known.eq_of_size (same.symm.trans size)
        rw [perform_next_end same (by omega)]
        refine .last (x := .ok (body kept)) rfl (guarantee_refl _ s) ?_
        rw [run_handler, begun, List.take_of_length_le (by omega)]
        rfl
      · rw [perform_next_changed size]
        exact .aborted rfl ⟨rfl, by simp [watches]⟩ rfl (guarantee_refl _ s)
  | succ fuel ih =>
      refine Commits.call (fun s s' known rely => known.trans (rely.watched c rfl))
        fun s known => ?_
      by_cases size : it.used = (s c).size
      · obtain rfl := known.eq_of_size (same.symm.trans size)
        have inside : it.position < (s c).values.length := by omega
        rw [perform_next_inside same inside]
        refine .next rfl rfl known (ih same ?_ (by simp only; omega))
        rw [begun, kept_append inside]
      · rw [perform_next_changed size]
        exact .aborted rfl ⟨rfl, by simp [watches]⟩ rfl (guarantee_refl _ s)

theorem commits_set {key : K c} {value : V c} {body : Body} {known : Store ι K V → Prop}
    (own : e.own = some ⟨c, key⟩) (new : ∀ s, known s → e.New drawn s)
    (stable : ∀ s s', known s → e.Rely drawn s s' → known s')
    (serves : ∀ s, known s →
      e.serve s = (.ok body, Function.update s c ((s c).set key value))) :
    Commits drawn e (Dictionaries.set c key value >>= fun _ => ret body) known := by
  refine Commits.call stable fun s here => ?_
  refine .last (x := .ok body) rfl (guarantee_set own (new s here) value) ?_
  rw [run_handler, serves s here]
  rfl

theorem commits (drawn : ι → Prop) (e : Endpoint ι K V Body) :
    Commits drawn e e.handler (e.New drawn) := by
  cases e with
  | list c body =>
      refine Commits.call (fun s s' new rely => new.stable rely) fun s _ => ?_
      exact .last (x := .ok (body (s c).values)) rfl (guarantee_refl _ s) (run_handler _ s)
  | listWhere c keep body =>
      refine Commits.call (fun s s' new rely => new.stable rely) fun s _ => ?_
      exact .next rfl rfl (.refl _)
        (commits_comprehension rfl rfl (by simp [Dictionary.iter]))
  | create c key value body =>
      exact commits_set rfl (fun _ new => new) (fun _ _ new rely => new.stable rely) fun _ _ => rfl
  | createIn parent id detail c key value body =>
      refine Commits.call (fun s s' new rely => new.stable rely) fun s new => ?_
      by_cases known : id ∈ (s parent).keys
      · have step : perform (Call.contains parent id) s = (.ok true, s) := by
          rw [perform, decide_eq_true known]
        rw [step]
        -- keys are never removed, so the parent is still known when the object is stored
        let K (s : Store ι K V) : Prop := New drawn
          (.createIn parent id detail c key value body) s ∧ id ∈ (s parent).keys
        have here : K s := ⟨new, known⟩
        refine .next rfl rfl here (commits_set rfl (fun _ here => here.1) ?_ ?_)
        · exact fun s s' here rely => ⟨here.1.stable rely, rely.keys parent id here.2⟩
        · exact fun s here => if_pos here.2
      · have step : perform (Call.contains parent id) s = (.ok false, s) := by
          rw [perform, decide_eq_false known]
        rw [step]
        refine .last (x := .error (.httpException 404 detail)) rfl (guarantee_refl _ s) ?_
        rw [run_handler]
        exact if_neg known

end Endpoint

def discipline {Q : Type} (app : Q → Endpoint ι K V Body) (drawn : ι → Prop) :
    Pool.Discipline perform (fun asked => (app asked).handler) fun asked => (app asked).Aborts where
  rely asked := (app asked).Rely drawn
  knows asked := (app asked).New drawn
  distinct asked asked' := (app asked).Distinct drawn (app asked')
  apart asked asked' := (app asked).Apart drawn (app asked')
  distinct_symm _ _ distinct := distinct.symm
  apart_symm _ _ apart := apart.symm
  stable _ _ _ new rely := new.stable rely
  commits asked := by
    refine CallTree.Commits.mono (fun s s' guarantee asked' distinct => ?_)
      (Endpoint.commits drawn (app asked))
    exact guarantee (app asked') distinct

end Regnant.Backend
