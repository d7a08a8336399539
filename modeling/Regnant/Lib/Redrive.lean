import Mathlib.Algebra.Order.Group.Multiset
import Mathlib.Data.List.Perm.Basic
import Mathlib.Tactic.Abel
import Regnant.Lib.Ledger

/-!
# Queues with a redrive limit

A message waits, is received, and comes back until a handling of it succeeds; once it was received
`limit` times the next receive puts it aside. No message is lost or doubled, every message that was
put aside has failed `limit` times, and the receives are bounded by the messages that were sent.
-/

namespace Redrive

/-- The messages that were not received yet, those that came back with the number of their receives,
those that were put aside, those that are done, and all handlings. -/
@[ext] structure Queue (α : Type*) where
  waiting : List α := []
  returned : List (α × Nat) := []
  dead : List α := []
  done : List α := []
  handled : List α := []

inductive Move (α : Type*) where
  | send (messages : List α)
  | first (ok : Bool)
  | again (k : Nat) (ok : Bool)

variable {α : Type*}

def Move.sent : Move α → Multiset α
  | .send messages => messages
  | _ => 0

@[simp] theorem Move.sent_first (ok : Bool) : (Move.first ok : Move α).sent = 0 := rfl

@[simp] theorem Move.sent_again (k : Nat) (ok : Bool) : (Move.again k ok : Move α).sent = 0 := rfl

namespace Queue

def settle (q : Queue α) (a : α) (n : Nat) : Bool → Queue α
  | true => { q with done := a :: q.done, handled := q.handled ++ [a] }
  | false => { q with returned := q.returned ++ [(a, n)], handled := q.handled ++ [a] }

def step (limit : Nat) (q : Queue α) : Move α → Queue α
  | .send messages => { q with waiting := q.waiting ++ messages }
  | .first ok =>
      match q.waiting with
      | [] => q
      | a :: rest => { q with waiting := rest }.settle a 1 ok
  | .again k ok =>
      match q.returned[k]? with
      | none => q
      | some (a, n) =>
          if n < limit then { q with returned := q.returned.eraseIdx k }.settle a (n + 1) ok
          else { q with returned := q.returned.eraseIdx k, dead := q.dead ++ [a] }

def messages (q : Queue α) : Multiset α :=
  q.waiting + q.returned.map (·.1) + q.dead + q.done

def potential (limit : Nat) (q : Queue α) : Nat :=
  (limit + 1) * q.waiting.length + (q.returned.map fun r => limit - r.2 + 1).sum

def receives (q : Queue α) : Move α → Nat
  | .send _ => 0
  | .first _ => if q.waiting = [] then 0 else 1
  | .again k _ => if k < q.returned.length then 1 else 0

inductive Taken (q : Queue α) (a : α) : Nat → Queue α → Prop where
  | first {rest : List α} (head : q.waiting = a :: rest) : Taken q a 0 { q with waiting := rest }
  | again {k n : Nat} (found : q.returned[k]? = some (a, n)) :
      Taken q a n { q with returned := q.returned.eraseIdx k }

inductive Stepped (limit : Nat) (q : Queue α) : Move α → Queue α → Prop where
  | sent (messages : List α) :
      Stepped limit q (.send messages) { q with waiting := q.waiting ++ messages }
  | idle {m : Move α} (sent : m.sent = 0) (receives : q.receives m = 0) : Stepped limit q m q
  | handled {m : Move α} {a : α} {n : Nat} {q' : Queue α} (sent : m.sent = 0)
      (receives : q.receives m = 1) (taken : q.Taken a n q') (few : n = 0 ∨ n < limit)
      (ok : Bool) : Stepped limit q m (q'.settle a (n + 1) ok)
  | moved {m : Move α} {a : α} {k n : Nat} (sent : m.sent = 0) (receives : q.receives m = 1)
      (found : q.returned[k]? = some (a, n)) (spent : limit ≤ n) :
      Stepped limit q m { q with returned := q.returned.eraseIdx k, dead := q.dead ++ [a] }

variable {limit : Nat} {q q' : Queue α} {a : α} {n k : Nat} {ok : Bool} {m : Move α}

theorem stepped (limit : Nat) (q : Queue α) (m : Move α) : q.Stepped limit m (q.step limit m) := by
  cases m with
  | send messages => exact .sent messages
  | first ok =>
      cases head : q.waiting with
      | nil =>
          have same : q.step limit (.first ok) = q := by rw [step, head]
          rw [same]
          exact .idle rfl (by simp [receives, head])
      | cons a rest =>
          have same : q.step limit (.first ok) = { q with waiting := rest }.settle a 1 ok := by
            rw [step, head]
          rw [same]
          exact .handled rfl (by simp [receives, head]) (.first head) (.inl rfl) ok
  | again k ok =>
      cases found : q.returned[k]? with
      | none =>
          have same : q.step limit (.again k ok) = q := by rw [step, found]
          rw [same]
          exact .idle rfl (by simpa [receives] using found)
      | some r =>
          obtain ⟨a, n⟩ := r
          have receives : q.receives (.again k ok) = 1 :=
            if_pos (List.getElem?_eq_some_iff.mp found).1
          by_cases few : n < limit
          · have same : q.step limit (.again k ok) =
                { q with returned := q.returned.eraseIdx k }.settle a (n + 1) ok := by
              rw [step, found]
              exact if_pos few
            rw [same]
            exact .handled rfl receives (.again found) (.inr few) ok
          · have same : q.step limit (.again k ok) =
                { q with returned := q.returned.eraseIdx k, dead := q.dead ++ [a] } := by
              rw [step, found]
              exact if_neg few
            rw [same]
            exact .moved rfl receives found (Nat.not_lt.mp few)

/-! ## Conservation -/

theorem mem_messages :
    a ∈ q.messages ↔ a ∈ q.waiting ∨ (∃ n, (a, n) ∈ q.returned) ∨ a ∈ q.dead ∨ a ∈ q.done := by
  simp [messages]

theorem messages_settle (q : Queue α) (a : α) (n : Nat) (ok : Bool) :
    (q.settle a n ok).messages = a ::ₘ q.messages := by
  cases ok with
  | true =>
      simp only [settle, messages, ← Multiset.cons_coe, ← Multiset.singleton_add]
      abel
  | false =>
      simp only [settle, messages, List.map_append, List.map_cons, List.map_nil,
        ← Multiset.coe_add, ← Multiset.singleton_add, Multiset.coe_singleton]
      abel

theorem erase_perm {returned : List (α × Nat)} (found : returned[k]? = some (a, n)) :
    ((a, n) :: returned.eraseIdx k).Perm returned := by
  obtain ⟨inside, here⟩ := List.getElem?_eq_some_iff.mp found
  exact here ▸ List.getElem_cons_eraseIdx_perm inside

theorem Taken.messages (taken : q.Taken a n q') : q.messages = a ::ₘ q'.messages := by
  cases taken with
  | first head => simp only [Queue.messages, head, ← Multiset.cons_coe, Multiset.cons_add]
  | @again k n found =>
      have split : ((q.returned.map (·.1) : List α) : Multiset α) =
          a ::ₘ ((q.returned.eraseIdx k).map (·.1)) :=
        Multiset.coe_eq_coe.mpr ((erase_perm found).map (·.1)).symm
      simp only [Queue.messages, split, Multiset.add_cons, Multiset.cons_add]

theorem Taken.handled (taken : q.Taken a n q') : q'.handled = q.handled := by
  cases taken <;> rfl

theorem handled_settle (q : Queue α) (a : α) (n : Nat) (ok : Bool) :
    (q.settle a n ok).handled = q.handled ++ [a] := by
  cases ok <;> rfl

theorem Stepped.messages (stepped : q.Stepped limit m q') : q'.messages = q.messages + m.sent := by
  cases stepped with
  | sent messages =>
      simp only [Queue.messages, Move.sent, ← Multiset.coe_add]
      abel
  | idle sent => rw [sent, add_zero]
  | handled sent receives taken few ok => rw [sent, add_zero, messages_settle, taken.messages]
  | moved sent receives found spent =>
      rw [sent, add_zero, (Taken.again found).messages]
      simp only [Queue.messages, ← Multiset.coe_add, Multiset.coe_singleton,
        ← Multiset.singleton_add]
      abel

def Within (q : Queue α) : Prop :=
  ∀ a ∈ q.handled, a ∈ q.messages

theorem Within.step (within : q.Within) (stepped : q.Stepped limit m q') : q'.Within := by
  intro b member
  rw [stepped.messages]
  refine Multiset.mem_add.mpr (.inl ?_)
  cases stepped with
  | handled sent receives taken few ok =>
      rw [handled_settle, taken.handled, List.mem_append, List.mem_singleton] at member
      rcases member with member | rfl
      · exact within b member
      · rw [taken.messages]
        exact Multiset.mem_cons_self b _
  | _ => exact within b member

/-! ## The number of receives -/

theorem potential_settle (limit : Nat) (q : Queue α) (a : α) (n : Nat) (ok : Bool) :
    (q.settle a n ok).potential limit ≤ q.potential limit + (limit - n + 1) := by
  cases ok with
  | true => exact Nat.le_add_right _ _
  | false =>
      simp only [settle, potential, List.map_append, List.sum_append, List.map_cons, List.map_nil,
        List.sum_singleton]
      omega

theorem Taken.potential (limit : Nat) (taken : q.Taken a n q') :
    q'.potential limit + (limit - n + 1) = q.potential limit := by
  cases taken with
  | first head =>
      simp only [Queue.potential, head, List.length_cons, Nat.mul_add]
      omega
  | again found =>
      have split := ((erase_perm found).map fun r => limit - r.2 + 1).sum_nat
      rw [List.map_cons, List.sum_cons] at split
      simp only [Queue.potential]
      omega

theorem Stepped.potential (positive : 0 < limit) (stepped : q.Stepped limit m q') :
    q'.potential limit + q.receives m ≤
      q.potential limit + (limit + 1) * Multiset.card m.sent := by
  cases stepped with
  | sent messages =>
      simp only [Queue.potential, Queue.receives, Move.sent, List.length_append,
        Multiset.coe_card, Nat.mul_add]
      omega
  | idle sent receives => simp [sent, receives]
  | @handled _ a n q' sent receives taken few ok =>
      have settled := potential_settle limit q' a (n + 1) ok
      have split := taken.potential limit
      rw [sent, receives, Multiset.card_zero]
      omega
  | moved sent receives found spent =>
      have split := (Taken.again found).potential limit
      rw [sent, receives, Multiset.card_zero]
      simp only [Queue.potential] at split ⊢
      omega

/-! ## Tallies -/

variable [DecidableEq α]

structure Tallied (limit : Nat) (q : Queue α) : Prop where
  waiting : ∀ a ∈ q.waiting, q.handled.count a = 0
  returned : ∀ r ∈ q.returned, q.handled.count r.1 = r.2 ∧ 0 < r.2 ∧ r.2 ≤ limit
  dead : ∀ a ∈ q.dead, q.handled.count a = limit
  done : ∀ a ∈ q.done, 0 < q.handled.count a ∧ q.handled.count a ≤ limit

theorem Tallied.taken (tallied : q.Tallied limit) (taken : q.Taken a n q') :
    q'.Tallied limit ∧ q'.handled.count a = n := by
  cases taken with
  | first head =>
      refine ⟨⟨fun b member => tallied.waiting b ?_, tallied.returned, tallied.dead,
        tallied.done⟩, tallied.waiting a ?_⟩
      · exact head ▸ List.mem_cons_of_mem a member
      · exact head ▸ List.mem_cons_self
  | again found =>
      refine ⟨⟨tallied.waiting, fun r member => tallied.returned r ?_, tallied.dead,
        tallied.done⟩, (tallied.returned _ (List.mem_of_getElem? found)).1⟩
      exact List.mem_of_mem_eraseIdx member

theorem Tallied.settle (tallied : q.Tallied limit) (out : a ∉ q.messages)
    (count : q.handled.count a = n) (few : n < limit) (ok : Bool) :
    (q.settle a (n + 1) ok).Tallied limit := by
  rw [mem_messages, not_or, not_or, not_or] at out
  obtain ⟨waiting, returned, dead, done⟩ := out
  have own : (q.settle a (n + 1) ok).handled.count a = n + 1 := by
    rw [handled_settle, List.count_append, List.count_singleton_self, count]
  have others (b : α) (other : b ≠ a) :
      (q.settle a (n + 1) ok).handled.count b = q.handled.count b := by
    rw [handled_settle, List.count_append, List.count_singleton, if_neg (by simpa using other.symm),
      add_zero]
  refine ⟨fun b member => ?_, fun r member => ?_, fun b member => ?_, fun b member => ?_⟩
  · have member : b ∈ q.waiting := by cases ok <;> exact member
    rw [others b (ne_of_mem_of_not_mem member waiting)]
    exact tallied.waiting b member
  · have member : r ∈ q.returned ∨ r = (a, n + 1) := by cases ok <;> simp_all [Queue.settle]
    rcases member with member | rfl
    · rw [others r.1 fun same => returned ⟨r.2, same ▸ member⟩]
      exact tallied.returned r member
    · exact ⟨own, Nat.succ_pos n, few⟩
  · have member : b ∈ q.dead := by cases ok <;> exact member
    rw [others b (ne_of_mem_of_not_mem member dead)]
    exact tallied.dead b member
  · have member : b ∈ q.done ∨ b = a := by cases ok <;> simp_all [Queue.settle, or_comm]
    rcases member with member | rfl
    · rw [others b (ne_of_mem_of_not_mem member done)]
      exact tallied.done b member
    · rw [own]
      exact ⟨Nat.succ_pos n, few⟩

theorem Tallied.step (tallied : q.Tallied limit) (positive : 0 < limit) (within : q.Within)
    (stepped : q.Stepped limit m q') (distinct : q'.messages.Nodup) : q'.Tallied limit := by
  rw [stepped.messages] at distinct
  cases stepped with
  | sent messages =>
      refine ⟨fun a member => ?_, tallied.returned, tallied.dead, tallied.done⟩
      rcases List.mem_append.mp member with member | member
      · exact tallied.waiting a member
      · have fresh := Multiset.disjoint_right.mp (Multiset.nodup_add.mp distinct).2.2
          (Multiset.mem_coe.mpr member)
        exact List.count_eq_zero.mpr fun handled => fresh (within a handled)
  | idle => exact tallied
  | handled sent receives taken few ok =>
      rw [sent, add_zero, taken.messages, Multiset.nodup_cons] at distinct
      obtain ⟨others, count⟩ := tallied.taken taken
      exact others.settle distinct.1 count (by omega) ok
  | @moved _ a k n sent receives found spent =>
      obtain ⟨others, count⟩ := tallied.taken (.again found)
      have bounded := (tallied.returned (a, n) (List.mem_of_getElem? found)).2.2
      refine ⟨others.waiting, others.returned, fun b member => ?_, others.done⟩
      rcases List.mem_append.mp member with member | member
      · exact others.dead b member
      · obtain rfl := List.mem_singleton.mp member
        exact count.trans (le_antisymm bounded spent)

end Queue

end Redrive
