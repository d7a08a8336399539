import Mathlib.Data.Nat.Init

/-!
# Polling until an answer or a deadline

A loop that looks at its deadline, asks, and goes by the reply: it stops with an outcome, or pauses
and asks again. What a loop decides about the replies is compared with what it should decide.
-/

namespace Polling
variable {ρ ω : Type}

inductive Decision (ω : Type) where
  | stop (outcome : ω)
  | again (pause : Nat)

section
variable (decide : ρ → Decision ω) (reply : Nat → ρ) (late : Nat → Prop)

inductive Ends (expired : ω) : Nat → ω → Nat → Prop where
  | expired {n : Nat} (passed : late n) : Ends expired n expired n
  | stopped {n : Nat} {outcome : ω} (early : ¬late n) (stops : decide (reply n) = .stop outcome) :
      Ends expired n outcome (n + 1)
  | again {n pause polls : Nat} {outcome : ω} (early : ¬late n)
      (continues : decide (reply n) = .again pause) (rest : Ends expired (n + 1) outcome polls) :
      Ends expired n outcome polls

structure Due (n : Nat) : Prop where
  early : ¬late n
  undecided : ∀ m < n, ∃ pause, decide (reply m) = .again pause

/-- A loop ends as the decisions say, and after a reply on which they ask for a pause it has waited
longer than the interval before it polls again. -/
structure Obeys (expired : ω) (interval : Nat) (outcome : ω) (polls : Nat) (waited : Nat → Nat) :
    Prop where
  ends : Ends decide reply late expired 0 outcome polls
  slows : ∀ n pause, n + 1 < polls → decide (reply n) = .again pause → 0 < pause →
    interval < waited (n + 1)

end

inductive Agrees (ending : Prop) : Decision ω → Decision ω → Prop where
  | stop (outcome : ω) : Agrees ending (.stop outcome) (.stop outcome)
  | again {pause pause' : Nat} (slows : 0 < pause → ¬ending → 0 < pause') :
      Agrees ending (.again pause) (.again pause')

section
variable {ending : Prop} {outcome outcome' : ω} {pause pause' : Nat}

@[simp] theorem agrees_stop_stop :
    Agrees ending (.stop outcome) (.stop outcome') ↔ outcome = outcome' := by
  constructor
  · rintro ⟨⟩
    rfl
  · rintro rfl
    exact .stop outcome

@[simp] theorem agrees_again_again :
    Agrees ending (.again pause : Decision ω) (.again pause') ↔
      (0 < pause → ¬ending → 0 < pause') := by
  constructor
  · rintro ⟨⟩
    assumption
  · exact .again

@[simp] theorem not_agrees_stop_again : ¬Agrees ending (.stop outcome) (.again pause) := nofun

@[simp] theorem not_agrees_again_stop : ¬Agrees ending (.again pause) (.stop outcome) := nofun

@[simp] theorem Agrees.refl (ending : Prop) (decision : Decision ω) :
    Agrees ending decision decision := by
  cases decision with
  | stop outcome => exact .stop outcome
  | again pause => exact .again fun positive _ => positive

end

/-! ## How a loop ends -/

section
variable {decide : ρ → Decision ω} {reply : Nat → ρ} {late : Nat → Prop} {expired outcome : ω}
  {k n m polls : Nat}

variable (decide reply expired) in
theorem exists_ends (passed : late m) (le : n ≤ m) :
    ∃ outcome polls, Ends decide reply late expired n outcome polls := by
  obtain ⟨k, rfl⟩ := Nat.exists_eq_add_of_le le
  induction k generalizing n with
  | zero => exact ⟨expired, n, .expired passed⟩
  | succ k ih =>
      by_cases here : late n
      · exact ⟨expired, n, .expired here⟩
      · cases decided : decide (reply n) with
        | stop outcome => exact ⟨outcome, n + 1, .stopped here decided⟩
        | again pause =>
            have passed' : late (n + 1 + k) := by rwa [Nat.add_right_comm]
            obtain ⟨outcome, polls, rest⟩ := ih passed' (Nat.le_add_right _ _)
            exact ⟨outcome, polls, .again here decided rest⟩

namespace Ends

theorem le (ends : Ends decide reply late expired n outcome polls) : n ≤ polls := by
  induction ends with
  | expired passed => exact Nat.le_refl _
  | stopped early stops => exact Nat.le_succ _
  | again early continues rest ih => exact Nat.le_of_succ_le ih

theorem eq_expired (ends : Ends decide reply late expired n outcome n) : outcome = expired := by
  cases ends with
  | expired passed => rfl
  | again early continues rest => exact absurd rest.le (Nat.not_succ_le_self n)

theorem eq_expired_of_again (ends : Ends decide reply late expired n outcome polls)
    (continues : ∀ n, ∃ pause, decide (reply n) = .again pause) : outcome = expired := by
  induction ends with
  | expired passed => rfl
  | @stopped n outcome early stops =>
      obtain ⟨pause, same⟩ := continues n
      rw [stops] at same
      cases same
  | again early continues rest ih => exact ih

theorem lt (ends : Ends decide reply late expired n outcome polls) (early : ¬late n) :
    n < polls := by
  cases ends with
  | expired passed => exact absurd passed early
  | stopped early stops => exact Nat.lt_succ_self n
  | again early continues rest => exact rest.le

theorem tail (ends : Ends decide reply late expired k outcome polls) (le : k ≤ n)
    (lt : n < polls) :
    ¬late n ∧ (∀ m, k ≤ m → m < n → ∃ pause, decide (reply m) = .again pause) ∧
      Ends decide reply late expired n outcome polls := by
  induction ends with
  | expired passed => exact absurd le (Nat.not_le_of_lt lt)
  | @stopped k outcome early stops =>
      obtain rfl : k = n := Nat.le_antisymm le (Nat.le_of_lt_succ lt)
      exact ⟨early, fun m le lt => absurd le (Nat.not_le_of_lt lt), .stopped early stops⟩
  | @again k pause polls outcome early continues rest ih =>
      rcases Nat.eq_or_lt_of_le le with rfl | below
      · exact ⟨early, fun m le lt => absurd le (Nat.not_le_of_lt lt), .again early continues rest⟩
      · obtain ⟨early', undecided, ends⟩ := ih below lt
        refine ⟨early', fun m le lt => ?_, ends⟩
        rcases Nat.eq_or_lt_of_le le with rfl | above
        · exact ⟨pause, continues⟩
        · exact undecided m above lt

theorem due (ends : Ends decide reply late expired 0 outcome polls) (lt : n < polls) :
    Due decide reply late n :=
  have ⟨early, undecided, _⟩ := ends.tail (Nat.zero_le n) lt
  ⟨early, fun m below => undecided m (Nat.zero_le m) below⟩

theorem lt_of_due (later : ∀ n, late n → late (n + 1))
    (ends : Ends decide reply late expired k outcome polls) (le : k ≤ n)
    (due : Due decide reply late n) : n < polls := by
  induction ends with
  | @expired k passed =>
      refine absurd ?_ due.early
      exact Nat.le_induction passed (fun m _ => later m) n le
  | @stopped k outcome early stops =>
      rcases Nat.eq_or_lt_of_le le with rfl | below
      · exact Nat.lt_succ_self _
      · obtain ⟨pause, continues⟩ := due.undecided k below
        rw [stops] at continues
        cases continues
  | again early continues rest ih =>
      rcases Nat.eq_or_lt_of_le le with rfl | below
      · exact rest.le
      · exact ih below

end Ends

/-! ## What a loop decides and what it should -/

variable {asked made : ρ → Decision ω} {interval : Nat} {waited : Nat → Nat}

theorem Ends.of_agrees (ran : Ends made reply late expired n outcome polls)
    (undecided : ∀ m < n, ∃ pause, asked (reply m) = .again pause)
    (agrees : ∀ m, Due asked reply late m →
      Agrees (late (m + 1)) (asked (reply m)) (made (reply m))) :
    Ends asked reply late expired n outcome polls := by
  induction ran with
  | expired passed => exact .expired passed
  | @stopped n outcome early stops =>
      have same := agrees n ⟨early, undecided⟩
      rw [stops] at same
      cases decided : asked (reply n) with
      | again pause =>
          rw [decided] at same
          cases same
      | stop outcome' =>
          rw [decided] at same
          cases same
          exact .stopped early decided
  | @again n pause polls outcome early continues rest ih =>
      have same := agrees n ⟨early, undecided⟩
      rw [continues] at same
      cases decided : asked (reply n) with
      | stop outcome' =>
          rw [decided] at same
          cases same
      | again pause' =>
          refine .again early decided (ih fun m below => ?_)
          rcases Nat.eq_or_lt_of_le (Nat.le_of_lt_succ below) with rfl | before
          · exact ⟨pause', decided⟩
          · exact undecided m before

/-- A loop obeys what is asked exactly when it decides so about each reply that it should get. -/
theorem obeys_iff (ran : Ends made reply late expired 0 outcome polls)
    (waits : ∀ n pause, n + 1 < polls → made (reply n) = .again pause →
      waited (n + 1) = interval + pause)
    (later : ∀ n, late n → late (n + 1)) (asked_ne : ∀ r, asked r ≠ .stop expired)
    (made_ne : ∀ r, made r ≠ .stop expired) :
    Obeys asked reply late expired interval outcome polls waited ↔
      ∀ n, Due asked reply late n →
        Agrees (late (n + 1)) (asked (reply n)) (made (reply n)) := by
  constructor
  · intro obeys n due
    have here : n < polls := obeys.ends.lt_of_due later (Nat.zero_le n) due
    obtain ⟨-, -, askedEnds⟩ := obeys.ends.tail (Nat.zero_le n) here
    obtain ⟨-, -, madeEnds⟩ := ran.tail (Nat.zero_le n) here
    cases askedEnds with
    | expired passed => exact absurd passed due.early
    | stopped early stops =>
        rw [stops]
        cases madeEnds with
        | stopped early stops' =>
            rw [stops']
            exact .stop outcome
        | again early continues rest =>
            rw [rest.eq_expired] at stops
            exact absurd stops (asked_ne _)
    | @again _ pause _ _ early continues rest =>
        rw [continues]
        cases madeEnds with
        | expired passed => exact absurd passed due.early
        | stopped early stops =>
            rw [rest.eq_expired] at stops
            exact absurd stops (made_ne _)
        | @again _ pause' _ _ early continues' rest' =>
            rw [continues']
            refine .again fun positive early' => ?_
            have below := rest'.lt early'
            have slower := obeys.slows n pause below continues positive
            rw [waits n pause' below continues'] at slower
            exact Nat.pos_of_lt_add_right slower
  · intro agrees
    have ends := ran.of_agrees (fun m below => absurd below (Nat.not_lt_zero m)) agrees
    refine ⟨ends, fun n pause below continues positive => ?_⟩
    have same := agrees n (ends.due (Nat.lt_of_succ_lt below))
    rw [continues] at same
    cases decided : made (reply n) with
    | stop outcome' =>
        rw [decided] at same
        cases same
    | again pause' =>
        rw [decided] at same
        cases same with
        | again slows =>
            rw [waits n pause' below decided]
            exact Nat.lt_add_of_pos_right (slows positive (ends.due below).early)

end

end Polling
