import Mathlib.Data.List.Chain

/-!
Loops that go over bytes with a cursor. The place of the next round may come from the
bytes, and it may lie past their end. If every round that goes on has read a number of
bytes in front of a limit and leaves them behind, the loop ends, and it makes no more
rounds than there is room for.
-/

namespace TestAtlas

/-- What a round comes to: the end of the loop, or the state and the place of the next round. -/
inductive Round (State Outcome : Type) where
  | ended (outcome : Outcome)
  | further (state : State) (cursor : Nat)

namespace Round

variable {State Outcome Context : Type} {round : State → Nat → Round State Outcome}
  {state : State} {cursor width limit : Nat} {places : List Nat} {outcome : Outcome}

/-- A run of a loop from a state and a place on: the places at which its rounds start, and what it
comes to. All rounds but the last one are completed. -/
inductive Runs (round : State → Nat → Round State Outcome) :
    (state : State) → (cursor : Nat) → (places : List Nat) → (outcome : Outcome) → Prop
  | ended {state : State} {cursor : Nat} {outcome : Outcome}
      (ends : round state cursor = .ended outcome) : Runs round state cursor [cursor] outcome
  | further {state state' : State} {cursor cursor' : Nat} {places : List Nat} {outcome : Outcome}
      (goes : round state cursor = .further state' cursor')
      (rest : Runs round state' cursor' places outcome) :
      Runs round state cursor (cursor :: places) outcome

/-- A round that goes on has so many bytes in front of the limit and moves the cursor over them. -/
def Advances (round : State → Nat → Round State Outcome) (width limit : Nat) : Prop :=
  ∀ state cursor state' cursor', round state cursor = .further state' cursor' →
    cursor + width ≤ limit ∧ cursor + width ≤ cursor'

/-- The number of rounds that were completed. -/
def completed (places : List Nat) : Nat := places.length - 1

/-- What is left to do after a round, by what comes of each state and place. -/
def finish (value : State → Nat → Outcome) : Round State Outcome → Outcome
  | ended outcome => outcome
  | further state cursor => value state cursor

theorem exists_runs (advances : Advances round width limit) (wide : 0 < width) (state : State)
    (cursor : Nat) : ∃ places outcome, Runs round state cursor places outcome := by
  -- What is left in front of the limit gets less from round to round.
  induction left : limit - cursor using Nat.strongRecOn generalizing state cursor with
  | ind _ ih =>
      subst left
      cases result : round state cursor with
      | ended outcome => exact ⟨_, _, .ended result⟩
      | further state' cursor' =>
          obtain ⟨room, further⟩ := advances _ _ _ _ result
          obtain ⟨places, outcome, rest⟩ := ih (limit - cursor') (by omega) state' cursor' rfl
          exact ⟨_, _, .further result rest⟩

namespace Runs

theorem head?_eq (runs : Runs round state cursor places outcome) :
    places.head? = some cursor := by
  cases runs <;> rfl

theorem completed_cons (runs : Runs round state cursor places outcome) (first : Nat) :
    completed (first :: places) = completed places + 1 := by
  cases runs <;> rfl

theorem forward (runs : Runs round state cursor places outcome)
    (advances : Advances round width limit) :
    places.IsChain fun place next => place + width ≤ next := by
  induction runs with
  | ended _ => exact .singleton _
  | further goes rest ih =>
      refine List.isChain_cons.mpr ⟨fun next first => ?_, ih⟩
      rw [rest.head?_eq] at first
      cases first
      exact (advances _ _ _ _ goes).2

theorem room (runs : Runs round state cursor places outcome)
    (advances : Advances round width limit) :
    completed places = 0 ∨ cursor + completed places * width ≤ limit := by
  induction runs with
  | ended _ => exact .inl rfl
  | @further state state' cursor cursor' places outcome goes rest ih =>
      obtain ⟨room, further⟩ := advances _ _ _ _ goes
      refine .inr ?_
      rw [rest.completed_cons, Nat.succ_mul]
      obtain none | enough := ih
      · rw [none]
        omega
      · omega

theorem completed_le (runs : Runs round state cursor places outcome)
    (advances : Advances round width limit) (wide : 0 < width) :
    completed places ≤ limit / width := by
  rw [Nat.le_div_iff_mul_le wide]
  obtain none | enough := runs.room advances
  · rw [none, Nat.zero_mul]
    exact Nat.zero_le _
  · omega

end Runs

/-- From good places on, the loop computes the value: a round leaves it as it is, and leads to a
good place. -/
structure Computes (round : State → Nat → Round State Outcome) (good : Nat → Prop)
    (value : State → Nat → Outcome) : Prop where
  step : ∀ state cursor, good cursor → value state cursor = (round state cursor).finish value
  keeps : ∀ state cursor state' cursor', good cursor →
    round state cursor = .further state' cursor' → good cursor'

theorem Runs.outcome_eq {value : State → Nat → Outcome} {good : Nat → Prop}
    (runs : Runs round state cursor places outcome) (computes : Computes round good value)
    (start : good cursor) : outcome = value state cursor := by
  induction runs with
  | ended ends => rw [computes.step _ _ start, ends, finish]
  | further goes _ ih =>
      rw [computes.step _ _ start, goes, finish, ih (computes.keeps _ _ _ _ start goes)]

/-- A loop that collects items finds at most one in every round that goes on. -/
structure Collects {α ε : Type} (round : List α → Nat → Round (List α) (Except ε (List α))) :
    Prop where
  ended : ∀ found cursor items, round found cursor = .ended (.ok items) →
    items.length ≤ found.length
  further : ∀ found cursor found' cursor', round found cursor = .further found' cursor' →
    found'.length ≤ found.length + 1

theorem Runs.length_le {α ε : Type} {round : List α → Nat → Round (List α) (Except ε (List α))}
    {found items : List α} {result : Except ε (List α)} (collects : Collects round)
    (runs : Runs round found cursor places result) (gives : result = .ok items) :
    items.length ≤ found.length + completed places := by
  induction runs with
  | ended ends =>
      subst gives
      exact Nat.le_trans (collects.ended _ _ _ ends) (Nat.le_add_right ..)
  | @further found found' cursor cursor' places outcome goes rest ih =>
      have more := collects.further _ _ _ _ goes
      have others := ih gives
      rw [rest.completed_cons]
      omega

/-- How a parser goes over its bytes. What it reads in front of its loop may end it already. -/
inductive Course (opening : Except Outcome Context)
    (round : Context → State → Nat → Round State Outcome) (state : State) (cursor : Nat) :
    (places : List Nat) → (outcome : Outcome) → Prop
  | unopened {outcome : Outcome} (ends : opening = .error outcome) :
      Course opening round state cursor [] outcome
  | opened {context : Context} {places : List Nat} {outcome : Outcome}
      (opens : opening = .ok context) (runs : Runs (round context) state cursor places outcome) :
      Course opening round state cursor places outcome

/-- A parser comes to an outcome by a loop that moves its cursor by so many bytes in every completed
round, and completes no more rounds than the limit has room for. -/
structure Linear (opening : Except Outcome Context)
    (round : Context → State → Nat → Round State Outcome) (state : State)
    (cursor width limit : Nat) (places : List Nat) (outcome : Outcome) : Prop where
  course : Course opening round state cursor places outcome
  forward : places.IsChain fun place next => place + width ≤ next
  few : completed places ≤ limit / width

/-- What comes of an opening, which may be the end already, and of what follows it. -/
def through (opening : Except Outcome Context) (value : Context → Outcome) : Outcome :=
  match opening with
  | .error outcome => outcome
  | .ok context => value context

theorem exists_linear (opening : Except Outcome Context)
    {round : Context → State → Nat → Round State Outcome} {good : Nat → Prop}
    {value : Context → State → Nat → Outcome}
    (advances : ∀ context, Advances (round context) width limit) (wide : 0 < width)
    (computes : ∀ context, Computes (round context) good (value context)) (start : good cursor)
    (state : State) :
    ∃ places, Linear opening round state cursor width limit places
      (through opening fun context => value context state cursor) := by
  cases opens : opening with
  | error outcome => exact ⟨[], .unopened rfl, .nil, Nat.zero_le _⟩
  | ok context =>
      obtain ⟨places, outcome, runs⟩ := exists_runs (advances context) wide state cursor
      rw [through, ← runs.outcome_eq (computes context) start]
      exact ⟨places, .opened rfl runs, runs.forward (advances context),
        runs.completed_le (advances context) wide⟩

/-- A parser that collects items by a loop gives at most one for each completed round. -/
theorem Linear.length_le {α ε : Type} {opening : Except (Except ε (List α)) Context}
    {round : Context → List α → Nat → Round (List α) (Except ε (List α))} {items : List α}
    (linear : Linear opening round [] cursor width limit places (.ok items))
    (collects : ∀ context, Collects (round context))
    (nothing : ∀ items, opening = .error (.ok items) → items = []) :
    items.length ≤ limit / width := by
  cases linear.course with
  | unopened ends =>
      rw [nothing items ends]
      exact Nat.zero_le _
  | opened opens runs =>
      have counted := runs.length_le (collects _) rfl
      exact Nat.le_trans (counted.trans_eq (Nat.zero_add _)) linear.few

end Round
end TestAtlas
