import Mathlib.Logic.Relation
import Stencil.Asset.Pool

/-! # What a pool delivers

A pool answers its locators in their order, however many fetches are under way at once.

Of a pool it is enough to know that few fetches are under way at once, that they start in the order
of their locators and that outcomes are delivered in the order of the starts. Then all its runs give
what fetching one locator after the other gives, whatever fetch completes first.

Main statements: `fetchAll_eq_map`, `fetches_in_order`.
-/

namespace Stencil

namespace Pool

/-- The outcomes that a pool has delivered or will deliver, in order. -/
def outcomes (fetch : Fetcher) (pool : Pool) : List FetchOutcome :=
  pool.delivered ++ pool.flights.map (Flight.answer fetch) ++ pool.waiting.map fetch

/-- A start leaves the room and the outcomes as they are. -/
theorem outcomes_of_start? {pool next : Pool} (fetch : Fetcher) (h : pool.start? = some next) :
    next.room = pool.room ∧ next.outcomes fetch = pool.outcomes fetch := by
  unfold start? at h
  split at h
  · cases h
  · next locator rest isWaiting =>
    split at h
    · cases h
      refine ⟨rfl, ?_⟩
      simp only [outcomes, isWaiting, List.map_append, List.map_cons, List.map_nil,
        List.append_assoc, List.singleton_append]
      rfl
    · cases h

/-- Nothing is started only when nothing waits or all the room is taken. -/
theorem waiting_of_start?_none {pool : Pool} (h : pool.start? = none) :
    pool.waiting = [] ∨ pool.room ≤ pool.flights.length := by
  unfold start? at h
  split at h
  · next isWaiting => exact .inl isWaiting
  · split at h
    · cases h
    · next full => exact .inr (Nat.le_of_not_lt full)

theorem run_eq_outcomes (fetch : Fetcher) (pool : Pool) (room : 0 < pool.room) :
    pool.run fetch = pool.outcomes fetch := by
  fun_induction run fetch pool with
  | case1 pool next started ih =>
      obtain ⟨sameRoom, same⟩ := outcomes_of_start? fetch started
      rw [ih (sameRoom ▸ room), same]
  | case2 pool idle landed =>
      have nothing : pool.waiting = [] := by
        rcases waiting_of_start?_none idle with waiting | full
        · exact waiting
        · rw [landed, List.length_nil] at full
          omega
      simp only [outcomes, landed, nothing, List.map_nil, List.append_nil]
  | case3 pool idle flight rest flying ih =>
      rw [ih room]
      simp only [outcomes, flying, List.map_cons, List.append_assoc, List.singleton_append]

end Pool

/-- The outcomes of several fetches are those of fetching one locator after the other. -/
theorem fetchAll_eq_map (fetch : Fetcher) (concurrency : Nat) (locators : List String) :
    fetchAll fetch concurrency locators = locators.map fetch := by
  rw [fetchAll, Pool.run_eq_outcomes]
  · rfl
  · exact Nat.lt_of_lt_of_le Nat.one_pos (Nat.le_max_right concurrency 1)

/-! ## Fetches under way at once -/

namespace Pool

/-- How many fetches are under way: started, and not complete. -/
def underWay (pool : Pool) : Nat :=
  pool.flights.countP fun flight => flight.outcome.isNone

/-- What may happen in a pool in which fetches take room only while they are under way. -/
inductive Move (fetch : Fetcher) : Pool → Pool → Prop where
  | start {pool : Pool} {locator : String} {rest : List String}
      (waits : pool.waiting = locator :: rest) (free : pool.underWay < pool.room) :
      Move fetch pool { pool with
        waiting := rest
        started := pool.started ++ [locator]
        flights := pool.flights ++ [{ locator, outcome := none }] }
  | complete {pool : Pool} {before after : List Flight} {locator : String}
      (flies : pool.flights = before ++ { locator, outcome := none } :: after) :
      Move fetch pool { pool with
        flights := before ++ { locator, outcome := some (fetch locator) } :: after }
  | deliver {pool : Pool} {locator : String} {outcome : FetchOutcome} {rest : List Flight}
      (landed : pool.flights = { locator, outcome := some outcome } :: rest) :
      Move fetch pool { pool with flights := rest, delivered := pool.delivered ++ [outcome] }

/-- How many moves a pool can still make. -/
def remaining (pool : Pool) : Nat :=
  3 * pool.waiting.length + pool.flights.length + pool.underWay

variable {fetch : Fetcher} {pool next : Pool}

namespace Move

theorem room_eq (h : Move fetch pool next) : next.room = pool.room := by
  cases h <;> rfl

/-- No move skips a locator or takes one twice. -/
theorem started_append_waiting (h : Move fetch pool next) :
    next.started ++ next.waiting = pool.started ++ pool.waiting := by
  cases h with
  | start waits free => simp [waits]
  | complete | deliver => rfl

theorem outcomes_eq (h : Move fetch pool next) : next.outcomes fetch = pool.outcomes fetch := by
  cases h with
  | start waits free => simp [outcomes, waits, Flight.answer]
  | complete flies => simp [outcomes, flies, Flight.answer]
  | deliver landed => simp [outcomes, landed, Flight.answer]

theorem underWay_le (h : Move fetch pool next) (few : pool.underWay ≤ pool.room) :
    next.underWay ≤ next.room := by
  cases h with
  | start waits free =>
      rw [underWay, List.countP_append]
      exact Nat.succ_le_of_lt free
  | complete flies =>
      simp only [underWay, flies, List.countP_append, List.countP_cons, Option.isNone_none,
        Option.isNone_some, Bool.false_eq_true, reduceIte] at few ⊢
      omega
  | deliver landed =>
      simp only [underWay, landed, List.countP_cons] at few ⊢
      omega

theorem remaining_eq (h : Move fetch pool next) : next.remaining + 1 = pool.remaining := by
  cases h with
  | start waits free =>
      simp only [remaining, underWay, waits, List.length_cons, List.length_append, List.length_nil,
        List.countP_append, List.countP_cons, List.countP_nil, Option.isNone_none, reduceIte]
      omega
  | complete flies =>
      simp only [remaining, underWay, flies, List.length_append, List.length_cons,
        List.countP_append, List.countP_cons, Option.isNone_none, Option.isNone_some,
        Bool.false_eq_true, reduceIte]
      omega
  | deliver landed =>
      simp only [remaining, underWay, landed, List.length_cons, List.countP_cons,
        Option.isNone_some, Bool.false_eq_true, reduceIte]
      omega

end Move

theorem start?_eq_some : pool.start? = some next ↔
    ∃ locator rest, pool.waiting = locator :: rest ∧ pool.flights.length < pool.room ∧
      next = { pool with
        waiting := rest
        started := pool.started ++ [locator]
        flights := pool.flights ++ [{ locator, outcome := none }] } := by
  rw [start?]
  constructor
  · intro h
    split at h
    · cases h
    · next locator rest waits =>
      obtain ⟨free, same⟩ := Option.ite_none_right_eq_some.mp h
      exact ⟨locator, rest, waits, free, (Option.some.inj same).symm⟩
  · rintro ⟨locator, rest, waits, free, rfl⟩
    simp only [waits, if_pos free]

theorem complete?_eq_some {index : Nat} : pool.complete? fetch index = some next ↔
    ∃ locator, pool.flights[index]? = some { locator, outcome := none } ∧
      next = { pool with
        flights := pool.flights.set index { locator, outcome := some (fetch locator) } } := by
  rw [complete?]
  constructor
  · intro h
    split at h
    · next locator flies => exact ⟨locator, flies, (Option.some.inj h).symm⟩
    · cases h
  · rintro ⟨locator, flies, rfl⟩
    simp only [flies]

theorem deliver?_eq_some : pool.deliver? = some next ↔
    ∃ locator outcome rest, pool.flights = { locator, outcome := some outcome } :: rest ∧
      next = { pool with flights := rest, delivered := pool.delivered ++ [outcome] } := by
  rw [deliver?]
  constructor
  · intro h
    split at h
    · next locator outcome rest landed =>
      exact ⟨locator, outcome, rest, landed, (Option.some.inj h).symm⟩
    · cases h
  · rintro ⟨locator, outcome, rest, landed, rfl⟩
    simp only [landed]

namespace Step

/-- A pool that has only its room for what it has not delivered makes no other moves. -/
theorem move (h : Step fetch pool next) : Move fetch pool next := by
  cases h with
  | start h =>
      obtain ⟨locator, rest, waits, free, rfl⟩ := start?_eq_some.mp h
      exact .start waits (Nat.lt_of_le_of_lt List.countP_le_length free)
  | complete index h =>
      obtain ⟨locator, flies, rfl⟩ := complete?_eq_some.mp h
      obtain ⟨short, there⟩ := List.getElem?_eq_some_iff.mp flies
      rw [List.set_eq_take_append_cons_drop, if_pos short]
      refine .complete ?_
      rw [← there, List.getElem_cons_drop, List.take_append_drop]
  | deliver h =>
      obtain ⟨locator, outcome, rest, landed, rfl⟩ := deliver?_eq_some.mp h
      exact .deliver landed

theorem length_flights_le (h : Step fetch pool next) (few : pool.flights.length ≤ pool.room) :
    next.flights.length ≤ next.room := by
  cases h with
  | start h =>
      obtain ⟨locator, rest, waits, free, rfl⟩ := start?_eq_some.mp h
      rw [List.length_append]
      exact free
  | complete index h =>
      obtain ⟨locator, flies, rfl⟩ := complete?_eq_some.mp h
      rwa [List.length_set]
  | deliver h =>
      obtain ⟨locator, outcome, rest, landed, rfl⟩ := deliver?_eq_some.mp h
      rw [landed] at few
      exact Nat.le_of_succ_le few

end Step

theorem moves_of_steps (steps : Relation.ReflTransGen (Step fetch) pool next) :
    Relation.ReflTransGen (Move fetch) pool next :=
  steps.lift id fun _ _ => Step.move

/-- Every flight can be delivered: at once if it is complete, and otherwise after one more step. -/
theorem reaches_delivered {flight : Flight} {rest : List Flight}
    (flies : pool.flights = flight :: rest) :
    Relation.ReflTransGen (Step fetch) pool
      { pool with flights := rest, delivered := pool.delivered ++ [flight.answer fetch] } := by
  obtain ⟨locator, outcome⟩ := flight
  cases outcome with
  | some outcome => exact .single (.deliver (deliver?_eq_some.mpr ⟨_, _, _, flies, rfl⟩))
  | none =>
      refine .head (.complete 0 (complete?_eq_some.mpr ⟨locator, by simp [flies], rfl⟩)) ?_
      refine .single (.deliver (deliver?_eq_some.mpr ⟨locator, fetch locator, rest, ?_, rfl⟩))
      simp [flies]

/-- The run of a pool is made of steps and comes to an end. -/
theorem exists_steps_of_run (room : 0 < pool.room) :
    ∃ last, Relation.ReflTransGen (Step fetch) pool last ∧ last.isFinished = true ∧
      last.delivered = pool.run fetch := by
  fun_induction run fetch pool with
  | case1 pool next started ih =>
      obtain ⟨last, steps, finished, same⟩ := ih ((outcomes_of_start? fetch started).1 ▸ room)
      exact ⟨last, .head (.start started) steps, finished, same⟩
  | case2 pool idle landed =>
      refine ⟨pool, .refl, ?_, rfl⟩
      rcases waiting_of_start?_none idle with waiting | full
      · simp [isFinished, waiting, landed]
      · rw [landed] at full
        exact absurd full (Nat.not_le_of_lt room)
  | case3 pool idle flight rest flying ih =>
      obtain ⟨last, steps, finished, same⟩ := ih room
      exact ⟨last, (reaches_delivered flying).trans steps, finished, same⟩

/-- What holds in each pool that moves lead to. -/
structure Working (fetch : Fetcher) (concurrency : Nat) (locators : List String) (pool : Pool) :
    Prop where
  room : pool.room = max concurrency 1
  in_order : pool.started ++ pool.waiting = locators
  outcomes : pool.outcomes fetch = locators.map fetch
  few : pool.underWay ≤ pool.room

namespace Working

variable {concurrency : Nat} {locators : List String}

theorem begin : Working fetch concurrency locators (begin concurrency locators) where
  room := rfl
  in_order := rfl
  outcomes := rfl
  few := Nat.zero_le _

theorem move (h : Working fetch concurrency locators pool) (moved : Move fetch pool next) :
    Working fetch concurrency locators next where
  room := moved.room_eq.trans h.room
  in_order := moved.started_append_waiting.trans h.in_order
  outcomes := moved.outcomes_eq.trans h.outcomes
  few := moved.underWay_le h.few

theorem of_moves
    (moves : Relation.ReflTransGen (Move fetch) (Pool.begin concurrency locators) pool) :
    Working fetch concurrency locators pool := by
  induction moves with
  | refl => exact begin
  | tail _ moved ih => exact ih.move moved

theorem finished (h : Working fetch concurrency locators pool) (done : pool.isFinished = true) :
    pool.started = locators ∧ pool.delivered = locators.map fetch := by
  obtain ⟨waiting, flights⟩ := (Bool.and_eq_true ..).mp done
  rw [List.isEmpty_iff] at waiting flights
  refine ⟨?_, ?_⟩
  · simpa [waiting] using h.in_order
  · simpa [Pool.outcomes, waiting, flights] using h.outcomes

end Working

end Pool

/-- Whatever the order in which fetches complete, they start in the order of the locators, each
    locator once, never more of them are under way than there may be, and the outcomes are those of
    fetching one locator after the other. Every run comes to an end, and `fetchAll` is one. -/
theorem fetches_in_order (fetch : Fetcher) (concurrency : Nat) (locators : List String) :
    (∀ pool, Relation.ReflTransGen (Pool.Move fetch) (Pool.begin concurrency locators) pool →
      pool.started ++ pool.waiting = locators ∧ pool.underWay ≤ max 1 concurrency ∧
      (pool.isFinished = true → pool.started = locators ∧ pool.delivered = locators.map fetch) ∧
      ∃ last, Relation.ReflTransGen (Pool.Move fetch) pool last ∧ last.isFinished = true) ∧
    (WellFounded fun next pool => Pool.Move fetch pool next) ∧
    (∀ pool, Relation.ReflTransGen (Pool.Step fetch) (Pool.begin concurrency locators) pool →
      Relation.ReflTransGen (Pool.Move fetch) (Pool.begin concurrency locators) pool ∧
      pool.flights.length ≤ max 1 concurrency) ∧
    ∃ pool, Relation.ReflTransGen (Pool.Step fetch) (Pool.begin concurrency locators) pool ∧
      pool.isFinished = true ∧ pool.delivered = fetchAll fetch concurrency locators := by
  have positive : 0 < max concurrency 1 := Nat.lt_of_lt_of_le Nat.one_pos (Nat.le_max_right _ _)
  refine ⟨fun pool moves => ?_, ?_, fun pool steps => ?_, Pool.exists_steps_of_run positive⟩
  · have working := Pool.Working.of_moves moves
    refine ⟨working.in_order, ?_, working.finished, ?_⟩
    · rw [Nat.max_comm, ← working.room]
      exact working.few
    · have room : 0 < pool.room := working.room ▸ positive
      obtain ⟨last, steps, finished, -⟩ := @Pool.exists_steps_of_run fetch pool room
      exact ⟨last, Pool.moves_of_steps steps, finished⟩
  · refine Subrelation.wf (fun {next pool} moved => ?_) (measure Pool.remaining).wf
    exact Nat.lt_of_succ_le (Nat.le_of_eq moved.remaining_eq)
  · refine ⟨Pool.moves_of_steps steps, ?_⟩
    have few : pool.flights.length ≤ pool.room ∧ pool.room = max concurrency 1 := by
      induction steps with
      | refl => exact ⟨Nat.zero_le _, rfl⟩
      | tail _ step ih => exact ⟨step.length_flights_le ih.1, step.move.room_eq.trans ih.2⟩
    rw [Nat.max_comm, ← few.2]
    exact few.1

namespace Sample

/-- One asset that can be had, and none besides. -/
def oneAsset : Fetcher := fun locator =>
  if locator = "a" then .ok "A".toUTF8 else .error (.empty locator)

/-- Two fetches, the second of which is complete before the first. -/
theorem overtaking : ∃ pool,
    Relation.ReflTransGen (Pool.Move oneAsset) (Pool.begin 2 ["a", "b"]) pool ∧
      pool.isFinished = true := by
  refine ⟨_, .head (.start rfl ?_) (.head (.start rfl ?_)
    (.head (@Pool.Move.complete _ _ [_] [] "b" rfl) (.head (@Pool.Move.complete _ _ [] [_] "a" rfl)
      (.head (.deliver rfl) (.single (.deliver rfl)))))), rfl⟩
  · decide
  · decide

end Sample

/-- A failing fetch that is complete before an earlier one is delivered behind it. -/
theorem fetches_in_order_overtaking : ∃ pool,
    Relation.ReflTransGen (Pool.Move Sample.oneAsset) (Pool.begin 2 ["a", "b"]) pool ∧
      pool.isFinished = true ∧ pool.started = ["a", "b"] ∧
      pool.delivered = [.ok "A".toUTF8, .error (.empty "b")] := by
  obtain ⟨pool, moves, done⟩ := Sample.overtaking
  obtain ⟨runs, -⟩ := fetches_in_order Sample.oneAsset 2 ["a", "b"]
  obtain ⟨-, -, finished, -⟩ := runs pool moves
  obtain ⟨started, delivered⟩ := finished done
  exact ⟨pool, moves, done, started, delivered⟩

end Stencil
