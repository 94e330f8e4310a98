import Stencil.Asset.Failure

/-! # Fetching several assets at once

A pool works through a list of locators. A fetch starts when there is room for it, in the
order of the list; those that were started complete in any order; an outcome is delivered
when every earlier one has been. `Pool.Step` is what may happen next.

`fetchAll` is one such run: it starts as many fetches as there is room for and completes
and delivers the oldest one.
-/

namespace Stencil

/-- A fetch that was started, with its outcome once it is complete. -/
structure Flight where
  locator : String
  outcome : Option FetchOutcome

def Flight.answer (fetch : Fetcher) (flight : Flight) : FetchOutcome :=
  flight.outcome.getD (fetch flight.locator)

/-- Fetches under way. -/
structure Pool where
  /-- How many fetches there is room for. -/
  room : Nat
  waiting : List String
  /-- The locators of the fetches that were started, in the order of their starts. -/
  started : List String
  /-- The fetches that were started and whose outcomes are not delivered, oldest first. -/
  flights : List Flight
  /-- The outcomes that were delivered, in order. -/
  delivered : List FetchOutcome

namespace Pool

/-- A pool before its first fetch. There is room for one fetch at least. -/
def begin (concurrency : Nat) (locators : List String) : Pool :=
  { room := max concurrency 1, waiting := locators, started := [], flights := []
    delivered := [] }

/-- The pool after the next fetch has started, if there is one and room for it. -/
def start? (pool : Pool) : Option Pool :=
  match pool.waiting with
  | [] => none
  | locator :: rest =>
    if pool.flights.length < pool.room then
      some { pool with
        waiting := rest
        started := pool.started ++ [locator]
        flights := pool.flights ++ [{ locator, outcome := none }] }
    else none

/-- The pool after one of its flights is complete. -/
def complete? (fetch : Fetcher) (pool : Pool) (index : Nat) : Option Pool :=
  match pool.flights[index]? with
  | some { locator, outcome := none } =>
    some { pool with
      flights := pool.flights.set index { locator, outcome := some (fetch locator) } }
  | _ => none

/-- The pool after the outcome of its oldest flight is delivered, if that is complete. -/
def deliver? (pool : Pool) : Option Pool :=
  match pool.flights with
  | { locator := _, outcome := some outcome } :: rest =>
    some { pool with flights := rest, delivered := pool.delivered ++ [outcome] }
  | _ => none

/-- What may happen next in a pool. -/
inductive Step (fetch : Fetcher) : Pool → Pool → Prop where
  | start {pool next : Pool} (h : pool.start? = some next) : Step fetch pool next
  | complete {pool next : Pool} (index : Nat) (h : pool.complete? fetch index = some next) :
      Step fetch pool next
  | deliver {pool next : Pool} (h : pool.deliver? = some next) : Step fetch pool next

def isFinished (pool : Pool) : Bool :=
  pool.waiting.isEmpty && pool.flights.isEmpty

/-- A start moves one locator from those waiting to the flights. -/
theorem waiting_of_start? {pool next : Pool} (h : pool.start? = some next) :
    pool.waiting.length = next.waiting.length + 1 ∧
      next.flights.length = pool.flights.length + 1 := by
  unfold start? at h
  split at h
  · cases h
  · next locator rest isWaiting =>
    split at h
    · obtain rfl := Option.some.inj h
      simp [isWaiting]
    · cases h

/-- The outcomes of a pool that is run to its end: the next fetch starts whenever there is
    room, and otherwise the oldest flight completes and is delivered. -/
def run (fetch : Fetcher) (pool : Pool) : List FetchOutcome :=
  match _h : pool.start? with
  | some next => run fetch next
  | none =>
    match _flights : pool.flights with
    | [] => pool.delivered
    | flight :: rest =>
      run fetch { pool with flights := rest, delivered := pool.delivered ++ [flight.answer fetch] }
termination_by 2 * pool.waiting.length + pool.flights.length
decreasing_by
  · have := waiting_of_start? _h
    omega
  · simp [_flights]

end Pool

/-- The outcomes of fetching all the locators, in their order, with at most `concurrency`
    fetches under way, and never fewer than one. -/
def fetchAll (fetch : Fetcher) (concurrency : Nat) (locators : List String) :
    List FetchOutcome :=
  (Pool.begin concurrency locators).run fetch

end Stencil
