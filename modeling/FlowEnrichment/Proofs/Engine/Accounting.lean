import FlowEnrichment.Proofs.Engine.Effects
import FlowEnrichment.Proofs.Engine.Life
import Mathlib.Data.List.Perm.Basic

/-!
# Telemetry of batches

A batch that a worker takes is admitted or rejected by a breaker. One that was admitted is begun,
the providers are asked about it, and its query ends in one of four ways (`EndCause`). The totals of
requests, rejections and errors are to tell how often each of these happened. They do, but for three
kinds of ends. The query is recorded by the failure it ends with and not by what caused it: a
provider that fails in the words of a breaker counts as a rejection, and one that fails in the words
of a shutdown not at all. A failure that takes its worker with it is not recorded either
(`QueryEnd.Stray`). And the engine may be stopped after a batch was begun and before a provider was
asked about it. `Flow.telemetry_exact_iff` says that the totals are right exactly in the runs
without such an end.
-/
namespace FlowEnrichment

/-- What is counted is counted with one more condition or without it. -/
theorem countP_eq_add {α : Type} (p q : α → Bool) (xs : List α) :
    xs.countP p = xs.countP (fun x => p x && q x) + xs.countP fun x => p x && !q x := by
  rw [List.countP_eq_countP_filter_add xs p q, List.countP_filter, List.countP_filter]

/-- How the query of a batch comes to its end. -/
inductive EndCause where
  /-- The chain of providers had an outcome. -/
  | answered (outcome : Except Failure Unit)
  /-- It took too long. -/
  | timedOut
  /-- The engine was stopped. -/
  | shutDown
  /-- A provider crashed. -/
  | crashed

/-- The outcome by which the end is recorded. A crash has none. -/
def EndCause.recorded? : EndCause → Option (Except Failure Unit)
  | .answered outcome => some outcome
  | .timedOut => some (.error .queryTimeout)
  | .shutDown => some (.error .cancelled)
  | .crashed => none

/-- Whether the query failed or timed out, other than by the stop of the engine. A crash is none of
these. -/
def EndCause.fails : EndCause → Bool
  | .answered (.error _) | .timedOut => true
  | .answered (.ok ()) | .shutDown | .crashed => false

/-- The end of the query of a batch. -/
structure QueryEnd where
  /-- The exporter of the batch. -/
  exporter : Address
  /-- How it came. -/
  cause : EndCause
  /-- Whether a provider was asked before. -/
  asked : Bool
  /-- Whether the worker is gone with it. -/
  lost : Bool

/-- An outcome that is counted as an error. -/
def Engine.isError : Except Failure Unit → Bool
  | .ok () | .error .breakerOpen | .error .cancelled => false
  | .error _ => true

/-- An outcome that is counted as a rejection by a breaker. -/
def Engine.isRejection : Except Failure Unit → Bool
  | .error .breakerOpen => true
  | _ => false

namespace QueryEnd

/-- Whether it was about an exporter. -/
def about (exporter : Address) (ended : QueryEnd) : Bool := ended.exporter = exporter

/-- Whether the query failed or timed out. -/
def failed (ended : QueryEnd) : Bool := ended.cause.fails

/-- Whether the end is counted as an error. -/
def counted (ended : QueryEnd) : Bool := !ended.lost && ended.cause.recorded?.any Engine.isError

/-- Whether the end is counted as a rejection by a breaker. -/
def mistaken (ended : QueryEnd) : Bool :=
  !ended.lost && ended.cause.recorded?.any Engine.isRejection

/-- The query failed, but is not counted among those that did: its worker is gone, or it failed in
the words of a breaker or of a shutdown. -/
def Stray (ended : QueryEnd) : Prop :=
  ended.failed = true ∧ (ended.lost = true ∨ ended.cause = .answered (.error .breakerOpen) ∨
    ended.cause = .answered (.error .cancelled))

/-- What failed is stray exactly if it is not counted as an error. -/
theorem stray_iff (ended : QueryEnd) :
    ended.Stray ↔ ended.failed = true ∧ ended.counted = false := by
  obtain ⟨exporter, cause, asked, lost⟩ := ended
  refine and_congr_right fun fails => ?_
  cases lost with
  | true => simp [counted]
  | false =>
    cases cause with
    | answered outcome =>
      cases outcome with
      | ok => cases fails
      | error failure => cases failure <;> simp [counted, EndCause.recorded?, Engine.isError]
    | timedOut => simp [counted, EndCause.recorded?, Engine.isError]
    | shutDown => cases fails
    | crashed => cases fails

/-- What is counted as an error failed. -/
theorem failed_of_counted {ended : QueryEnd} (counts : ended.counted = true) :
    ended.failed = true := by
  obtain ⟨exporter, cause, asked, lost⟩ := ended
  cases cause with
  | answered outcome =>
    cases outcome with
    | ok => simp [counted, EndCause.recorded?, Engine.isError] at counts
    | error failure => rfl
  | timedOut => rfl
  | shutDown => simp [counted, EndCause.recorded?, Engine.isError] at counts
  | crashed => simp [counted, EndCause.recorded?] at counts

/-- What is counted as a rejection is stray. -/
theorem Stray.of_mistaken {ended : QueryEnd} (mistaken : ended.mistaken = true) :
    ended.Stray := by
  obtain ⟨exporter, cause, asked, lost⟩ := ended
  cases cause with
  | answered outcome =>
    unfold QueryEnd.mistaken at mistaken
    simp only [EndCause.recorded?, Option.any_some, Bool.and_eq_true] at mistaken
    obtain ⟨-, rejects⟩ := mistaken
    unfold Engine.isRejection at rejects
    split at rejects
    · exact ⟨rfl, .inr (.inl rfl)⟩
    · cases rejects
  | _ => simp [QueryEnd.mistaken, EndCause.recorded?, Engine.isRejection] at mistaken

/-- As many queries failed as are counted as errors exactly if none is stray. -/
theorem countP_failed_eq_iff (ends : List QueryEnd) :
    ends.countP counted = ends.countP failed ↔ ∀ ended ∈ ends, ¬ ended.Stray := by
  have split := countP_eq_add failed counted ends
  have errors : ends.countP (fun ended => ended.failed && ended.counted) = ends.countP counted := by
    refine List.countP_congr fun ended _ => ?_
    rw [Bool.and_eq_true]
    exact and_iff_right_of_imp failed_of_counted
  have none_left : ends.countP (fun ended => ended.failed && !ended.counted) = 0 ↔
      ∀ ended ∈ ends, ¬ ended.Stray := by
    simp only [List.countP_eq_zero, Bool.and_eq_true, Bool.not_eq_true', stray_iff]
  rw [← none_left]
  omega

/-- Three sums of ends are right if, and only if, a provider was asked before each and none is
stray. -/
theorem asked_and_not_stray_iff (ends : List QueryEnd) :
    (ends.countP mistaken = 0 ∧
      (∀ exporter, ends.countP (fun ended => ended.about exporter && ended.mistaken) =
        ends.countP fun ended => ended.about exporter && !ended.asked) ∧
      ends.countP counted = ends.countP fun ended => ended.failed && ended.asked) ↔
    ∀ ended ∈ ends, ended.asked = true ∧ ¬ ended.Stray := by
  have all_failed (asked : ∀ ended ∈ ends, ended.asked = true) :
      ends.countP (fun ended => ended.failed && ended.asked) = ends.countP failed := by
    refine List.countP_congr fun ended member => ?_
    rw [asked ended member, Bool.and_true]
  constructor
  · rintro ⟨none_mistaken, paired, errors⟩
    have asked : ∀ ended ∈ ends, ended.asked = true := by
      intro ended member
      have none_unasked := paired ended.exporter
      rw [List.countP_eq_zero.2 fun other among => ?_, eq_comm, List.countP_eq_zero] at none_unasked
      · simpa [about] using none_unasked ended member
      · simp [List.countP_eq_zero.1 none_mistaken other among]
    rw [all_failed asked, countP_failed_eq_iff] at errors
    exact fun ended member => ⟨asked ended member, errors ended member⟩
  · intro clean
    have kept : ∀ ended ∈ ends, ¬ ended.mistaken = true := fun ended member mistaken =>
      (clean ended member).2 (.of_mistaken mistaken)
    refine ⟨List.countP_eq_zero.2 kept, fun exporter => ?_, ?_⟩
    · refine List.countP_congr fun ended member => ?_
      simp [kept ended member, (clean ended member).1]
    · rw [all_failed fun ended member => (clean ended member).1]
      exact (countP_failed_eq_iff ends).2 fun ended member => (clean ended member).2

end QueryEnd

/-- A batch that a worker took. -/
structure Taking where
  /-- The exporter of the batch. -/
  exporter : Address
  /-- Whether the breaker admitted it. -/
  admitted : Bool

/-- Whether the batch was about an exporter. -/
def Taking.about (exporter : Address) (taking : Taking) : Bool := taking.exporter = exporter

/-- Whether a job is about an exporter. -/
def Job.about (exporter : Address) (job : Job) : Bool := job.batch.exporter = exporter

/-- Whether no provider was asked about the batch of a job yet. A job that waits for nothing has
been begun and has not gone on. -/
def Job.unasked (job : Job) : Bool := job.wait = .none

/-! ## Totals by exporter -/

/-- The sum of the totals of all exporters. -/
def ExporterTotals.sum (totals : ExporterTotals) : Nat := Engine.total (totals.map Prod.snd)

/-- One more for an exporter is one more in all. -/
theorem ExporterTotals.sum_bump (totals : ExporterTotals) (exporter : Address) :
    ExporterTotals.sum (totals.bump exporter) = totals.sum + 1 := by
  induction totals with
  | nil => rfl
  | cons first rest ih =>
    obtain ⟨key, total⟩ := first
    unfold sum at *
    rw [bump]
    split
    · simp only [List.map_cons, Engine.total]
      omega
    · simp only [List.map_cons, Engine.total]
      omega

namespace Engine

variable {before between after engine : Engine}

/-! ## What is counted -/

/-- What has been counted about batches: so many requests and errors, and possibly the rejection of
an exporter. -/
structure Counts (before after : Engine) (requests errors : Nat) (rejection : Option Address) :
    Prop where
  /-- The requests. -/
  requests : after.around.totals.requests = before.around.totals.requests + requests
  /-- The errors. -/
  errors : after.around.totals.errors = before.around.totals.errors + errors
  /-- The rejection. -/
  rejected : after.around.totals.rejected =
    match rejection with
    | none => before.around.totals.rejected
    | some exporter => before.around.totals.rejected.bump exporter

/-- Nothing has been counted about batches. -/
abbrev Uncounted (before after : Engine) : Prop := Counts before after 0 0 none

/-- What changes no total is not counted. -/
theorem uncounted_of_eq (same : after.around.totals = before.around.totals) :
    Uncounted before after := by
  constructor <;> rw [same] <;> rfl

/-- What is counted depends on the totals only. -/
theorem Counts.of_eq {engine engine' : Engine} {requests errors : Nat} {rejection : Option Address}
    (counts : Counts engine engine' requests errors rejection)
    (first : before.around.totals = engine.around.totals)
    (last : after.around.totals = engine'.around.totals) :
    Counts before after requests errors rejection := by
  obtain ⟨requests, errors, rejected⟩ := counts
  rw [← first, ← last] at requests errors rejected
  exact ⟨requests, errors, rejected⟩

/-- A job that goes on is not counted. -/
theorem stepwise_totals :
    Stepwise fun before after => after.around.totals = before.around.totals where
  refl _ := rfl
  trans first second := second.trans first
  around _ _ _ _ _ := rfl
  store _ _ := rfl
  reports _ _ := rfl

/-! ## Work on batches -/

/-- A rejection is counted for its exporter. -/
theorem reject_counts (engine : Engine) (exporter : Address) :
    Counts engine (engine.reject exporter) 0 0 (some exporter) := by
  unfold reject
  dsimp only
  split <;> exact ⟨rfl, rfl, rfl⟩

/-- An outcome that is recorded is counted for what it says. -/
theorem conclude_counts (engine : Engine) (batch : BatchQuery) (outcome : Except Failure Unit) :
    Counts engine (engine.conclude batch outcome) 0 (isError outcome).toNat
      (if isRejection outcome then some batch.exporter else none) := by
  unfold conclude
  split
  · exact ⟨rfl, rfl, rfl⟩
  · exact engine.reject_counts batch.exporter
  · exact ⟨rfl, rfl, rfl⟩
  · next failure other gone =>
    have error : isError (.error failure) = true := by
      unfold isError
      split
      · next same => cases same
      · next same => cases same; exact absurd rfl other
      · next same => cases same; exact absurd rfl gone
      · rfl
    have kept : isRejection (.error failure) = false := by
      unfold isRejection
      split
      · next same => cases same; exact absurd rfl other
      · rfl
    rw [error, kept]
    exact ⟨rfl, rfl, rfl⟩

/-- The end of a query is counted for the outcome, unless the worker is gone. -/
theorem finish_counts (engine : Engine) (batch : BatchQuery) (outcome : Except Failure Unit) :
    ∃ lost : Bool, (engine.finish batch outcome).crashed = engine.crashed + lost.toNat ∧
      (engine.finish batch outcome).jobs = engine.jobs ∧
      Counts engine (engine.finish batch outcome) 0 (!lost && isError outcome).toNat
        (if !lost && isRejection outcome then some batch.exporter else none) := by
  unfold finish
  dsimp only
  generalize engine.breakers.record batch.exporter engine.now outcome.isOk = recorded
  split
  · exact ⟨true, rfl, rfl, rfl, rfl, rfl⟩
  · have counts := conclude_counts { engine with breakers := recorded.table } batch outcome
    obtain ⟨around, warned, concluded, -⟩ :=
      conclude_parts { engine with breakers := recorded.table } batch outcome
    rw [concluded] at counts ⊢
    refine ⟨false, rfl, rfl, ?_⟩
    simp only [Bool.not_false, Bool.true_and]
    exact counts.of_eq rfl rfl

/-- How the query of a job ends that goes on; nothing if it goes on later. -/
def endCause? (engine : Engine) (job : Job) : Option EndCause :=
  if engine.phase = .stopping then some .shutDown
  else
    match engine.advance job with
    | (_, .answered outcome) => some (.answered outcome)
    | (_, .crashed) => some .crashed
    | (engine, .waits job) => if engine.timedOut job then some .timedOut else none

/-- Nothing was counted and no job came or went. -/
structure Alike (before after : Engine) : Prop where
  /-- The totals are the same. -/
  totals : after.around.totals = before.around.totals
  /-- The jobs are the same. -/
  jobs : after.jobs = before.jobs
  /-- No task crashed. -/
  crashed : after.crashed = before.crashed

/-- A provider waits for something if it waits. -/
theorem carryOut_wait {effects : List Effect} {left : Option (Wait × List Effect)}
    (carried : carryOut effects engine = (after, left)) : ∀ waits ∈ left, waits.1 ≠ .none := by
  rintro waits rfl
  induction effects generalizing engine with
  | nil => cases carried
  | cons effect effects ih =>
    cases effect with
    | note backend batch => exact ih carried
    | takePermit backend =>
      rw [carryOut] at carried
      dsimp only at carried
      split at carried
      · exact ih carried
      · cases carried
        exact Wait.noConfusion
    | pause time =>
      rw [carryOut] at carried
      split at carried
      · exact ih carried
      · cases carried
        exact Wait.noConfusion
    | report update => exact ih carried
    | reportLater delay update => exact ih carried

/-- A chain of providers that comes to a wait still has the same batch and waits for something. -/
theorem proceed_waits {later : List Provider} {name : String} {job waiting : Job}
    (waits : (proceed later name job engine).2 = .waits waiting) :
    waiting.batch = job.batch ∧ waiting.unasked = false := by
  fun_induction proceed later name job engine with
  | case1 later name job engine reached wait effects carried =>
    cases waits
    exact ⟨rfl, decide_eq_false (carryOut_wait carried _ rfl)⟩
  | case2 | case3 | case4 => cases waits
  | case5 name job engine reached carried outcome ends indexes handed _ provider later asked ih =>
    exact ih waits

/-- A job that waits, having gone on, still has the same batch and waits for something. -/
theorem advance_waits {job waiting : Job} (waits : (engine.advance job).2 = .waits waiting) :
    waiting.batch = job.batch ∧ waiting.unasked = false := by
  unfold advance at waits
  split at waits
  · exact proceed_waits waits
  · next unfinished =>
    cases waits
    refine ⟨rfl, decide_eq_false fun none_left => unfinished ?_⟩
    rw [none_left]
    rfl

/-- A job that goes on ends with an outcome, by a crash, or is put back. -/
theorem resume_cases (engine : Engine) (job : Job) : ∃ between, Alike engine between ∧
    ((∃ cause outcome, engine.endCause? job = some cause ∧ cause.recorded? = some outcome ∧
        engine.resume job = between.finish job.batch outcome) ∨
      (engine.endCause? job = some .crashed ∧ engine.resume job = between.abort job) ∨
      engine.endCause? job = none ∧
        ∃ later, later.batch = job.batch ∧ later.unasked = false ∧
          engine.resume job = { between with jobs := between.jobs ++ [later] }) := by
  unfold resume endCause?
  split
  · exact ⟨engine, ⟨rfl, rfl, rfl⟩, .inl ⟨_, _, rfl, rfl, rfl⟩⟩
  · have totals := stepwise_totals.advance engine job
    obtain ⟨around, cache, reports, advanced, -⟩ := engine.advance_parts job
    cases reached : engine.advance job with
    | mk between progress =>
      rw [reached] at advanced totals
      dsimp only at advanced totals
      have alike : Alike engine between := by
        rw [advanced] at totals ⊢
        exact ⟨totals, rfl, rfl⟩
      refine ⟨between, alike, ?_⟩
      cases progress with
      | answered outcome => exact .inl ⟨_, _, rfl, rfl, rfl⟩
      | crashed => exact .inr (.inl ⟨rfl, rfl⟩)
      | waits later =>
        obtain ⟨same, asked⟩ := advance_waits (congrArg Prod.snd reached)
        dsimp only
        rw [same]
        split
        · exact .inl ⟨_, _, rfl, rfl, rfl⟩
        · exact .inr (.inr ⟨rfl, later, same, asked, rfl⟩)

/-- The exporter about which a provider is asked when a job goes on that has not gone on before.
Nobody is asked any more when the engine is being stopped. -/
def asking? (engine : Engine) (job : Job) : Option Address :=
  if job.unasked ∧ engine.phase ≠ .stopping then some job.batch.exporter else none

/-- The end of the query of a job that goes on, by its cause. -/
def endBy (engine : Engine) (job : Job) (cause : EndCause) : QueryEnd where
  exporter := job.batch.exporter
  cause := cause
  asked := !job.unasked || engine.phase ≠ .stopping
  lost := engine.crashed < (engine.resume job).crashed

/-- What has been counted when a query has ended. -/
def Closes (before after : Engine) (ended : QueryEnd) : Prop :=
  Counts before after 0 ended.counted.toNat (if ended.mistaken then some ended.exporter else none)

/-- The end of a job that goes on is counted; a job that is put back is not. -/
theorem resume_counts (engine : Engine) (job : Job) :
    match engine.endCause? job with
    | some cause =>
      Closes engine (engine.resume job) (engine.endBy job cause) ∧
        (engine.resume job).jobs = engine.jobs
    | none =>
      Uncounted engine (engine.resume job) ∧ ∃ later, later.batch = job.batch ∧
        later.unasked = false ∧ (engine.resume job).jobs = engine.jobs ++ [later] := by
  obtain ⟨between, alike, ⟨cause, outcome, ends, recorded, resumed⟩ | ⟨ends, resumed⟩ |
    ⟨ends, later, batch, asked, resumed⟩⟩ := engine.resume_cases job
  · unfold endBy
    rw [ends, resumed]
    dsimp only
    obtain ⟨lost, crashed, jobs, counts⟩ := between.finish_counts job.batch outcome
    have gone : decide (engine.crashed < (between.finish job.batch outcome).crashed) = lost := by
      rw [crashed, alike.crashed]
      cases lost with
      | true => exact decide_eq_true (Nat.lt_succ_self _)
      | false => exact decide_eq_false (Nat.lt_irrefl _)
    rw [gone]
    refine ⟨?_, jobs.trans alike.jobs⟩
    unfold Closes QueryEnd.counted QueryEnd.mistaken
    rw [recorded]
    exact counts.of_eq alike.totals.symm rfl
  · unfold endBy
    rw [ends, resumed]
    dsimp only
    refine ⟨?_, alike.jobs⟩
    unfold Closes QueryEnd.counted QueryEnd.mistaken EndCause.recorded?
    simp only [Option.any_none, Bool.and_false]
    exact uncounted_of_eq alike.totals
  · rw [ends, resumed]
    refine ⟨uncounted_of_eq alike.totals, later, batch, asked, ?_⟩
    rw [alike.jobs]

/-! ## Actions -/

/-- What becomes of the batch that a worker takes by an action. -/
def taking? (engine : Engine) : Action → Option Taking
  | .take => engine.channel.head?.map fun batch =>
      ⟨batch.exporter, (engine.breakers.enter batch.exporter engine.now).2.isSome⟩
  | _ => none

/-- The engine as the job at a position finds it, and the job. -/
def jobAt? (engine : Engine) : Action → Option (Engine × Job)
  | .work position =>
    engine.jobs[position]?.map fun job =>
      ({ engine with jobs := engine.jobs.eraseIdx position }, job)
  | _ => none

/-- The exporter about whose batch the first provider is asked by an action. -/
def asked? (engine : Engine) (action : Action) : Option Address :=
  (engine.jobAt? action).bind fun (others, job) => others.asking? job

/-- How the query of a batch ends by an action. -/
def ending? (engine : Engine) (action : Action) : Option QueryEnd :=
  (engine.jobAt? action).bind fun (others, job) => (others.endCause? job).map (others.endBy job)

/-- What is counted balances with the batches that were taken, those that a provider was asked about
and the queries that ended. -/
structure Ledger (before after : Engine) (taken : List Taking) (asked : List Address)
    (ended : List QueryEnd) : Prop where
  /-- A batch that is admitted is a job until its query ends. -/
  jobs : ∀ exporter,
    ended.countP (·.about exporter) + after.jobs.countP (·.about exporter) =
      before.jobs.countP (·.about exporter) +
        taken.countP fun taking => taking.about exporter && taking.admitted
  /-- It is one that no provider was asked about until one is or its query ends. -/
  asked : ∀ exporter,
    asked.count exporter + ended.countP (fun ended => ended.about exporter && !ended.asked) +
        after.jobs.countP (fun job => job.about exporter && job.unasked) =
      before.jobs.countP (fun job => job.about exporter && job.unasked) +
        taken.countP fun taking => taking.about exporter && taking.admitted
  /-- A request is counted when a batch is admitted. -/
  requests : after.around.totals.requests =
    before.around.totals.requests + taken.countP Taking.admitted
  /-- An error is counted when a query ends with one. -/
  errors : after.around.totals.errors = before.around.totals.errors + ended.countP QueryEnd.counted
  /-- A rejection is counted when a batch is not admitted, and when a query ends with one. -/
  rejected : ∀ exporter, after.around.totals.rejected.of exporter =
    before.around.totals.rejected.of exporter +
      taken.countP (fun taking => taking.about exporter && !taking.admitted) +
      ended.countP fun ended => ended.about exporter && ended.mistaken
  /-- So it is for all exporters together. -/
  sum : ExporterTotals.sum after.around.totals.rejected =
    ExporterTotals.sum before.around.totals.rejected +
      taken.countP (!·.admitted) + ended.countP QueryEnd.mistaken

/-- What is counted of two parts balances with both. -/
theorem Ledger.append {taken taken' : List Taking} {asked asked' : List Address}
    {ended ended' : List QueryEnd} (first : Ledger before between taken asked ended)
    (second : Ledger between after taken' asked' ended') :
    Ledger before after (taken ++ taken') (asked ++ asked') (ended ++ ended') where
  jobs exporter := by
    have := first.jobs exporter
    have := second.jobs exporter
    rw [List.countP_append, List.countP_append]
    omega
  asked exporter := by
    have := first.asked exporter
    have := second.asked exporter
    rw [List.count_append, List.countP_append, List.countP_append]
    omega
  requests := by rw [second.requests, first.requests, List.countP_append, Nat.add_assoc]
  errors := by rw [second.errors, first.errors, List.countP_append, Nat.add_assoc]
  rejected exporter := by
    rw [second.rejected, first.rejected, List.countP_append, List.countP_append]
    omega
  sum := by
    rw [second.sum, first.sum, List.countP_append, List.countP_append]
    omega

/-- What is not counted balances with nothing. -/
theorem Uncounted.ledger (uncounted : Uncounted before after) (jobs : after.jobs = before.jobs) :
    Ledger before after [] [] [] where
  jobs exporter := by rw [jobs, List.countP_nil, Nat.zero_add]; rfl
  asked exporter := by rw [jobs, List.count_nil, List.countP_nil, Nat.zero_add]; rfl
  requests := uncounted.requests
  errors := uncounted.errors
  rejected exporter := by rw [uncounted.rejected]; rfl
  sum := by rw [uncounted.rejected]; rfl

/-- What requests and maintenance count balances with nothing. -/
theorem Served.ledger {around : Surroundings} (served : Served before.around around)
    (same : after.around = around) (jobs : after.jobs = before.jobs) :
    Ledger before after [] [] [] := by
  have uncounted : Uncounted before after := by
    cases served
    constructor <;> rw [same] <;> rfl
  exact uncounted.ledger jobs

/-- What is counted of a batch that is admitted balances with it. -/
theorem Counts.ledger_of_admitted {exporter : Address} {job : Job}
    (counts : Counts before after 1 0 none) (about : job.batch.exporter = exporter)
    (unasked : job.unasked = true) (jobs : after.jobs = before.jobs ++ [job]) :
    Ledger before after [⟨exporter, true⟩] [] [] where
  jobs other := by
    rw [jobs, List.countP_append, List.countP_singleton, List.countP_singleton]
    simp [Job.about, Taking.about, about]
  asked other := by
    rw [jobs, List.countP_append, List.countP_singleton, List.countP_singleton]
    simp [Job.about, Taking.about, about, unasked]
  requests := counts.requests
  errors := counts.errors
  rejected other := by simp [counts.rejected]
  sum := by rw [counts.rejected]; rfl

/-- What is counted of a batch that is rejected balances with it. -/
theorem Counts.ledger_of_rejected {exporter : Address}
    (counts : Counts before after 0 0 (some exporter)) (jobs : after.jobs = before.jobs) :
    Ledger before after [⟨exporter, false⟩] [] [] where
  jobs other := by simp [jobs]
  asked other := by simp [jobs]
  requests := counts.requests
  errors := counts.errors
  rejected other := by
    simp [counts.rejected, ExporterTotals.of_bump, Taking.about, List.countP_singleton]
  sum := by
    rw [counts.rejected]
    exact ExporterTotals.sum_bump _ _

/-- What is counted when a worker takes a batch balances with it. -/
theorem undertake_ledger (engine : Engine) (batch : BatchQuery) (any : engine.providers ≠ []) :
    Ledger engine (engine.undertake batch)
      [⟨batch.exporter, (engine.breakers.enter batch.exporter engine.now).2.isSome⟩] [] [] := by
  unfold undertake
  split
  case h_1 entered _ =>
    rw [entered]
    exact Counts.ledger_of_admitted ⟨rfl, rfl, rfl⟩ rfl rfl rfl
  case h_2 none_there => exact absurd none_there any
  case h_3 breakers entered =>
    rw [entered]
    have counts := reject_counts { engine with breakers } batch.exporter
    obtain ⟨around, warned, same, -⟩ := reject_parts { engine with breakers } batch.exporter
    rw [same] at counts ⊢
    have rejected : Counts engine { engine with breakers, around, warned }.rest 0 0
        (some batch.exporter) := counts.of_eq rfl rfl
    exact rejected.ledger_of_rejected rfl

/-- A job is one of those with which workers are busy. -/
theorem countP_jobs {position : Nat} {job : Job} (found : engine.jobs[position]? = some job)
    (p : Job → Bool) :
    engine.jobs.countP p = (engine.jobs.eraseIdx position).countP p + if p job then 1 else 0 := by
  obtain ⟨bound, rfl⟩ := List.getElem?_eq_some_iff.1 found
  rw [← (List.getElem_cons_eraseIdx_perm bound).countP_eq p, List.countP_cons]

/-- A provider is asked about a batch when its job first goes on, unless its query ends without. -/
theorem asking_balance (engine : Engine) (job : Job) (cause : EndCause) (exporter : Address) :
    (engine.asking? job).toList.count exporter +
        (if (engine.endBy job cause).about exporter && !(engine.endBy job cause).asked
          then 1 else 0) =
      if job.about exporter && job.unasked then 1 else 0 := by
  unfold asking? endBy QueryEnd.about Job.about
  cases job.unasked with
  | true =>
    by_cases stopping : engine.phase = .stopping
    · simp [stopping]
    · by_cases same : job.batch.exporter = exporter
      · simp [stopping, same]
      · simp [stopping, same]
  | false => simp

/-- What is counted when a query ends balances with it. -/
theorem Closes.ledger {job : Job} {cause : EndCause}
    (closes : Closes before after (engine.endBy job cause))
    (jobs : ∀ p, before.jobs.countP p = after.jobs.countP p + if p job then 1 else 0) :
    Ledger before after [] (engine.asking? job).toList [engine.endBy job cause] := by
  obtain ⟨requests, errors, rejected⟩ := closes
  refine ⟨fun exporter => ?_, fun exporter => ?_, requests, ?_, fun exporter => ?_, ?_⟩
  · rw [jobs, List.countP_singleton, Nat.add_comm]
    rfl
  · have asked := engine.asking_balance job cause exporter
    rw [jobs, List.countP_singleton, asked, Nat.add_comm]
    rfl
  · rw [errors]
    cases counted : (engine.endBy job cause).counted <;> simp [counted]
  · rw [rejected]
    cases mistaken : (engine.endBy job cause).mistaken with
    | true => simp [mistaken, ExporterTotals.of_bump, QueryEnd.about, List.countP_singleton]
    | false => simp [mistaken]
  · rw [rejected]
    cases mistaken : (engine.endBy job cause).mistaken with
    | true => simp [mistaken, ExporterTotals.sum_bump]
    | false => simp [mistaken]

/-- A job that is put back balances with the provider that was asked. -/
theorem Uncounted.ledger_of_later {job later : Job} (uncounted : Uncounted before after)
    (jobs : ∀ p, before.jobs.countP p + (if p later then 1 else 0) =
      after.jobs.countP p + if p job then 1 else 0)
    (batch : later.batch = job.batch) (asked : later.unasked = false)
    (running : engine.phase ≠ .stopping) :
    Ledger before after [] (engine.asking? job).toList [] where
  jobs exporter := by
    have same : later.about exporter = job.about exporter := by
      unfold Job.about
      rw [batch]
    have balanced := jobs (·.about exporter)
    rw [same] at balanced
    rw [List.countP_nil, List.countP_nil]
    omega
  asked exporter := by
    have balanced := jobs fun job => job.about exporter && job.unasked
    have first : (engine.asking? job).toList.count exporter =
        if job.about exporter && job.unasked then 1 else 0 := by
      have either := engine.asking_balance job .timedOut exporter
      simpa [endBy, running] using either
    simp only [asked, Bool.and_false, Bool.false_eq_true, if_false] at balanced
    rw [first, List.countP_nil, List.countP_nil]
    omega
  requests := uncounted.requests
  errors := uncounted.errors
  rejected exporter := by rw [uncounted.rejected]; rfl
  sum := by rw [uncounted.rejected]; rfl

/-- What is counted when a job goes on balances with the provider that is asked and the query that
ends. -/
theorem resume_ledger {position : Nat} {job : Job} (found : engine.jobs[position]? = some job) :
    let others := { engine with jobs := engine.jobs.eraseIdx position }
    Ledger engine (others.resume job) [] (others.asking? job).toList
      ((others.endCause? job).map (others.endBy job)).toList := by
  intro others
  have counts := others.resume_counts job
  have picked := countP_jobs found
  cases ends : others.endCause? job with
  | some cause =>
    rw [ends] at counts
    obtain ⟨closes, jobs⟩ := counts
    have closed : Closes engine _ _ := closes.of_eq rfl rfl
    refine closed.ledger fun p => ?_
    rw [jobs]
    exact picked p
  | none =>
    rw [ends] at counts
    obtain ⟨uncounted, later, batch, asked, jobs⟩ := counts
    have running : others.phase ≠ .stopping := by
      intro stopping
      unfold endCause? at ends
      rw [if_pos stopping] at ends
      cases ends
    have still : Uncounted engine _ := uncounted.of_eq rfl rfl
    refine still.ledger_of_later (fun p => ?_) batch asked running
    rw [jobs, picked, List.countP_append, List.countP_singleton]
    exact Nat.add_right_comm _ _ _

/-- What an action counts balances with the batch that it takes, the provider that is asked and the
query that it ends. -/
theorem step_ledger (any : engine.providers ≠ []) {action : Action}
    (taken : engine.step? action = some after) :
    Ledger engine after (engine.taking? action).toList (engine.asked? action).toList
      (engine.ending? action).toList := by
  have still (same : after.around.totals = engine.around.totals)
      (jobs : after.jobs = engine.jobs) : Ledger engine after [] [] [] :=
    (uncounted_of_eq same).ledger jobs
  cases action with
  | prepare =>
    obtain ⟨maintenance, crashed, rfl⟩ := step_prepare taken
    exact still rfl rfl
  | join =>
    obtain ⟨-, -, rfl⟩ := step_join taken
    exact still rfl rfl
  | seek =>
    obtain ⟨-, -, -, rfl⟩ := step_seek taken
    exact still rfl rfl
  | listen =>
    obtain ⟨-, -, _, _, -, _, _, -, ⟨_, _, -, rfl⟩ | ⟨-, rfl⟩⟩ := step_listen taken
    · exact still rfl rfl
    · exact still rfl rfl
  | deliver =>
    obtain ⟨-, _, _, -, -, _, _, rfl, -⟩ := step_deliver taken
    exact Uncounted.ledger ⟨rfl, rfl, rfl⟩ rfl
  | claim =>
    obtain ⟨-, _, _, -, -, rfl⟩ := step_claim taken
    exact still rfl rfl
  | take =>
    obtain ⟨-, batch, channel, sent, -, rfl⟩ := step_take taken
    obtain ⟨jobs, asked, requests, errors, rejected, sum⟩ := undertake_ledger
      { engine with waiting := engine.waiting - 1, channel } batch any
    unfold taking?
    rw [sent]
    exact ⟨jobs, asked, requests, errors, rejected, sum⟩
  | work position =>
    obtain ⟨job, found, rfl⟩ := step_work taken
    unfold asked? ending? jobAt?
    dsimp only
    rw [found]
    exact resume_ledger found
  | report =>
    obtain ⟨due, later, -, -, rfl⟩ := step_report taken
    obtain ⟨cache, stored⟩ := foldl_store_parts due { engine with reports := later }
    rw [stored] at still ⊢
    exact still rfl rfl
  | maintain =>
    obtain ⟨deadline, -, -, rfl⟩ := step_maintain taken
    obtain ⟨count, next, -, served⟩ := engine.serveTicks_eq deadline
    obtain ⟨cache, queue, around, maintained, counted⟩ := maintainTimes_parts count engine
    rw [served, maintained]
    exact counted.ledger rfl rfl

end Engine

/-! ## Lives -/

namespace Flow

open Engine

variable {config : Configuration} {plans : List ProviderPlan} {counters : CacheCounters}
  {around : Surroundings} {trace : Trace} {flow after : Flow}

/-- What one kind of record says about actions, for whatever happens. -/
def ofAction {α : Type} (record : Engine → Action → Option α) : Flow × Happening → Option α
  | (flow, .act action) => record flow.engine action
  | _ => none

/-- The batches that workers have taken, in order. -/
def takenOf (trace : Trace) : List Taking := trace.filterMap (ofAction Engine.taking?)

/-- The exporters about whose batches a provider was asked, in order. A batch is there once,
however many providers were asked about it. -/
def askedOf (trace : Trace) : List Address := trace.filterMap (ofAction Engine.asked?)

/-- The ends of queries, in order. -/
def endedOf (trace : Trace) : List QueryEnd := trace.filterMap (ofAction Engine.ending?)

/-- What one entry says is a list of at most one. -/
theorem toList_eq_filterMap {α : Type} (record : Engine → Action → Option α) (flow : Flow)
    (action : Action) :
    (record flow.engine action).toList = [(flow, .act action)].filterMap (ofAction record) := by
  cases said : record flow.engine action with
  | none => simp [ofAction, said]
  | some entry => simp [ofAction, said]

/-- What is counted when something happens balances with the batch that is taken, the provider that
is asked and the query that ends. -/
theorem Happens.ledger {happening : Happening} (happens : Happens happening flow after)
    (any : flow.engine.providers ≠ []) :
    Ledger flow.engine after.engine (takenOf [(flow, happening)]) (askedOf [(flow, happening)])
      (endedOf [(flow, happening)]) := by
  cases happens with
  | pass counted => exact (uncounted_of_eq counted).ledger rfl
  | start =>
    obtain ⟨cache, events, phase, fresh, maintenance, graceDeadline, started⟩ :=
      flow.engine.start_parts
    rw [started]
    exact Uncounted.ledger ⟨rfl, rfl, rfl⟩ rfl
  | halt =>
    obtain ⟨phase, queue, halted⟩ := flow.engine.halt_parts
    rw [halted]
    exact Uncounted.ledger ⟨rfl, rfl, rfl⟩ rfl
  | close =>
    obtain ⟨files, events, closed⟩ := flow.engine.close_parts
    rw [closed]
    exact Uncounted.ledger ⟨rfl, rfl, rfl⟩ rfl
  | lookup _ now query =>
    obtain ⟨queue, around, answered, served⟩ := flow.engine.lookup_parts now query
    rw [answered]
    exact served.ledger rfl rfl
  | maintain _ now =>
    obtain ⟨queue, around, maintained, served⟩ := flow.engine.maintain_parts now
    rw [maintained]
    exact served.ledger rfl rfl
  | request _ query =>
    obtain ⟨queue, around, queued, served⟩ := flow.engine.enqueue_parts query
    rw [queued]
    exact served.ledger rfl rfl
  | report _ update => exact Uncounted.ledger ⟨rfl, rfl, rfl⟩ rfl
  | act _ taken =>
    have ledger := step_ledger any taken
    rw [toList_eq_filterMap, toList_eq_filterMap, toList_eq_filterMap] at ledger
    exact ledger
  | gather gathering => cases gathering <;> exact Uncounted.ledger ⟨rfl, rfl, rfl⟩ rfl
  | recast _ => exact Uncounted.ledger ⟨rfl, rfl, rfl⟩ rfl

/-- All that was counted since an engine was built balances with the batches that were taken, the
providers that were asked and the queries that ended. -/
theorem Run.ledger (run : Run config plans counters around trace flow) :
    ∃ engine, build config plans counters around = .ok engine ∧
      Ledger engine flow.engine (takenOf trace) (askedOf trace) (endedOf trace) := by
  induction run with
  | built built => exact ⟨_, built, (uncounted_of_eq rfl).ledger rfl⟩
  | next run happens ih =>
    obtain ⟨engine, built, ledger⟩ := ih
    refine ⟨engine, built, ?_⟩
    unfold takenOf askedOf endedOf
    rw [List.filterMap_append, List.filterMap_append, List.filterMap_append]
    exact ledger.append (happens.ledger run.providers_ne_nil)

/-- Totals tell what became of the batches that were taken meanwhile. -/
structure Exact (before after : EngineTotals) (trace : Trace) : Prop where
  /-- Every batch is counted once, as a request or as a rejection. -/
  batches : after.requests + after.rejected.sum =
    before.requests + before.rejected.sum + (takenOf trace).length
  /-- The rejections of an exporter are its batches about which no provider was asked. -/
  rejected : ∀ exporter, after.rejected.of exporter + (askedOf trace).count exporter =
    before.rejected.of exporter + (takenOf trace).countP (·.about exporter)
  /-- The errors are the batches about which a provider was asked and whose query failed or timed
  out. -/
  errors : after.errors =
    before.errors + (endedOf trace).countP fun ended => ended.failed && ended.asked

/-- Whenever in the life of an engine no worker is busy with a batch, each batch about which a
provider was asked is one whose query has ended. The totals then tell exactly what became of the
batches if, and only if, a provider was asked before every end of a query, and no query failed in
the words of a breaker or of a shutdown or took its worker with it. -/
theorem telemetry_exact_iff (run : Run config plans counters around trace flow)
    (idle : flow.engine.jobs = []) :
    (∀ exporter, (askedOf trace).count exporter =
      (endedOf trace).countP fun ended => ended.about exporter && ended.asked) ∧
    (Exact around.totals flow.engine.around.totals trace ↔
      ∀ ended ∈ endedOf trace, ended.asked = true ∧ ¬ ended.Stray) := by
  obtain ⟨engine, built, ledger⟩ := run.ledger
  obtain ⟨-, providers, -, rfl⟩ := build_eq_ok built
  obtain ⟨jobs, asked, requests, errors, rejected, sum⟩ := ledger
  simp only [idle, List.countP_nil, Nat.zero_add, Nat.add_zero] at jobs asked
  dsimp only at requests errors rejected sum
  have ends (exporter : Address) := countP_eq_add (·.about exporter) QueryEnd.asked (endedOf trace)
  have takings (exporter : Address) :=
    countP_eq_add (·.about exporter) Taking.admitted (takenOf trace)
  have all : (takenOf trace).length =
      (takenOf trace).countP Taking.admitted + (takenOf trace).countP (!·.admitted) := by
    rw [List.length_eq_countP_add_countP Taking.admitted]
    simp
  refine ⟨fun exporter => ?_, .trans ?_ (QueryEnd.asked_and_not_stray_iff _)⟩
  · have := jobs exporter
    have := asked exporter
    have := ends exporter
    omega
  constructor
  · rintro ⟨batches, told, counted⟩
    refine ⟨by omega, fun exporter => ?_, by omega⟩
    have := asked exporter
    have := rejected exporter
    have := takings exporter
    have := told exporter
    omega
  · rintro ⟨none_mistaken, paired, counted⟩
    refine ⟨by omega, fun exporter => ?_, by omega⟩
    have := asked exporter
    have := rejected exporter
    have := takings exporter
    have := paired exporter
    omega

/-- The telemetry of a query that failed is exact: one request, no rejection and one error. -/
theorem telemetry_exact_after_failure :
    ∃ trace flow,
      Run {} [Script.plan { failing := [⟨1⟩] } 0] {} {} trace flow ∧
      (takenOf trace).length = 1 ∧ flow.engine.jobs = [] ∧
      Exact {} flow.engine.around.totals trace ∧ flow.engine.around.totals.errors = 1 := by
  have built : Run {} [Script.plan { failing := [⟨1⟩] } 0] {} {} [] _ := .built rfl
  have asked := built.next (.lookup _ .epoch ⟨⟨1⟩, 1⟩)
  have started := asked.next (.start _)
  have joined := started.next (.act (.inl rfl) (rfl : step? _ .join = some _))
  have found := joined.next (.act (.inl rfl) (rfl : step? _ .seek = some _))
  have heard := found.next (.act (.inl rfl) (rfl : step? _ .listen = some _))
  have sent := heard.next (.act (.inl rfl) (rfl : step? _ .deliver = some _))
  have taken := sent.next (.act (.inl rfl) (rfl : step? _ .take = some _))
  have worked := taken.next (.act (.inl rfl) (rfl : step? _ (.work 0) = some _))
  have clean {trace : Trace} (ends : endedOf trace =
      [⟨⟨1⟩, .answered (.error (.provider "unreachable")), true, false⟩]) :
      ∀ ended ∈ endedOf trace, ended.asked = true ∧ ¬ ended.Stray := by
    rw [ends]
    intro ended member
    rw [List.mem_singleton.1 member]
    exact ⟨rfl, by simp [QueryEnd.Stray]⟩
  exact ⟨_, _, worked, rfl, rfl, (telemetry_exact_iff worked rfl).2.2 (clean rfl), rfl⟩

/-- A provider that fails in the words of a breaker is counted as a rejection although it was asked,
and not as an error although it failed. A batch that was begun when the engine was stopped is
counted as a request although no provider was asked about it. -/
theorem telemetry_inexact :
    (let plan := Script.plan { failing := [⟨1⟩], failure := .breakerOpen } 0
      ∃ trace flow, plan.Reliable ∧ Run {} [plan] {} {} trace flow ∧
        flow.engine.jobs = [] ∧ (takenOf trace).length = 1 ∧ askedOf trace = [⟨1⟩] ∧
        (endedOf trace).map QueryEnd.failed = [true] ∧
        flow.engine.around.totals.requests + flow.engine.around.totals.rejected.sum = 2 ∧
        flow.engine.around.totals.rejected.of ⟨1⟩ = 1 ∧ flow.engine.around.totals.errors = 0) ∧
    (let plan := Script.plan {} 0
      ∃ trace flow, plan.Reliable ∧ Run {} [plan] {} {} trace flow ∧
        flow.engine.jobs = [] ∧ (takenOf trace).length = 1 ∧ askedOf trace = [] ∧
        flow.engine.around.totals.requests = 1 ∧
        flow.engine.around.totals.rejected.of ⟨1⟩ = 0) := by
  refine ⟨?words, ?early⟩
  case words =>
    intro plan
    have built : Run {} [plan] {} {} [] _ := .built rfl
    have asked := built.next (.lookup _ .epoch ⟨⟨1⟩, 1⟩)
    have started := asked.next (.start _)
    have joined := started.next (.act (.inl rfl) (rfl : step? _ .join = some _))
    have found := joined.next (.act (.inl rfl) (rfl : step? _ .seek = some _))
    have heard := found.next (.act (.inl rfl) (rfl : step? _ .listen = some _))
    have sent := heard.next (.act (.inl rfl) (rfl : step? _ .deliver = some _))
    have taken := sent.next (.act (.inl rfl) (rfl : step? _ .take = some _))
    have worked := taken.next (.act (.inl rfl) (rfl : step? _ (.work 0) = some _))
    exact ⟨_, _, Script.plan_reliable rfl 0, worked, rfl, rfl, rfl, rfl, rfl, rfl, rfl⟩
  case early =>
    intro plan
    have built : Run {} [plan] {} {} [] _ := .built rfl
    have asked := built.next (.lookup _ .epoch ⟨⟨1⟩, 1⟩)
    have started := asked.next (.start _)
    have joined := started.next (.act (.inl rfl) (rfl : step? _ .join = some _))
    have found := joined.next (.act (.inl rfl) (rfl : step? _ .seek = some _))
    have heard := found.next (.act (.inl rfl) (rfl : step? _ .listen = some _))
    have sent := heard.next (.act (.inl rfl) (rfl : step? _ .deliver = some _))
    have taken := sent.next (.act (.inl rfl) (rfl : step? _ .take = some _))
    have told := taken.next (.halt _)
    have worked := told.next (.act (.inl rfl) (rfl : step? _ (.work 0) = some _))
    exact ⟨_, _, Script.plan_reliable rfl 0, worked, rfl, rfl, rfl, rfl, rfl⟩

end Flow

end FlowEnrichment
