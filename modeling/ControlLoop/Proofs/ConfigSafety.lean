import ControlLoop.Config.Plant
import ControlLoop.Config.Service
import ControlLoop.Proofs.SpanConversion

/-! # What validation guarantees

`validate` stands in front of the conversions the runners make: a service's poll timeout
becomes a span of milliseconds, a plant's tick rate becomes a tick period of one second over
the rate, and a plant's duration becomes a span of seconds. Each `validate` is characterised
exactly (`ServiceConfig.validate_eq_ok_iff`, `PlantConfig.validate_eq_ok_iff`).

For the service the check is enough: a valid poll timeout lies between a millisecond and a
minute (`ServiceConfig.validated_poll_timeout`). For the plant it is not. The tick period is
rounded to whole nanoseconds, and it is positive exactly when the rate is at most two billion
ticks a second; the duration has a span exactly when it is below `2 ^ 64` seconds
(`PlantConfig.validated_spans`). The check asks neither, so a tick rate of `2^32 - 1` passes
it with a period of zero (`PlantConfig.validate_accepts_zero_period`), and so does a duration
of `10^20` seconds, which has no span.
-/

namespace ControlLoop

namespace ServiceConfig

/-- A service configuration is valid exactly when its poll timeout is positive and at most
`maxPollTimeoutMs`. -/
theorem validate_eq_ok_iff (c : ServiceConfig) :
    c.validate = .ok () ↔ 0 < c.pollTimeoutMs ∧ c.pollTimeoutMs ≤ maxPollTimeoutMs := by
  unfold validate
  by_cases hzero : c.pollTimeoutMs = 0
  · simp [hzero, throw, throwThe, MonadExceptOf.throw]
  · by_cases hbig : c.pollTimeoutMs > maxPollTimeoutMs
    · simp [hzero, hbig, throw, throwThe, MonadExceptOf.throw]
    · simp [hzero, hbig, pure, Except.pure]
      omega

/-- A valid service checks its stop flag at least every minute and at most every
millisecond: its poll timeout is never the zero span. -/
theorem validated_poll_timeout (c : ServiceConfig) (hvalid : c.validate = .ok ()) :
    1000000 ≤ c.pollTimeout.nanos ∧ c.pollTimeout.nanos ≤ 60000000000 := by
  obtain ⟨hpos, hmax⟩ := (validate_eq_ok_iff c).1 hvalid
  simp only [pollTimeout, Duration.ofMillis, maxPollTimeoutMs] at hmax ⊢
  omega

end ServiceConfig

namespace PlantConfig

/-- A plant configuration is valid exactly when its tick rate and thread count are positive
and its duration, if any, is a finite positive number of seconds. -/
theorem validate_eq_ok_iff (c : PlantConfig) :
    c.validate = .ok () ↔ c.tickRate ≠ 0 ∧
      (∀ d, c.duration = some d → d.toFloat.isFinite = true ∧ 0.0 < d.toFloat) ∧
        c.blockingThreads ≠ 0 := by
  rcases c with ⟨rate, _ | d, _, _, _, threads⟩
  · by_cases hrate : rate = 0 <;> by_cases hthreads : threads = 0 <;>
      simp [validate, hrate, hthreads, throw, throwThe, MonadExceptOf.throw, bind,
        Except.bind, pure, Except.pure]
  · -- the duration is checked between the rate and the threads
    cases hfin : d.toFloat.isFinite <;> by_cases hpos : (0.0 : Float) < d.toFloat <;>
      by_cases hrate : rate = 0 <;> by_cases hthreads : threads = 0 <;>
      simp [validate, hfin, hpos, hrate, hthreads, throw, throwThe, MonadExceptOf.throw,
        bind, Except.bind, pure, Except.pure]

/-- The spans of a valid plant, for a tick rate a double holds exactly (every rate the saved
form can hold is below `2 ^ 32`): the tick period is positive exactly when the rate is at most
two billion, and the duration has a span exactly when it is below `2 ^ 64` seconds. -/
theorem validated_spans (c : PlantConfig) (hvalid : c.validate = .ok ())
    (hrate : c.tickRate < 2 ^ 53) :
    (c.tickPeriod.nanos ≠ 0 ↔ c.tickRate ≤ 2000000000) ∧
      ∀ d, c.duration = some d →
        ((∃ s, c.runTime = some (.ok s)) ↔ d.toFloat < 18446744073709551616.0) := by
  obtain ⟨-, hduration, -⟩ := (validate_eq_ok_iff c).1 hvalid
  refine ⟨Duration.period_ne_zero_iff hrate, fun d hd => ?_⟩
  obtain ⟨hfin, hpos⟩ := hduration d hd
  rw [← Duration.ofSeconds?_ok_iff hfin hpos]
  simp [runTime, hd]

/-- A duration of `10^20` seconds passes the check, but it is above `2^64` seconds, so it has
no span. -/
example : ({ duration := some (.ofFloat 1e20) } : PlantConfig).validate = .ok () ∧
    ({ duration := some (.ofFloat 1e20) } : PlantConfig).runTime = some (.error .tooBigOrNan) := by
  -- `1e20` is `6103515625000000 · 2^14`, a finite positive double
  have hcheck : ((Double.ofFloat 1e20).toFloat.isFinite && (Double.ofFloat 1e20).toFloat > 0.0) =
      true := by decide +kernel
  have hnonneg : ¬ ((Double.ofFloat 1e20).toFloat < 0.0) := by decide +kernel
  have hshape : Binary64.shape (Double.ofFloat 1e20).toFloat = .finite false 6103515625000000 14 := by
    decide +kernel
  refine ⟨?_, ?_⟩
  · simp [validate, hcheck]
    rfl
  · simp only [runTime, Option.map_some, Option.some.injEq]
    rw [Duration.ofSeconds?, if_neg hnonneg, hshape]
    exact if_pos (by decide)

/-- The largest tick rate a saved configuration can hold passes the check, and its tick
period, `1 / (2^32 - 1)` seconds, rounds to zero nanoseconds. -/
theorem validate_accepts_zero_period :
    ({ tickRate := 4294967295 } : PlantConfig).validate = .ok () ∧
      ({ tickRate := 4294967295 } : PlantConfig).tickPeriod = ⟨0⟩ :=
  ⟨rfl, by decide +kernel⟩

end PlantConfig

/-- What validation guarantees about the spans the runners make from a configuration: a valid
service polls at least every minute and at most every millisecond, and a valid plant whose
tick rate a double holds exactly has a positive tick period exactly when the rate is at most
two billion, and a duration with a span exactly when it is below `2 ^ 64` seconds. -/
theorem validated_config_spans (s : ServiceConfig) (c : PlantConfig) :
    (s.validate = .ok () → 1000000 ≤ s.pollTimeout.nanos ∧ s.pollTimeout.nanos ≤ 60000000000) ∧
    (c.validate = .ok () → c.tickRate < 2 ^ 53 →
      (c.tickPeriod.nanos ≠ 0 ↔ c.tickRate ≤ 2000000000) ∧
      ∀ d, c.duration = some d →
        ((∃ t, c.runTime = some (.ok t)) ↔ d.toFloat < 18446744073709551616.0)) :=
  ⟨ServiceConfig.validated_poll_timeout s, PlantConfig.validated_spans c⟩

/-- The default service and a plant ticking at a hundred hertz for ten seconds are valid, and
have a positive poll timeout, a positive tick period and a span to run for. -/
theorem validated_config_spans_hundred_hertz :
    let c : PlantConfig := { tickRate := 100, duration := some (.ofFloat 10.0) }
    ({} : ServiceConfig).validate = .ok () ∧ 1000000 ≤ ({} : ServiceConfig).pollTimeout.nanos ∧
      c.validate = .ok () ∧ c.tickRate < 2 ^ 53 ∧ c.tickPeriod.nanos ≠ 0 ∧
      ∃ t, c.runTime = some (.ok t) := by
  intro c
  have hvalid : c.validate = .ok () := by
    have hcheck : ((Double.ofFloat 10.0).toFloat.isFinite && (Double.ofFloat 10.0).toFloat > 0.0) =
        true := by decide +kernel
    simp [c, PlantConfig.validate, hcheck]
    rfl
  have hrate : c.tickRate < 2 ^ 53 := by decide
  have hspans := validated_config_spans {} c
  have hplant := hspans.2 hvalid hrate
  refine ⟨rfl, (hspans.1 rfl).1, hvalid, hrate, hplant.1.2 (by decide), ?_⟩
  exact (hplant.2 (.ofFloat 10.0) rfl).2 (by decide +kernel)

end ControlLoop
