import NeuralDevice.Proofs.Conversion.Aidl
import NeuralDevice.Proofs.Conversion.Hal
import NeuralDevice.Validation.Device

/-!
Times on the wire. A time is sent as the number of its whole units or not at all, and the word that marks an absent
time is sent for nothing else. So a timing comes back cut to whole units, and what comes in goes out unchanged.
-/

namespace NeuralDevice

open Result

section Units

variable {τ ω : Type} [Word ω] {send : Option τ → Result ω} {mark : ω} {nanoseconds : τ → Int} {unit limit : Int}

/-- Optional times are sent as numbers of whole units. The mark stands for no time and nothing else, fewer units than
`limit` for the times that have so many, and all other times are refused. -/
structure SendsUnits (send : Option τ → Result ω) (mark : ω) (nanoseconds : τ → Int) (unit limit : Int) : Prop where
  marked : ∀ time, send time = .ok mark ↔ time = none
  counted : ∀ time, 0 ≤ nanoseconds time → nanoseconds time / unit < limit →
    ∃ word, send (some time) = .ok word ∧ Word.toInt word = nanoseconds time / unit
  refused : ∀ time, nanoseconds time < 0 ∨ limit ≤ nanoseconds time / unit →
    ∃ detail, send (some time) = .error (.invalidArgument detail)
  monotone : ∀ shorter longer word, 0 ≤ nanoseconds shorter → nanoseconds shorter ≤ nanoseconds longer →
    send (some longer) = .ok word →
    ∃ lesser, send (some shorter) = .ok lesser ∧ Word.toInt lesser ≤ Word.toInt word

/-- It is enough to know the words of the times that are sent, and that the mark is no number of units. -/
theorem SendsUnits.of_eq_ok_iff (absent : send none = .ok mark)
    (present : ∀ time word, send (some time) = .ok word ↔
      (0 ≤ nanoseconds time ∧ nanoseconds time / unit < limit) ∧ Word.toInt word = nanoseconds time / unit)
    (refuses : ∀ time error, send (some time) = .error error → ∃ detail, error = .invalidArgument detail)
    (positive : 0 < unit) (apart : Word.toInt mark < 0 ∨ limit ≤ Word.toInt mark) (room : limit ≤ Word.high ω) :
    SendsUnits send mark nanoseconds unit limit := by
  have counted : ∀ time, 0 ≤ nanoseconds time → nanoseconds time / unit < limit →
      ∃ word, send (some time) = .ok word ∧ Word.toInt word = nanoseconds time / unit := by
    intro time started short
    have units : 0 ≤ nanoseconds time / unit := Int.ediv_nonneg started (Int.le_of_lt positive)
    have same := Word.toInt_ofInt (α := ω) _ (Int.le_trans Word.low_le_zero units) (Int.lt_of_lt_of_le short room)
    exact ⟨Word.ofInt (nanoseconds time / unit), (present time _).mpr ⟨⟨started, short⟩, same⟩, same⟩
  refine ⟨fun time => ?_, counted, fun time long => ?_, fun shorter longer word started order sent => ?_⟩
  · cases time with
    | none => exact iff_of_true absent rfl
    | some time =>
      refine iff_of_false (fun sent => ?_) nofun
      obtain ⟨⟨started, short⟩, same⟩ := (present time mark).mp sent
      have units : 0 ≤ nanoseconds time / unit := Int.ediv_nonneg started (Int.le_of_lt positive)
      omega
  · cases outcome : send (some time) with
    | ok word =>
      have fits := ((present time word).mp outcome).1
      omega
    | error error =>
      obtain ⟨detail, rfl⟩ := refuses time error outcome
      exact ⟨detail, rfl⟩
  · obtain ⟨⟨-, short⟩, same⟩ := (present longer word).mp sent
    have fewer : nanoseconds shorter / unit ≤ nanoseconds longer / unit := Int.ediv_le_ediv positive order
    obtain ⟨lesser, sentLesser, lesserSame⟩ := counted shorter started (Int.lt_of_le_of_lt fewer short)
    exact ⟨lesser, sentLesser, by rw [lesserSame, same]; exact fewer⟩

end Units

theorem invalidArgument_of_narrow {ω : Type} [Word ω] {what : String} {value : Int} {error : Error}
    (failed : (narrow what value : Result ω) = .error error) : ∃ detail, error = .invalidArgument detail := by
  unfold narrow at failed
  split at failed
  · cases failed
  · cases failed
    exact ⟨_, rfl⟩

/-! Version 1.2 counts microseconds. -/

/-- The whole microseconds of a span. -/
def Duration.inMicroseconds (span : Duration) : Duration := .ofMicroseconds span.microseconds

/-- The timing with the whole microseconds of what was measured. -/
def Timing.inMicroseconds (timing : Timing) : Timing :=
  ⟨timing.timeOnDevice.map .inMicroseconds, timing.timeInDriver.map .inMicroseconds⟩

namespace Wire.Hal

theorem toNat_notMeasured : notMeasured.toNat = 2 ^ 64 - 1 := rfl

theorem spanToWire_some_eq_ok_iff {span : Duration} {word : UInt64} :
    spanToWire (some span) = .ok word ↔ span.microseconds < 2 ^ 64 - 1 ∧ word.toNat = span.microseconds := by
  rw [spanToWire, toNat_notMeasured, demand_eq_ok_iff, pure_eq_ok_iff]
  refine and_congr_right fun short => ?_
  rw [← UInt64.toNat_inj, UInt64.toNat_ofNat', Nat.mod_eq_of_lt (by omega), eq_comm]

private theorem spanToWire_sends :
    SendsUnits spanToWire notMeasured (fun span => span.nanoseconds) 1000 (2 ^ 64 - 1) := by
  refine .of_eq_ok_iff rfl ?_ ?_ (by decide) (.inr (by decide)) (by decide)
  · intro span word
    have value : Word.toInt word = word.toNat := rfl
    rw [spanToWire_some_eq_ok_iff, value, Duration.microseconds]
    omega
  · intro span error failed
    rw [spanToWire] at failed
    split at failed
    · cases failed
    · cases failed
      exact ⟨_, rfl⟩

theorem spanToCanonical_of_spanToWire {span : Option Duration} {word : UInt64}
    (sent : spanToWire span = .ok word) : spanToCanonical word = span.map .inMicroseconds := by
  cases span with
  | none =>
    cases pure_eq_ok_iff.mp sent
    rfl
  | some span =>
    obtain ⟨short, same⟩ := spanToWire_some_eq_ok_iff.mp sent
    have measured : word ≠ notMeasured := by
      rintro rfl
      rw [toNat_notMeasured] at same
      omega
    rw [spanToCanonical, if_neg measured, same]
    rfl

end Wire.Hal

/-! The AIDL version counts nanoseconds. -/

namespace Wire.Aidl

private theorem durationToWire_some_eq_ok_iff {span : Duration} {word : Int64} :
    durationToWire (some span) = .ok word ↔ Word.toInt word = span.nanoseconds := by
  rw [durationToWire, narrow_eq_ok_iff]

private theorem durationToWire_sends :
    SendsUnits durationToWire noValue (fun span => span.nanoseconds) 1 (2 ^ 63) := by
  refine .of_eq_ok_iff rfl ?_ ?_ (by decide) (.inl (by decide)) (by decide)
  · intro span word
    have bound : Word.toInt word < 2 ^ 63 := (Word.toInt_mem word).2
    rw [durationToWire_some_eq_ok_iff]
    omega
  · intro span error failed
    rw [durationToWire] at failed
    exact invalidArgument_of_narrow failed

private theorem deadlineToWire_some_eq_ok_iff {deadline : TimePoint} {word : Int64} :
    deadlineToWire (some deadline) = .ok word ↔
      0 ≤ deadline.sinceEpoch ∧ Word.toInt word = deadline.sinceEpoch := by
  rw [deadlineToWire, refuse_eq_ok_iff, narrow_eq_ok_iff, Int.not_lt]

private theorem deadlineToWire_sends : SendsUnits deadlineToWire noValue TimePoint.sinceEpoch 1 (2 ^ 63) := by
  refine .of_eq_ok_iff rfl ?_ ?_ (by decide) (.inl (by decide)) (by decide)
  · intro deadline word
    have bound : Word.toInt word < 2 ^ 63 := (Word.toInt_mem word).2
    rw [deadlineToWire_some_eq_ok_iff]
    omega
  · intro deadline error failed
    rw [deadlineToWire] at failed
    split at failed
    · cases failed
      exact ⟨_, rfl⟩
    · exact invalidArgument_of_narrow failed

theorem exists_durationToCanonical_iff {nanoseconds : Int64} {what : String} :
    (∃ span, durationToCanonical nanoseconds what = .ok span) ↔ -1 ≤ nanoseconds.toInt := by
  have marked : nanoseconds = noValue ↔ nanoseconds.toInt = -1 := Int64.toInt_inj.symm
  unfold durationToCanonical
  by_cases mark : nanoseconds = noValue
  · rw [if_pos mark]
    exact iff_of_true ⟨none, rfl⟩ (marked.mp mark).ge
  · have measured : nanoseconds.toInt ≠ -1 := fun same => mark (marked.mpr same)
    simp only [if_neg mark, refuse_eq_ok_iff, exists_and_left]
    constructor
    · intro received
      have started := received.1
      omega
    · intro started
      exact ⟨by omega, _, rfl⟩

theorem exists_timingToCanonical_iff {message : Timing} :
    (∃ timing, timingToCanonical message = .ok timing) ↔
      -1 ≤ message.timeOnDevice.toInt ∧ -1 ≤ message.timeInDriver.toInt := by
  simp only [timingToCanonical, bind_eq_ok_iff, pure_eq_ok_iff]
  constructor
  · intro received
    obtain ⟨_, onDevice, device, inDriver, driver, -⟩ := received
    exact ⟨exists_durationToCanonical_iff.mp ⟨onDevice, device⟩, exists_durationToCanonical_iff.mp ⟨inDriver, driver⟩⟩
  · intro started
    obtain ⟨onDevice, device⟩ := exists_durationToCanonical_iff.mpr started.1
    obtain ⟨inDriver, driver⟩ := exists_durationToCanonical_iff.mpr started.2
    exact ⟨_, onDevice, device, inDriver, driver, rfl⟩

end Wire.Aidl

/-! Timings hold two times. -/

/-- The time on the device is within the time in the driver after both are cut to microseconds. -/
private theorem Timing.validate_inMicroseconds {timing : Timing} {version : Version}
    (valid : validate timing = .ok version) : validate timing.inMicroseconds = .ok version := by
  obtain ⟨onDevice, inDriver⟩ := timing
  cases onDevice with
  | none => exact valid
  | some onDevice =>
    cases inDriver with
    | none => exact valid
    | some inDriver =>
      obtain ⟨ordered, versioned⟩ := refuse_eq_ok_iff.mp valid
      have within : onDevice.nanoseconds / 1000 ≤ inDriver.nanoseconds / 1000 :=
        Nat.div_le_div_right (Nat.le_of_not_lt ordered)
      refine refuse_eq_ok_iff.mpr ⟨?_, versioned⟩
      simp only [Duration.inMicroseconds, Duration.ofMicroseconds, Duration.microseconds]
      omega

/-- Timings are sent time by time, and valid ones are received as `kept`, which is valid too. -/
structure SendsTimes {span : Type} (send : Option Duration → Result span)
    (toWire : Timing → Result (Wire.Timing span)) (toCanonical : Wire.Timing span → Result Timing)
    (kept : Timing → Timing) : Prop where
  sent : ∀ timing message, toWire timing = .ok message ↔
    send timing.timeOnDevice = .ok message.timeOnDevice ∧ send timing.timeInDriver = .ok message.timeInDriver
  received : ∀ timing version message, validate timing = .ok version → toWire timing = .ok message →
    toCanonical message = .ok (kept timing) ∧ validate (kept timing) = .ok version

theorem times_eq_ok_iff {span : Type} {first second : Result span} {message : Wire.Timing span} :
    (do let timeOnDevice ← first
        let timeInDriver ← second
        pure ⟨timeOnDevice, timeInDriver⟩ : Result (Wire.Timing span)) = .ok message ↔
      first = .ok message.timeOnDevice ∧ second = .ok message.timeInDriver := by
  simp only [bind_eq_ok_iff, pure_eq_ok_iff]
  constructor
  · rintro ⟨_, device, _, driver, rfl⟩
    exact ⟨device, driver⟩
  · rintro ⟨device, driver⟩
    exact ⟨_, device, _, driver, rfl⟩

theorem Wire.Hal.timingToWire_sends :
    SendsTimes spanToWire timingToWire timingToCanonical NeuralDevice.Timing.inMicroseconds := by
  refine ⟨fun timing message => times_eq_ok_iff, fun timing version message valid sent => ?_⟩
  obtain ⟨onDevice, inDriver⟩ := times_eq_ok_iff.mp sent
  refine ⟨?_, timing.validate_inMicroseconds valid⟩
  rw [timingToCanonical, spanToCanonical_of_spanToWire onDevice, spanToCanonical_of_spanToWire inDriver]
  rfl

theorem Wire.Aidl.timingToWire_sends : SendsTimes durationToWire timingToWire timingToCanonical id :=
  ⟨fun _ _ => times_eq_ok_iff, fun timing _ message valid sent => ⟨(timing_inverse timing message).mp sent, valid⟩⟩

/-- Spans and points of time are sent as their whole units, with a mark that is no number of units, or refused. So
valid timings that can be sent come back, cut to whole microseconds by version 1.2 and as they were from the AIDL
version. Every pair of words that stand for times is received and sent again as it came, and no other is received. -/
theorem times_cross_in_whole_units :
    SendsUnits Wire.Hal.spanToWire Wire.Hal.notMeasured (fun span => span.nanoseconds) 1000 (2 ^ 64 - 1) ∧
    SendsUnits Wire.Aidl.durationToWire Wire.Aidl.noValue (fun span => span.nanoseconds) 1 (2 ^ 63) ∧
    SendsUnits Wire.Aidl.deadlineToWire Wire.Aidl.noValue TimePoint.sinceEpoch 1 (2 ^ 63) ∧
    SendsTimes Wire.Hal.spanToWire Wire.Hal.timingToWire Wire.Hal.timingToCanonical Timing.inMicroseconds ∧
    SendsTimes Wire.Aidl.durationToWire Wire.Aidl.timingToWire Wire.Aidl.timingToCanonical id ∧
    (∀ message, ∃ timing, Wire.Hal.timingToCanonical message = .ok timing ∧
      Wire.Hal.timingToWire timing = .ok message) ∧
    ∀ message : Wire.Aidl.Timing,
      if -1 ≤ message.timeOnDevice.toInt ∧ -1 ≤ message.timeInDriver.toInt then
        ∃ timing, Wire.Aidl.timingToCanonical message = .ok timing ∧ Wire.Aidl.timingToWire timing = .ok message
      else ∃ error, Wire.Aidl.timingToCanonical message = .error error := by
  refine ⟨Wire.Hal.spanToWire_sends, Wire.Aidl.durationToWire_sends, Wire.Aidl.deadlineToWire_sends,
    Wire.Hal.timingToWire_sends, Wire.Aidl.timingToWire_sends, fun message => ?_, fun message => ?_⟩
  · exact ⟨_, rfl, Wire.Hal.timingToCanonical_returns message _ rfl⟩
  · split
    · rename_i started
      obtain ⟨timing, received⟩ := Wire.Aidl.exists_timingToCanonical_iff.mpr started
      exact ⟨timing, received, (Wire.Aidl.timing_inverse timing message).mpr received⟩
    · rename_i early
      rwa [exists_error_iff, Wire.Aidl.exists_timingToCanonical_iff]

end NeuralDevice
