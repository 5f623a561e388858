import Mathlib.Algebra.Group.Int.Defs
import Mathlib.Algebra.Group.Nat.Defs
import ChannelAccess.Proofs.Engine.Runs
import ChannelAccess.Proofs.SymbolTime

/-!
The operations of an engine once more, step by step, with a record of every figure that they put into
an integer of a machine. A step goes on with the figure that it records: a sum, a difference, a
product or a shift as it is, a cast wrapped to its integer. A cast to a wider integer and the number of
a timer, which wraps on purpose, are no figures. The steps come to what the operations do: main
statement `reckon_outcome`.
-/

namespace ChannelAccess

/-- Integers of a machine: unsigned ones of 8, 32 and 64 bits, the signed 64 bits of a clock, and
signed ones of 128 bits. -/
inductive Width where
  | byte
  | word
  | longWord
  | clock
  | wide
  deriving DecidableEq, Repr

namespace Width

def Holds : Width → Int → Prop
  | .byte, value => 0 ≤ value ∧ value < 2 ^ 8
  | .word, value => 0 ≤ value ∧ value < 2 ^ 32
  | .longWord, value => 0 ≤ value ∧ value < 2 ^ 64
  | .clock, value => InClockRange value
  | .wide, value => -2 ^ 127 ≤ value ∧ value < 2 ^ 127

/-- The natural numbers below this one fit. -/
def room : Width → Nat
  | .byte => 2 ^ 8
  | .word => 2 ^ 32
  | .longWord => 2 ^ 64
  | .clock => 2 ^ 63
  | .wide => 2 ^ 127

/-- What a cast to the integer makes of a value. -/
def wrap : Width → Int → Int
  | .byte, value => value % 256
  | .word, value => value % 4294967296
  | .longWord, value => value % 18446744073709551616
  | .clock, value => value.bmod 18446744073709551616
  | .wide, value => value.bmod 340282366920938463463374607431768211456

theorem holds_of_lt (width : Width) {count : Nat} (few : count < width.room) : width.Holds count := by
  cases width
  all_goals
    simp only [room] at few
    constructor <;> omega

theorem wrap_of_holds {width : Width} {value : Int} (holds : width.Holds value) :
    width.wrap value = value := by
  cases width with
  | byte | word | longWord => exact Int.emod_eq_of_lt holds.1 holds.2
  | clock => exact wrapped_of_inRange holds
  | wide =>
    obtain ⟨lower,upper⟩ := holds
    exact Int.bmod_eq_of_le (by omega) (by omega)

end Width

structure Figure where
  width : Width
  value : Int
  deriving DecidableEq, Repr

def Figure.Fits (figure : Figure) : Prop := figure.width.Holds figure.value

/-- A computation with the figures that it goes through. -/
structure Reckoning (α : Type) where
  figures : List Figure
  outcome : Except Overflow α

namespace Reckoning

variable {α β : Type}

instance : Monad Reckoning where
  pure value := ⟨[],.ok value⟩
  bind first next :=
    match first.outcome with
    | .error failure => ⟨first.figures,.error failure⟩
    | .ok value => ⟨first.figures ++ (next value).figures,(next value).outcome⟩

/-- An outcome that is reached without arithmetic. -/
def still (outcome : Except Overflow α) : Reckoning α := ⟨[],outcome⟩

/-- The result of an addition, a subtraction, a multiplication or a shift. -/
def result (width : Width) (value : Int) : Reckoning Int := ⟨[⟨width,value⟩],.ok value⟩

/-- What a cast makes of a value. -/
def narrow (width : Width) (value : Int) : Reckoning Int := ⟨[⟨width,value⟩],.ok (width.wrap value)⟩

def count (width : Width) (number : Nat) : Reckoning Nat := ⟨[⟨width,number⟩],.ok number⟩

def narrowCount (width : Width) (number : Nat) : Reckoning Nat :=
  ⟨[⟨width,number⟩],.ok (width.wrap number).toNat⟩

/-- A result of the signed 64 bits of a clock, if they hold it. -/
def clock (failure : Overflow) (us : Int) : Reckoning Int := ⟨[⟨.clock,us⟩],clockValue failure us⟩

/-- A result of 32 bits, if they hold it. -/
def word (failure : Overflow) (number : Nat) : Reckoning Nat :=
  ⟨[⟨.word,number⟩],wordValue failure number⟩

/-- A result of 64 bits, if they hold it. -/
def longWord (failure : Overflow) (number : Nat) : Reckoning Nat :=
  ⟨[⟨.longWord,number⟩],longWordValue failure number⟩

@[simp] theorem pure_outcome (value : α) : (pure value : Reckoning α).outcome = .ok value := rfl

@[simp] theorem bind_outcome (first : Reckoning α) (next : α → Reckoning β) :
    (first >>= next).outcome = first.outcome >>= fun value => (next value).outcome := by
  obtain ⟨figures,outcome⟩ := first
  cases outcome <;> rfl

@[simp] theorem still_outcome (outcome : Except Overflow α) : (still outcome).outcome = outcome := by
  rw [still]

@[simp] theorem result_outcome (width : Width) (value : Int) :
    (result width value).outcome = .ok value := by
  rw [result]

@[simp] theorem narrow_outcome (width : Width) (value : Int) :
    (narrow width value).outcome = .ok (width.wrap value) := by
  rw [narrow]

@[simp] theorem count_outcome (width : Width) (number : Nat) :
    (count width number).outcome = .ok number := by
  rw [count]

@[simp] theorem narrowCount_outcome (width : Width) (number : Nat) :
    (narrowCount width number).outcome = .ok (width.wrap number).toNat := by
  rw [narrowCount]

@[simp] theorem clock_outcome (failure : Overflow) (us : Int) :
    (clock failure us).outcome = clockValue failure us := by
  rw [clock]

@[simp] theorem word_outcome (failure : Overflow) (number : Nat) :
    (word failure number).outcome = wordValue failure number := by
  rw [word]

@[simp] theorem longWord_outcome (failure : Overflow) (number : Nat) :
    (longWord failure number).outcome = longWordValue failure number := by
  rw [longWord]

theorem wrap_word_toNat (number : Nat) : (Width.word.wrap number).toNat = number % 4294967296 := by
  simp only [Width.wrap]
  omega

theorem wrap_longWord_toNat (number : Nat) :
    (Width.longWord.wrap number).toNat = number % 18446744073709551616 := by
  simp only [Width.wrap]
  omega

/-- The computation gives `value`, and all the figures on the way fit their integers. -/
structure Exact (reckoning : Reckoning α) (value : α) : Prop where
  outcome : reckoning.outcome = .ok value
  fits : ∀ figure ∈ reckoning.figures, figure.Fits

namespace Exact

theorem pure (value : α) : (Pure.pure value : Reckoning α).Exact value := ⟨rfl,by simp [Pure.pure]⟩

theorem still {outcome : Except Overflow α} {value : α} (gives : outcome = .ok value) :
    (Reckoning.still outcome).Exact value := ⟨gives,by simp [Reckoning.still]⟩

/-- What a computation gives is enough to know once its figures fit. -/
theorem of_outcome {reckoning : Reckoning α} {value : α} (gives : reckoning.outcome = .ok value)
    (exactly : ∃ other, reckoning.Exact other) : reckoning.Exact value := by
  obtain ⟨_,_,fits⟩ := exactly
  exact ⟨gives,fits⟩

theorem bind {first : Reckoning α} {next : α → Reckoning β} {value : α} {result : β}
    (exactly : first.Exact value) (goesOn : (next value).Exact result) :
    (first >>= next).Exact result := by
  obtain ⟨figures,outcome⟩ := first
  obtain ⟨rfl,fits⟩ := exactly
  refine ⟨goesOn.outcome,?_⟩
  intro figure member
  rcases List.mem_append.mp member with before | after
  · exact fits figure before
  · exact goesOn.fits figure after

variable {failure : Overflow} {width : Width} {value : Int} {number : Nat}

theorem result (holds : width.Holds value) : (Reckoning.result width value).Exact value :=
  ⟨rfl,List.forall_mem_singleton.mpr holds⟩

theorem narrow (holds : width.Holds value) : (Reckoning.narrow width value).Exact value :=
  ⟨congrArg Except.ok (Width.wrap_of_holds holds),List.forall_mem_singleton.mpr holds⟩

theorem count (few : number < width.room) : (Reckoning.count width number).Exact number :=
  ⟨rfl,List.forall_mem_singleton.mpr (width.holds_of_lt few)⟩

theorem narrowCount (few : number < width.room) : (Reckoning.narrowCount width number).Exact number := by
  have holds := width.holds_of_lt few
  refine ⟨?_,List.forall_mem_singleton.mpr holds⟩
  rw [narrowCount_outcome,Width.wrap_of_holds holds,Int.toNat_natCast]

theorem clock (shows : InClockRange value) : (Reckoning.clock failure value).Exact value :=
  ⟨clockValue_of_inRange shows,List.forall_mem_singleton.mpr shows⟩

theorem word (few : number < 4294967296) : (Reckoning.word failure number).Exact number :=
  ⟨wordValue_eq_ok.mpr ⟨few,rfl⟩,
    List.forall_mem_singleton.mpr (Width.word.holds_of_lt few)⟩

theorem longWord (few : number < 18446744073709551616) :
    (Reckoning.longWord failure number).Exact number :=
  ⟨longWordValue_eq_ok.mpr ⟨few,rfl⟩,
    List.forall_mem_singleton.mpr (Width.longWord.holds_of_lt few)⟩

end Exact

end Reckoning

open Reckoning

namespace SymbolRate

/-- Rounded up among 128 bits, then cast to the clock's. -/
def reckonSpan (rate : SymbolRate) (symbols : Nat) : Reckoning Span := do
  let scaled ← count .wide (symbols * 1000000)
  let raised ← count .wide (scaled + rate.perSecond.toNat)
  let dividend ← result .wide (raised - 1)
  let us ← narrow .clock (dividend / rate.perSecond.toNat)
  return ⟨us⟩

/-- Rounded down among 128 bits, then cast to 64. -/
def reckonSymbols (rate : SymbolRate) (span : Span) : Reckoning Nat :=
  if span.isNegative then pure 0
  else do
    let product ← count .wide (span.us.toNat * rate.perSecond.toNat)
    narrowCount .longWord (product / 1000000)

theorem dividend_div (rate : SymbolRate) (symbols : Nat) :
    ((symbols * 1000000 + rate.perSecond.toNat : Nat) - 1 : Int) / rate.perSecond.toNat =
      rate.microseconds symbols := by
  have positive := rate.perSecond_pos
  have whole : ((symbols * 1000000 + rate.perSecond.toNat : Nat) - 1 : Int) =
      (symbols * 1000000 + rate.perSecond.toNat - 1 : Nat) := by omega
  rw [whole,← Int.natCast_ediv,microseconds]

@[simp] theorem reckonSpan_outcome (rate : SymbolRate) (symbols : Nat) :
    (rate.reckonSpan symbols).outcome = .ok (rate.spanOf symbols) := by
  simp only [reckonSpan,bind_outcome,count_outcome,result_outcome,narrow_outcome,pure_outcome,
    except_ok_bind]
  rw [rate.dividend_div]
  rfl

@[simp] theorem reckonSymbols_outcome (rate : SymbolRate) (span : Span) :
    (rate.reckonSymbols span).outcome = .ok (rate.symbolsIn span) := by
  unfold reckonSymbols symbolsIn
  cases span.isNegative with
  | true => rfl
  | false =>
    simp only [Bool.false_eq_true,if_false,bind_outcome,count_outcome,except_ok_bind,narrowCount_outcome,
      wrap_longWord_toNat]

end SymbolRate

namespace Instant

def reckonSince (t start : Instant) : Reckoning Span := do
  let us ← clock .subtraction (t.us - start.us)
  return ⟨us⟩

def reckonPlus (t : Instant) (d : Span) : Reckoning Instant := do
  let us ← clock .addition (t.us + d.us)
  return ⟨us⟩

@[simp] theorem reckonSince_outcome (t start : Instant) :
    (t.reckonSince start).outcome = t.since start := by
  rw [reckonSince,bind_outcome,clock_outcome]
  rfl

@[simp] theorem reckonPlus_outcome (t : Instant) (d : Span) : (t.reckonPlus d).outcome = t.plus d := by
  rw [reckonPlus,bind_outcome,clock_outcome]
  rfl

end Instant

def Span.reckonMinus (a b : Span) : Reckoning Span := do
  let us ← clock .subtraction (a.us - b.us)
  return ⟨us⟩

@[simp] theorem Span.reckonMinus_outcome (a b : Span) : (a.reckonMinus b).outcome = a.minus b := by
  rw [reckonMinus,bind_outcome,clock_outcome]
  rfl

namespace Superframe

/-- The length of the superframe is a shift, that of the CAP a product of slots. -/
def reckonCap (superframe : Superframe) : Reckoning Nat := do
  let duration ← count .word (960 <<< min superframe.order.toNat 14)
  let slots ← count .word (superframe.finalSlot.toNat + 1)
  count .word (duration / 16 * slots)

def reckonCapEnd (superframe : Superframe) (rate : SymbolRate) : Reckoning Instant := do
  let symbols ← superframe.reckonCap
  let span ← rate.reckonSpan symbols
  superframe.beacon.reckonPlus span

def reckonLeft (superframe : Superframe) (now : Instant) (rate : SymbolRate) : Reckoning Span := do
  let capEnd ← superframe.reckonCapEnd rate
  let left ← capEnd.reckonSince now
  return left.clampNonNegative

def reckonBoundary (superframe : Superframe) (now : Instant) (unit : Nat) (rate : SymbolRate) :
    Reckoning Span := do
  let elapsed ← now.reckonSince superframe.beacon
  if elapsed.isNegative then
    superframe.beacon.reckonSince now
  else
    let unit := max unit 1
    let symbols ← rate.reckonSymbols elapsed
    let periods ← longWord .addition (symbols / unit + 1)
    let boundary ← longWord .multiplication (periods * unit)
    let span ← rate.reckonSpan boundary
    span.reckonMinus elapsed

variable (superframe : Superframe) (now : Instant) (rate : SymbolRate)

@[simp] theorem reckonCap_outcome : superframe.reckonCap.outcome = .ok superframe.capDuration := by
  simp only [reckonCap,bind_outcome,count_outcome,except_ok_bind,capDuration,slotDuration,duration]

@[simp] theorem reckonCapEnd_outcome :
    (superframe.reckonCapEnd rate).outcome = superframe.capEnd rate := by
  simp only [reckonCapEnd,bind_outcome,reckonCap_outcome,except_ok_bind,SymbolRate.reckonSpan_outcome,
    Instant.reckonPlus_outcome,capEnd]

@[simp] theorem reckonLeft_outcome :
    (superframe.reckonLeft now rate).outcome = superframe.timeLeftInCap now rate := by
  simp only [reckonLeft,bind_outcome,reckonCapEnd_outcome,Instant.reckonSince_outcome,pure_outcome]
  rfl

@[simp] theorem reckonBoundary_outcome (unit : Nat) :
    (superframe.reckonBoundary now unit rate).outcome = superframe.timeToBoundary now unit rate := by
  simp only [reckonBoundary,timeToBoundary,bind_outcome,Instant.reckonSince_outcome]
  refine congrArg (now.since superframe.beacon >>= ·) (funext fun elapsed => ?_)
  by_cases early : elapsed.isNegative = true
  · rw [if_pos early,if_pos early,Instant.reckonSince_outcome]
  · rw [if_neg early,if_neg early,bind_outcome,SymbolRate.reckonSymbols_outcome,except_ok_bind,
      bind_outcome,longWord_outcome]
    refine congrArg (longWordValue .addition _ >>= ·) (funext fun periods => ?_)
    rw [bind_outcome,longWord_outcome]
    refine congrArg (longWordValue .multiplication _ >>= ·) (funext fun boundary => ?_)
    rw [bind_outcome,SymbolRate.reckonSpan_outcome,except_ok_bind,Span.reckonMinus_outcome]

end Superframe

/-- The word for the assessments is computed for every transaction, the one for the turnarounds only
if no acknowledgment is requested. -/
def Cost.reckon (window : Nat) (frame : Frame) (ackWait turnaround : UInt32) : Reckoning Cost := do
  let assessments ← count .word (assessmentSymbols * window)
  let reply ←
    if frame.ackRequested then pure ackWait.toNat
    else word .multiplication (2 * turnaround.toNat)
  return {
    assessments
    frame := frame.symbols.toNat
    reply
    spacing := frame.spacing.toNat }

theorem Cost.reckon_outcome (window : Nat) (frame : Frame) (ackWait turnaround : UInt32) :
    (Cost.reckon window frame ackWait turnaround).outcome =
      Cost.estimate window frame ackWait turnaround := by
  simp only [reckon,bind_outcome,count_outcome,except_ok_bind,estimate]
  cases frame.ackRequested with
  | true => rfl
  | false =>
    simp only [Bool.false_eq_true,if_false,bind_outcome,word_outcome]
    rfl

namespace Engine

variable {ρ : Type}

def reckonStart (engine : Engine ρ) (around : Surroundings) : Reckoning (Reaction ρ) :=
  match SymbolRate.of around.radio.symbolsPerSecond with
  | .error error => pure { engine, result := .error error }
  | .ok rate => do
    let direction := Direction.ofDestination around.layer.frame.toCoordinator
    let wait ←
      if engine.policy.isSlotted then
        (around.layer.superframe direction).reckonBoundary around.now
          engine.policy.backoffPeriod.toNat rate
      else pure .zero
    return (engine.begun direction).waitFor (engine.begun direction).looks .backoffStart wait
      ((if engine.running then [Note.restarted] else []) ++
        [if engine.policy.isSlotted then .slottedStarted wait else .unslottedStarted])

/-- A product of 64 bits, then its span. -/
def reckonWait (engine : Engine ρ) (rate : SymbolRate) : Reckoning Span := do
  let symbols ← count .longWord (engine.progress.periodsLeft * engine.policy.backoffPeriod.toNat)
  rate.reckonSpan symbols

/-- The periods that are complete are cast from 64 bits to 32. -/
def reckonBeyond (engine : Engine ρ) (rate : SymbolRate) (left : Span) : Reckoning Nat := do
  let complete ← rate.reckonSymbols left
  let used ← narrowCount .word (complete / engine.policy.backoffPeriod.toNat)
  return engine.progress.periodsLeft - used

@[simp] theorem reckonWait_outcome (engine : Engine ρ) (rate : SymbolRate) :
    (engine.reckonWait rate).outcome = .ok (engine.backoffSpan rate) := by
  rw [reckonWait,bind_outcome,count_outcome,except_ok_bind,SymbolRate.reckonSpan_outcome,backoffSpan]

@[simp] theorem reckonBeyond_outcome (engine : Engine ρ) (rate : SymbolRate) (left : Span) :
    (engine.reckonBeyond rate left).outcome = .ok (engine.periodsBeyond rate left) := by
  simp only [reckonBeyond,bind_outcome,SymbolRate.reckonSymbols_outcome,except_ok_bind,
    narrowCount_outcome,wrap_word_toNat,pure_outcome,periodsBeyond]

/-- What a slotted backoff of `backoff` comes to in the rest of the CAP. -/
def reckonFit (engine : Engine ρ) (superframe : Superframe) (now : Instant) (rate : SymbolRate)
    (asked : List Call) (backoff : Span) : Reckoning (Reaction ρ) := do
  let left ← superframe.reckonLeft now rate
  if left < backoff then
    let periodsLeft ← engine.reckonBeyond rate left
    return (engine.withPeriods periodsLeft).waitFor asked .capEnd left
      [.carriedOver engine.progress.periodsLeft periodsLeft]
  else
    return engine.waitFor asked .canProceed backoff [.proceedingAfter engine.progress.periodsLeft]

theorem reckonFit_outcome (engine : Engine ρ) (superframe : Superframe) (now : Instant)
    (rate : SymbolRate) (asked : List Call) (backoff : Span) :
    (engine.reckonFit superframe now rate asked backoff).outcome =
      (superframe.timeLeftInCap now rate).map fun left =>
        if left < backoff then
          (engine.withPeriods (engine.periodsBeyond rate left)).waitFor asked .capEnd left
            [.carriedOver engine.progress.periodsLeft (engine.periodsBeyond rate left)]
        else
          engine.waitFor asked .canProceed backoff
            [.proceedingAfter engine.progress.periodsLeft] := by
  rw [reckonFit,bind_outcome,Superframe.reckonLeft_outcome]
  cases superframe.timeLeftInCap now rate with
  | error failure => rfl
  | ok left =>
    rw [except_ok_bind]
    by_cases short : left < backoff
    · simp only [if_pos short,bind_outcome,reckonBeyond_outcome,except_ok_bind,pure_outcome,Except.map]
    · simp only [if_neg short,pure_outcome,Except.map]

section

variable [WordSource ρ]

/-- The largest number of periods is one less than a shift. -/
def reckonMost (exponent : Nat) : Reckoning Nat := do
  let power ← count .word (1 <<< min exponent 31)
  let most ← result .word (power - 1)
  return most.toNat

/-- A random draw is cast to a word, advice is one already. -/
def reckonTake (engine : Engine ρ) (advice : Option UInt32) : Reckoning (Engine ρ × List Call) :=
  if engine.choosesBackoff then do
    let call := Call.askAdvice engine.progress.exponent engine.progress.backoffs advice
    let most ← reckonMost engine.progress.exponent
    match advice with
    | some periods => return (engine.withPeriods (min periods.toNat most),[call])
    | none =>
      let bound ← count .longWord (most + 1)
      let periodsLeft ← narrowCount .word ((WordSource.next engine.words).1.toNat % bound)
      let drawn := { engine with words := (WordSource.next engine.words).2 }
      return (drawn.withPeriods periodsLeft,[call])
  else
    return (engine,[])

def reckonBackoff (engine : Engine ρ) (around : Surroundings) : Reckoning (Reaction ρ) :=
  match SymbolRate.of around.radio.symbolsPerSecond with
  | .error error => pure { engine, result := .error error }
  | .ok rate => do
    let (source,asked) ← engine.reckonTake around.advice
    let backoff ← source.reckonWait rate
    if engine.policy.isSlotted then
      source.reckonFit (around.layer.superframe engine.progress.direction) around.now rate
        (asked ++ [.askSuperframe engine.progress.direction]) backoff
    else
      return source.waitFor asked .ccaRequest backoff
        [.assessmentAfter source.progress.periodsLeft backoff]

end

def reckonCheck (engine : Engine ρ) (around : Surroundings) : Reckoning (Reaction ρ) :=
  match SymbolRate.of around.radio.symbolsPerSecond with
  | .error error => pure { engine, result := .error error }
  | .ok rate => do
    let left ← (around.layer.superframe engine.progress.direction).reckonLeft around.now rate
    let cost ← Cost.reckon engine.progress.window around.layer.frame around.layer.ackWait
      around.radio.turnaround
    let span ← rate.reckonSpan cost.total
    return if left < span then
      (engine.withPeriods 0).waitFor [.askSuperframe engine.progress.direction,.cost cost.total]
        .capEnd left [.transactionTooLong cost.total left]
    else
      (engine.withPeriods 0).waitFor [.askSuperframe engine.progress.direction,.cost cost.total]
        .ccaRequest .zero []

def reckonFire [WordSource ρ] (engine : Engine ρ) (timer : Timer) (around : Surroundings) :
    Reckoning (Reaction ρ) :=
  match engine.timers.take timer with
  | (false,_) => still (engine.fire timer around)
  | (true,timers) =>
    match timer.kind with
    | .backoffStart => { engine with timers }.reckonBackoff around
    | .canProceed => { engine with timers }.reckonCheck around
    | .ccaRequest | .capEnd => still (engine.fire timer around)

/-- A busy assessment raises two counters. -/
def reckonConfirm (engine : Engine ρ) (status : ChannelStatus) : Reckoning (Reaction ρ) :=
  if engine.ccaOutstanding ∧ ¬ status.isIdle then do
    let exponent ← count .byte (engine.progress.exponent + 1)
    let backoffs ← count .byte (engine.progress.backoffs + 1)
    let raised := { engine.afterBusy with
      progress := { engine.afterBusy.progress with
        exponent := min exponent engine.policy.maxExponent.toNat
        backoffs } }
    let ending := raised.conclude .accessFailure
    return if engine.policy.maxBackoffs.toNat < backoffs then
      { ending with notes := .accessFailed backoffs :: ending.notes }
    else
      raised.waitFor [] .backoffStart .zero [.backingOff backoffs raised.progress.exponent]
  else
    still (.ok (engine.confirm status))

/-- Only a start, a timer and an assessment have anything to reckon. -/
def reckon [WordSource ρ] (engine : Engine ρ) : Operation → Reckoning (Reaction ρ)
  | .start around => engine.reckonStart around
  | .fire timer around => engine.reckonFire timer around
  | .confirm status => engine.reckonConfirm status
  | operation => still (engine.perform operation)

theorem reckonStart_outcome (engine : Engine ρ) (around : Surroundings) :
    (engine.reckonStart around).outcome = engine.start around := by
  unfold reckonStart
  rcases SymbolRate.of_cases around.radio.symbolsPerSecond with refused | ⟨rate,rated⟩
  · rw [refused,start_refused refused]
    rfl
  · rw [rated,start_eq rated,firstWait]
    cases slotted : engine.policy.isSlotted with
    | true =>
      simp only [if_true,bind_outcome,Superframe.reckonBoundary_outcome,pure_outcome]
      rfl
    | false => rfl

theorem reckonCheck_outcome (engine : Engine ρ) (around : Surroundings) :
    (engine.reckonCheck around).outcome = engine.checkTransaction around := by
  unfold reckonCheck
  rcases SymbolRate.of_cases around.radio.symbolsPerSecond with refused | ⟨rate,rated⟩
  · rw [refused,checkTransaction_refused refused]
    rfl
  · rw [rated,checkTransaction_eq rated]
    simp only [bind_outcome,Superframe.reckonLeft_outcome,Cost.reckon_outcome,
      SymbolRate.reckonSpan_outcome,except_ok_bind,pure_outcome]
    rfl

theorem reckonConfirm_outcome (engine : Engine ρ) (status : ChannelStatus) :
    (engine.reckonConfirm status).outcome = .ok (engine.confirm status) := by
  unfold reckonConfirm
  by_cases counts : engine.ccaOutstanding ∧ ¬ status.isIdle
  · obtain ⟨outstanding,busy⟩ := counts
    simp only [if_pos (And.intro outstanding busy),bind_outcome,count_outcome,except_ok_bind]
    simp only [confirm,outstanding,if_true,if_neg busy,confirmBusy]
    split <;> rfl
  · rw [if_neg counts,still_outcome]

theorem reckonMost_outcome (exponent : Nat) :
    (reckonMost exponent).outcome = .ok (Backoff.maxPeriods exponent) := by
  have positive : 0 < 1 <<< min exponent 31 := by
    rw [Nat.shiftLeft_eq,Nat.one_mul]
    exact Nat.two_pow_pos _
  simp only [reckonMost,bind_outcome,count_outcome,result_outcome,pure_outcome,except_ok_bind,
    Backoff.maxPeriods]
  congr 1
  omega

variable [WordSource ρ]

theorem reckonTake_outcome (engine : Engine ρ) (advice : Option UInt32) :
    (engine.reckonTake advice).outcome = .ok (engine.takeBackoff advice) := by
  unfold reckonTake takeBackoff
  by_cases chooses : engine.choosesBackoff
  · rw [if_pos chooses,if_pos chooses,bind_outcome,reckonMost_outcome,except_ok_bind]
    cases advice with
    | some periods => rfl
    | none =>
      have fits : (WordSource.next engine.words).1.toNat %
          (Backoff.maxPeriods engine.progress.exponent + 1) < 4294967296 :=
        Nat.lt_of_le_of_lt (Nat.mod_le _ _) (UInt32.toNat_lt _)
      simp only [bind_outcome,count_outcome,narrowCount_outcome,wrap_word_toNat,except_ok_bind,
        pure_outcome,Nat.mod_eq_of_lt fits]
      rfl
  · rw [if_neg chooses,if_neg chooses,pure_outcome]

theorem reckonBackoff_outcome (engine : Engine ρ) (around : Surroundings) :
    (engine.reckonBackoff around).outcome = engine.beginBackoff around := by
  unfold reckonBackoff
  rcases SymbolRate.of_cases around.radio.symbolsPerSecond with refused | ⟨rate,rated⟩
  · rw [refused,beginBackoff_refused refused]
    rfl
  · obtain ⟨⟨source,asked⟩,drawn⟩ : ∃ taken, engine.takeBackoff around.advice = taken := ⟨_,rfl⟩
    have taken : (engine.reckonTake around.advice).outcome = .ok (source,asked) :=
      drawn ▸ engine.reckonTake_outcome around.advice
    rw [rated]
    cases mode : engine.policy.mode with
    | unslotted =>
      have plain := Policy.isSlotted_eq_false.mpr mode
      rw [beginBackoff_unslotted rated mode drawn]
      simp only [bind_outcome,taken,except_ok_bind,plain,Bool.false_eq_true,if_false,pure_outcome,
        reckonWait_outcome]
    | slotted =>
      have aligned := Policy.isSlotted_eq_true.mpr mode
      rw [beginBackoff_slotted rated mode drawn,← reckonFit_outcome,bind_outcome,taken,except_ok_bind]
      dsimp only
      rw [bind_outcome,reckonWait_outcome,except_ok_bind,if_pos aligned]

theorem reckonFire_outcome (engine : Engine ρ) (timer : Timer) (around : Surroundings) :
    (engine.reckonFire timer around).outcome = engine.fire timer around := by
  by_cases armed : engine.timers.armed timer.kind = some timer.number
  · have taken := TimerTable.take_armed armed
    cases kind : timer.kind with
    | backoffStart => simp only [reckonFire,fire,taken,kind,reckonBackoff_outcome]
    | canProceed => simp only [reckonFire,fire,taken,kind,reckonCheck_outcome]
    | ccaRequest => simp only [reckonFire,taken,kind,still_outcome]
    | capEnd => simp only [reckonFire,taken,kind,still_outcome]
  · simp only [reckonFire,TimerTable.take_stale armed,still_outcome]

/-- The record changes nothing. -/
theorem reckon_outcome (engine : Engine ρ) (operation : Operation) :
    (engine.reckon operation).outcome = engine.perform operation := by
  cases operation with
  | start around => exact engine.reckonStart_outcome around
  | fire timer around => exact engine.reckonFire_outcome timer around
  | confirm status => exact engine.reckonConfirm_outcome status
  | cancel => rfl
  | setPolicy policy => rfl
  | setMode mode => rfl

end Engine

end ChannelAccess
