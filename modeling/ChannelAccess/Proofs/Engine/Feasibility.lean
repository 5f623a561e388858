import Mathlib.Algebra.Group.Nat.Defs
import Mathlib.Algebra.Order.Floor.Div
import ChannelAccess.Proofs.Engine.Counters
import ChannelAccess.Proofs.TransactionCost

/-!
The check before the assessments decides as it would with words and clocks of any size. A frame or a
cost that is cut down to the largest word still outlasts every CAP, and a CAP that is over has no
time left for anything. Main statement: `feasibility_exact`.
-/

namespace ChannelAccess

/-- A frame takes a number of symbols, whether it was given so or a word holds them or not. -/
inductive Frame.Lasts : Frame → Nat → Prop
  | literal (frame : Frame) : Lasts frame frame.symbols.toNat
  | payload (phy : Phy) (octets : UInt32) (ackRequested toCoordinator : Bool) :
      Lasts (.ofPayload phy octets ackRequested toCoordinator)
        ((octets.toNat + 6) * phy.symbolsPerOctet)

theorem Frame.Lasts.symbols {frame : Frame} {length : Nat} (lasts : frame.Lasts length) :
    frame.symbols.toNat = min length largestWord := by
  cases lasts with
  | literal =>
    have word := frame.symbols.toNat_lt
    rw [largestWord]
    omega
  | payload phy octets ackRequested toCoordinator =>
    change (UInt32.ofNat (transmissionSymbols phy octets)).toNat = _
    rw [transmissionSymbols_eq,UInt32.toNat_ofNat_of_lt']
    exact Nat.lt_of_le_of_lt (Nat.min_le_right _ _) (by decide)

theorem Superframe.timeLeftInCap_of_capEnd {superframe : Superframe} {now capEnd : Instant}
    {rate : SymbolRate} (ends : superframe.capEnd rate = .ok capEnd)
    (near : InClockRange (capEnd.us - now.us)) :
    superframe.timeLeftInCap now rate = .ok ⟨max (capEnd.us - now.us) 0⟩ := by
  have since : capEnd.since now = .ok ⟨capEnd.us - now.us⟩ := Instant.since_eq_ok.mpr ⟨near,rfl⟩
  rw [timeLeftInCap,ends,except_ok_bind,since,except_ok_bind]
  exact congrArg (fun us => Except.ok (Span.mk us)) (Span.clampNonNegative_us _)

namespace Engine

variable {ρ : Type}

/-- The check of a transaction, in closed form and without a bound on the symbols that it takes. -/
theorem checkTransaction_exact (engine : Engine ρ) {around : Surroundings} {rate : SymbolRate}
    {capEnd : Instant} {length : Nat}
    (rated : SymbolRate.of around.radio.symbolsPerSecond = .ok rate)
    (fits : around.layer.frame.ackRequested = true ∨ around.radio.turnaround.toNat < 2 ^ 31)
    (lasts : around.layer.frame.Lasts length) (window : 0 < engine.progress.window)
    (begun : (around.layer.superframe engine.progress.direction).beacon ≤ around.now)
    (ends : (around.layer.superframe engine.progress.direction).capEnd rate = .ok capEnd)
    (near : InClockRange (capEnd.us - around.now.us)) :
    let needed := Cost.unbounded engine.progress.window length around.layer.frame
      around.layer.ackWait around.radio.turnaround
    engine.checkTransaction around = .ok
      (if around.now.us + rate.microseconds needed ≤ capEnd.us then
        (engine.withPeriods 0).waitFor
          [.askSuperframe engine.progress.direction,.cost (min needed largestWord)] .ccaRequest .zero []
      else
        (engine.withPeriods 0).waitFor
          [.askSuperframe engine.progress.direction,.cost (min needed largestWord)] .capEnd
          ⟨max (capEnd.us - around.now.us) 0⟩
          [.transactionTooLong (min needed largestWord) ⟨max (capEnd.us - around.now.us) 0⟩]) := by
  intro needed
  have remains := Superframe.timeLeftInCap_of_capEnd ends near
  obtain ⟨cost,estimated,total⟩ :=
    Cost.estimate_fits engine.progress.window around.layer.ackWait fits
  rw [lasts.symbols,Cost.unbounded_cut] at total
  have positive : 0 < needed := by
    dsimp only [needed,Cost.unbounded]
    omega
  have decides := Superframe.left_lt_iff begun positive ends remains
  rw [checkTransaction_eq rated,remains,except_ok_bind,estimated,except_ok_bind,total]
  apply congrArg Except.ok
  by_cases late : capEnd.us < around.now.us + rate.microseconds needed
  · rw [if_pos (decides.mpr late),if_neg (Int.not_le.mpr late)]
  · rw [if_neg (mt decides.mp late),if_pos (Int.not_lt.mp late)]

end Engine

variable {ρ : Type} [WordSource ρ]

/-- In every run, an armed check that comes back with a radio whose two turnarounds a word holds goes
on to the assessments exactly if the symbols that are needed end within the CAP, and waits for the
end of the CAP otherwise. The symbols are added up without a bound, and the frame counts with its
true length. -/
theorem feasibility_exact {policy : Policy} {words : ρ} {first last : Engine ρ}
    {deeds : List (Deed ρ)} {number : UInt32} {around : Surroundings} {rate : SymbolRate}
    {capEnd : Instant} {length : Nat}
    (made : Engine.new policy words = .ok first) (run : Run first deeds last)
    (armed : last.timers.armed .canProceed = some number)
    (rated : SymbolRate.of around.radio.symbolsPerSecond = .ok rate)
    (quick : around.radio.turnaround.toNat < 2 ^ 31) (lasts : around.layer.frame.Lasts length)
    (begun : (around.layer.superframe last.progress.direction).beacon ≤ around.now)
    (ends : (around.layer.superframe last.progress.direction).capEnd rate = .ok capEnd)
    (near : InClockRange (capEnd.us - around.now.us)) :
    let needed := 2 * assessmentSymbols + length +
      (if around.layer.frame.ackRequested then around.layer.ackWait.toNat
        else 2 * around.radio.turnaround.toNat) + around.layer.frame.spacing.toNat
    let next := last.timers.nextNumber
    ∃ reaction, last.perform (.fire ⟨.canProceed,number⟩ around) = .ok reaction ∧
      last.policy.mode = .slotted ∧ reaction.result = .ok () ∧
      reaction.calls = [.askSuperframe last.progress.direction,.cost (min needed (2 ^ 32 - 1)),
        if around.now.us + ((needed * 1000000) ⌈/⌉ rate.perSecond.toNat : Nat) ≤ capEnd.us then
          .schedule ⟨.ccaRequest,next⟩ .zero
        else .schedule ⟨.capEnd,next⟩ ⟨max 0 (capEnd.us - around.now.us)⟩] := by
  intro needed next
  obtain ⟨stage,counted⟩ := Engine.Counted.run made run
  have inside := counted.inside
  obtain rfl : stage = .canProceed := inside.stage_of_armed armed rfl (by simp)
  have slotted : last.policy.mode = .slotted := inside.allowed
  have window := inside.window_canProceed
  have fired : last.perform (.fire ⟨.canProceed,number⟩ around) =
      (last.taken .canProceed).checkTransaction around :=
    Engine.fire_armed around (inside.running.mpr (by simp)) armed
  have checked := (last.taken .canProceed).checkTransaction_exact rated (.inr quick) lasts
    (window ▸ Nat.zero_lt_two) begun ends near
  dsimp only at checked
  rw [show (last.taken .canProceed).progress.window = 2 from window,
    show Cost.unbounded 2 length around.layer.frame around.layer.ackWait around.radio.turnaround =
      needed from rfl] at checked
  refine ⟨_,fired.trans checked,slotted,?result,?calls⟩
  case result => split <;> rfl
  case calls =>
    have rounded : (needed * 1000000) ⌈/⌉ rate.perSecond.toNat = rate.microseconds needed := rfl
    rw [rounded,Int.max_comm]
    by_cases fits : around.now.us + rate.microseconds needed ≤ capEnd.us
    · rw [if_pos fits,if_pos fits]
      rfl
    · have nonneg : 0 ≤ max 0 (capEnd.us - around.now.us) := Int.le_max_left _ _
      rw [if_neg fits,if_neg fits,Engine.waitFor,Span.clamp_of_nonneg nonneg]
      rfl

/-- A frame to a neighbour, 640 microseconds into a CAP of 15360. -/
def Surroundings.sending (frame : Frame) : Surroundings :=
  { Surroundings.plain 62500 with
    now := ⟨640⟩, layer := { (Surroundings.plain 62500).layer with frame } }

/-- The rest of a CAP holds 868 symbols of a frame but not one more, and not a frame of three billion
octets, whose length no word holds. -/
theorem feasibility_exact_at_limit :
    ∃ (first last : Engine WordScript) (deeds : List (Deed WordScript))
      (fit late lost : Reaction WordScript),
      Engine.new { mode := .slotted } ⟨[2]⟩ = .ok first ∧ Run first deeds last ∧
        last.perform (.fire ⟨.canProceed,1⟩ (.sending ⟨868,false,12,false⟩)) = .ok fit ∧
        fit.calls = [.askSuperframe .outgoing,.cost 920,.schedule ⟨.ccaRequest,2⟩ .zero] ∧
        last.perform (.fire ⟨.canProceed,1⟩ (.sending ⟨869,false,12,false⟩)) = .ok late ∧
        late.calls = [.askSuperframe .outgoing,.cost 921,.schedule ⟨.capEnd,2⟩ ⟨14720⟩] ∧
        last.perform (.fire ⟨.canProceed,1⟩
          (.sending (.ofPayload .oqpsk2450 3000000000 false false))) = .ok lost ∧
        lost.calls = [.askSuperframe .outgoing,.cost 4294967295,.schedule ⟨.capEnd,2⟩ ⟨14720⟩] := by
  obtain ⟨first,made⟩ :
    ∃ first, Engine.new { mode := .slotted } (⟨[2]⟩ : WordScript) = .ok first := ⟨_,rfl⟩
  obtain ⟨deeds,last,run,armed,number,direction⟩ : ∃ deeds last, Run first deeds last ∧
      last.timers.armed .canProceed = some 1 ∧ last.timers.nextNumber = 2 ∧
      last.progress.direction = .outgoing := by
    cases made
    exact ⟨_,_,.step (.step .start (rfl : Engine.perform _ (.start (.plain 62500)) = _))
        (rfl : Engine.perform _ (.fire ⟨.backoffStart,0⟩ (.plain 62500)) = _),rfl,rfl,rfl⟩
  have checks (frame : Frame) (length : Nat) (lasts : frame.Lasts length) :=
    @feasibility_exact WordScript _ _ _ _ _ _ _ (.sending frame) ⟨62500,by decide⟩ ⟨15360⟩ length
      made run armed rfl (show 12 < 2 ^ 31 by decide) lasts
      (by rw [direction]; exact (show (0 : Int) ≤ 640 by decide))
      (by rw [direction]; exact (show (Superframe.capped .zero 0 15).capEnd _ = _ by decide))
      (show InClockRange (15360 - 640) by decide)
  obtain ⟨fit,performed,_,_,goesOn⟩ := checks ⟨868,false,12,false⟩ _ (.literal _)
  obtain ⟨late,performed',_,_,waits⟩ := checks ⟨869,false,12,false⟩ _ (.literal _)
  obtain ⟨lost,performed'',_,_,saturates⟩ := checks _ _ (.payload .oqpsk2450 3000000000 false false)
  rw [number,direction] at goesOn waits saturates
  exact ⟨first,last,deeds,fit,late,lost,made,run,performed,goesOn,performed',waits,performed'',
    saturates⟩

end ChannelAccess
