import ChannelAccess.Proofs.Engine.Reactions
import ChannelAccess.Report.Text

/-!
What is printed, as strings. The grammar below writes out every line of a report, with its style where
colour is wanted, and knows nothing of the pieces and lines that reports are made of. Main statement:
`Report.prints_iff`.
-/

namespace ChannelAccess

/-- Text between an escape with these parameters and the one that resets them, where colour is
wanted. -/
def inked (colour : Bool) (parameters text : String) : String :=
  if colour then "\x1b[" ++ parameters ++ "m" ++ text ++ "\x1b[0m" else text

inductive Mode.Prints : Mode → String → Prop
  | slotted : Mode.Prints .slotted "slotted"
  | unslotted : Mode.Prints .unslotted "unslotted"

inductive Phy.Prints : Phy → String → Prop
  | bpsk868 : Phy.Prints .bpsk868 "Bpsk868 (20000 symbols/s)"
  | bpsk915 : Phy.Prints .bpsk915 "Bpsk915 (40000 symbols/s)"
  | oqpsk868 : Phy.Prints .oqpsk868 "Oqpsk868 (25000 symbols/s)"
  | oqpsk915 : Phy.Prints .oqpsk915 "Oqpsk915 (62500 symbols/s)"
  | oqpsk2450 : Phy.Prints .oqpsk2450 "Oqpsk2450 (62500 symbols/s)"

inductive Occurrence.Prints (colour : Bool) : Occurrence → String → Prop
  | started {mode : Mode} {name : String} (names : mode.Prints name) :
    Occurrence.Prints colour (.started mode) s!"started ({name})"
  | ccaRequested (exponent backoffs window : Nat) :
    Occurrence.Prints colour (.ccaRequested exponent backoffs window)
      s!"CCA requested (BE {exponent}, NB {backoffs}, CW {window})"
  | idle : Occurrence.Prints colour (.ccaResult .idle) (inked colour "32" "channel idle")
  | busy : Occurrence.Prints colour (.ccaResult .busy) (inked colour "33" "channel busy")
  | transceiverOff :
    Occurrence.Prints colour (.ccaResult .transceiverOff) (inked colour "33" "transceiver off")
  | cost (symbols : Nat) :
    Occurrence.Prints colour (.cost symbols) s!"transaction needs {symbols} symbols"
  | granted : Occurrence.Prints colour (.verdict .channelIdle)
      (inked colour "1;92" "verdict: channel idle")
  | failed : Occurrence.Prints colour (.verdict .accessFailure)
      (inked colour "1;91" "verdict: channel access failure")
  | deferred : Occurrence.Prints colour (.verdict .deferred) (inked colour "1;94" "verdict: deferred")

/-- A line for each event: its time and what happened. -/
inductive EventsPrint (colour : Bool) : List TraceEvent → String → Prop
  | none : EventsPrint colour [] ""
  | event {now : Instant} {occurrence : Occurrence} {events : List TraceEvent} {text rest : String}
      (tells : occurrence.Prints colour text) (goesOn : EventsPrint colour events rest) :
    EventsPrint colour (⟨now,occurrence⟩ :: events)
      ("  " ++ inked colour "2" now.text ++ " " ++ text ++ "\n" ++ rest)

/-- Sections under their numbers, the first of which is given. -/
inductive SectionsPrint (colour : Bool) : Nat → List (List TraceEvent) → String → Prop
  | none (number : Nat) : SectionsPrint colour number [] ""
  | attempt {number : Nat} {events : List TraceEvent} {sections : List (List TraceEvent)}
      {text rest : String} (tells : EventsPrint colour events text)
      (goesOn : SectionsPrint colour (number + 1) sections rest) :
    SectionsPrint colour number (events :: sections)
      (inked colour "1;4" s!"Attempt {number}" ++ "\n" ++ text ++ rest)

/-- A line of the configuration. -/
def entry (colour : Bool) (name value : String) : String :=
  "  " ++ inked colour "1" name ++ ": " ++ value ++ "\n"

/-- The configuration, in words for the mode and for the PHY. Slotted attempts have a superframe. -/
def Scenario.block (colour : Bool) (scenario : Scenario) (mode phy : String) : String :=
  inked colour "1;4" "Configuration" ++ "\n" ++
  entry colour "mode" mode ++
  entry colour "macMinBE" s!"{scenario.policy.minExponent.toNat}" ++
  entry colour "macMaxBE" s!"{scenario.policy.maxExponent.toNat}" ++
  entry colour "macMaxCSMABackoffs" s!"{scenario.policy.maxBackoffs.toNat}" ++
  entry colour "unit backoff period" s!"{scenario.policy.backoffPeriod.toNat} symbols" ++
  entry colour "battery life extension" (if scenario.policy.batteryLifeExtension then "on" else "off") ++
  entry colour "phy" phy ++
  entry colour "frame"
    (s!"{scenario.payloadOctets.toNat} octets, {scenario.frame.symbols.toNat} symbols" ++
      if scenario.ackRequested then ", ack requested" else "") ++
  if scenario.policy.mode = .slotted then
    entry colour "superframe" (s!"SO {scenario.superframe.order.toNat}, " ++
      s!"final CAP slot {scenario.superframe.finalSlot.toNat}, beacon at {scenario.superframe.beacon.text}")
  else ""

inductive Scenario.Prints (colour : Bool) (scenario : Scenario) : String → Prop
  | configuration {mode phy : String} (names : scenario.policy.mode.Prints mode)
      (tuned : scenario.phy.Prints phy) :
    Scenario.Prints colour scenario (scenario.block colour mode phy)

/-- The configuration, then the sections, numbered from one on. -/
inductive Report.Prints (colour : Bool) (report : Report) : String → Prop
  | report {configuration sections : String} (configures : report.scenario.Prints colour configuration)
      (tells : SectionsPrint colour 1 report.sections sections) :
    Report.Prints colour report (configuration ++ sections)

variable {colour : Bool} {text : String}

theorem Piece.render_plain (text : String) : (Piece.plain text).render colour = text := by
  cases colour <;> rfl

theorem Piece.render_styled (style : Style) (text : String) :
    (Piece.styled style text).render colour = inked colour style.code text := by
  cases colour <;> rfl

theorem Report.heading_render (text : String) :
    (Report.heading text).render colour = inked colour "1;4" text ++ "\n" := by
  simp [Report.heading,Line.render,Piece.render_styled,Style.code]

theorem Report.field_render (name value : String) :
    (Report.field name value).render colour = entry colour name value := by
  simp [Report.field,Line.render,Piece.render_styled,Piece.render_plain,Style.code,entry,
    String.append_assoc]

theorem Mode.prints_iff {mode : Mode} : mode.Prints text ↔ text = mode.text := by
  constructor
  · intro prints
    cases prints <;> rfl
  · rintro rfl
    cases mode <;> constructor

theorem Phy.prints_iff {phy : Phy} :
    phy.Prints text ↔ text = s!"{phy.name} ({phy.symbolsPerSecond.toNat} symbols/s)" := by
  constructor
  · intro prints
    cases prints <;> rfl
  · rintro rfl
    cases phy <;> constructor

theorem Occurrence.prints_iff {occurrence : Occurrence} :
    occurrence.Prints colour text ↔ text = occurrence.piece.render colour := by
  constructor
  · intro prints
    cases prints with
    | started names => rw [Mode.prints_iff.mp names,piece,Piece.render_plain]
    | ccaRequested exponent backoffs window => rw [piece,Piece.render_plain]
    | cost symbols => rw [piece,Piece.render_plain]
    | idle | busy | transceiverOff => rw [piece,Piece.render_styled,Style.code]
    | granted | failed | deferred =>
      rw [piece,Piece.render_styled,Verdict.style,Style.code]
      rfl
  · rintro rfl
    cases occurrence with
    | started mode =>
      rw [piece,Piece.render_plain]
      exact .started (Mode.prints_iff.mpr rfl)
    | ccaRequested exponent backoffs window =>
      rw [piece,Piece.render_plain]
      exact .ccaRequested exponent backoffs window
    | ccaResult status =>
      cases status <;>
        (rw [piece,Piece.render_styled]
         constructor)
    | cost symbols =>
      rw [piece,Piece.render_plain]
      exact .cost symbols
    | verdict verdict =>
      rw [piece,Piece.render_styled]
      cases verdict <;> constructor

theorem TraceEvent.line_render (event : TraceEvent) :
    event.line.render colour = "  " ++ inked colour "2" event.instant.text ++ " " ++
      event.occurrence.piece.render colour ++ "\n" := by
  simp [TraceEvent.line,Line.render,Piece.render_styled,Piece.render_plain,Style.code,
    String.append_assoc]

theorem eventsPrint_iff {events : List TraceEvent} :
    EventsPrint colour events text ↔
      text = String.join ((events.map TraceEvent.line).map (Line.render colour)) := by
  induction events generalizing text with
  | nil =>
    constructor
    · rintro ⟨⟩
      rfl
    · rintro rfl
      exact .none
  | cons event events ih =>
    rw [List.map_cons,List.map_cons,String.join_cons,TraceEvent.line_render]
    constructor
    · intro prints
      cases prints with
      | event tells goesOn => rw [Occurrence.prints_iff.mp tells,ih.mp goesOn]
    · rintro rfl
      exact .event (Occurrence.prints_iff.mpr rfl) (ih.mpr rfl)

theorem sectionsPrint_iff {number : Nat} {sections : List (List TraceEvent)} :
    SectionsPrint colour number sections text ↔
      text = String.join ((Report.numberedSections number sections).map (Line.render colour)) := by
  induction sections generalizing number text with
  | nil =>
    constructor
    · rintro ⟨⟩
      rfl
    · rintro rfl
      exact .none number
  | cons events sections ih =>
    have lines : String.join ((Report.numberedSections number (events :: sections)).map
        (Line.render colour)) = inked colour "1;4" s!"Attempt {number}" ++ "\n" ++
          String.join ((events.map TraceEvent.line).map (Line.render colour)) ++
          String.join ((Report.numberedSections (number + 1) sections).map (Line.render colour)) := by
      rw [Report.numberedSections,List.cons_append,List.map_cons,List.map_append,String.join_cons,
        String.join_append,Report.heading_render]
      simp only [String.append_assoc]
    rw [lines]
    constructor
    · intro prints
      cases prints with
      | attempt tells goesOn => rw [eventsPrint_iff.mp tells,ih.mp goesOn]
    · rintro rfl
      exact .attempt (eventsPrint_iff.mpr rfl) (ih.mpr rfl)

theorem Scenario.block_eq (scenario : Scenario) :
    scenario.block colour scenario.policy.mode.text
        s!"{scenario.phy.name} ({scenario.phy.symbolsPerSecond.toNat} symbols/s)" =
      String.join ((Report.configuration scenario).map (Line.render colour)) := by
  have acknowledged : scenario.frame.ackRequested = scenario.ackRequested := rfl
  by_cases slotted : scenario.policy.mode = .slotted
  · have aligned := Policy.isSlotted_eq_true.mpr slotted
    simp only [block,Report.configuration,slotted,aligned,acknowledged,if_true,List.map_append,
      List.map_cons,List.map_nil,String.join_append,String.join_cons,String.join_nil,
      Report.heading_render,Report.field_render,String.append_assoc,String.append_empty]
  · have plain : scenario.policy.isSlotted = false :=
      Bool.eq_false_iff.mpr (mt Policy.isSlotted_eq_true.mp slotted)
    simp only [block,Report.configuration,slotted,plain,acknowledged,Bool.false_eq_true,if_false,
      List.map_append,List.map_cons,List.map_nil,String.join_append,String.join_cons,String.join_nil,
      Report.heading_render,Report.field_render,String.append_assoc,String.append_empty]

theorem Scenario.prints_iff {scenario : Scenario} :
    scenario.Prints colour text ↔
      text = String.join ((Report.configuration scenario).map (Line.render colour)) := by
  rw [← scenario.block_eq]
  constructor
  · intro prints
    cases prints with
    | configuration names tuned => rw [Mode.prints_iff.mp names,Phy.prints_iff.mp tuned]
  · rintro rfl
    exact .configuration (Mode.prints_iff.mpr rfl) (Phy.prints_iff.mpr rfl)

/-- The grammar fixes the text of a report, and it is the text that is printed. -/
theorem Report.prints_iff {report : Report} :
    report.Prints colour text ↔ text = report.text colour := by
  rw [Report.text,Report.lines,List.map_append,String.join_append]
  constructor
  · rintro ⟨configures,tells⟩
    rw [Scenario.prints_iff.mp configures,sectionsPrint_iff.mp tells]
  · rintro rfl
    exact .report (Scenario.prints_iff.mpr rfl) (sectionsPrint_iff.mpr rfl)

end ChannelAccess
