import ChannelAccess.Channel
import ChannelAccess.Proofs.Fallible

/-!
Channels that are written as patterns. Which patterns are read, what the channel then reports at one
assessment after another, and which patterns mean the same. Main statement: `patterns_played_back`.
-/

namespace ChannelAccess

namespace Channel

/-- What a channel reports at one assessment after another. -/
def assessments (channel : Channel) : List Instant → List ChannelStatus
  | [] => []
  | now :: later => (channel.assess now).1 :: (channel.assess now).2.assessments later

/-- The character may stand in a pattern. -/
def Allows (c : Char) : Prop :=
  isBlank c ∨ c = 'i' ∨ c = 'I' ∨ c = 'b' ∨ c = 'B'

instance (c : Char) : Decidable (Allows c) := inferInstanceAs (Decidable (_ ∨ _))

/-- The characters of a pattern that count. -/
def lettersOf (pattern : String) : List Char := pattern.toList.filter (! isBlank ·)

/-- The status that a letter announces. -/
def announced (c : Char) : ChannelStatus := if c = 'i' ∨ c = 'I' then .idle else .busy

/-- The letter for a status. -/
def letterFor (status : ChannelStatus) : Char := if status = .idle then 'i' else 'b'

/-- A script as a pattern. -/
def written (script : List ChannelStatus) : String := String.ofList (script.map letterFor)

variable {letters letters' : List Char} {script script' : List ChannelStatus} {c : Char}

theorem letterStatus_of_letter (letter : c = 'i' ∨ c = 'I' ∨ c = 'b' ∨ c = 'B') :
    letterStatus c = some (announced c) := by
  rcases letter with rfl | rfl | rfl | rfl <;> rfl

theorem letterStatus_eq_none :
    letterStatus c = none ↔ ¬ (c = 'i' ∨ c = 'I' ∨ c = 'b' ∨ c = 'B') := by
  constructor
  · intro unknown letter
    rw [letterStatus_of_letter letter] at unknown
    cases unknown
  · intro unknown
    unfold letterStatus
    split
    · exact absurd (.inl rfl) unknown
    · exact absurd (.inr (.inl rfl)) unknown
    · exact absurd (.inr (.inr (.inl rfl))) unknown
    · exact absurd (.inr (.inr (.inr rfl))) unknown
    · rfl

/-- The letters are no blanks, so a character that may stand in a pattern is one or the other. -/
theorem allows_iff : Allows c ↔ isBlank c = true ∨ letterStatus c ≠ none := by
  rw [Allows,ne_eq,letterStatus_eq_none,Decidable.not_not]

theorem readLetters_cons_of_none (unknown : letterStatus c = none) :
    readLetters (c :: letters) = .error c := by
  rw [readLetters,unknown]

theorem readLetters_cons_of_some {status : ChannelStatus} (known : letterStatus c = some status) :
    readLetters (c :: letters) = (readLetters letters).map (status :: ·) := by
  rw [readLetters,known]

/-- The letters that are read are known, and the script has their statuses in their order. -/
theorem readLetters_eq_ok :
    readLetters letters = .ok script ↔
      (∀ c ∈ letters, letterStatus c ≠ none) ∧ letters.map announced = script := by
  induction letters generalizing script with
  | nil => simp [readLetters]
  | cons c letters ih =>
    by_cases letter : c = 'i' ∨ c = 'I' ∨ c = 'b' ∨ c = 'B'
    · have known := letterStatus_of_letter letter
      rw [readLetters_cons_of_some known,except_map_eq_ok]
      simp only [ih,List.forall_mem_cons,List.map_cons]
      constructor
      · rintro ⟨rest,⟨others,rfl⟩,rfl⟩
        exact ⟨⟨by rw [known]; exact Option.some_ne_none _,others⟩,rfl⟩
      · rintro ⟨⟨_,others⟩,rfl⟩
        exact ⟨_,⟨others,rfl⟩,rfl⟩
    · have unknown := letterStatus_eq_none.mpr letter
      rw [readLetters_cons_of_none unknown]
      constructor
      · intro failed
        cases failed
      · exact fun ⟨known,_⟩ => absurd unknown (known c List.mem_cons_self)

theorem readLetters_eq_error :
    readLetters letters = .error c ↔ letterStatus c = none ∧
      ∃ before after, letters = before ++ c :: after ∧ ∀ d ∈ before, letterStatus d ≠ none := by
  induction letters with
  | nil => simp [readLetters]
  | cons first letters ih =>
    cases status : letterStatus first with
    | none =>
      rw [readLetters_cons_of_none status]
      constructor
      · intro same
        cases same
        exact ⟨status,[],letters,rfl,fun d none => absurd none List.not_mem_nil⟩
      · rintro ⟨_,before,after,split,known⟩
        cases before with
        | nil =>
          cases split
          rfl
        | cons d before =>
          cases split
          exact absurd status (known first List.mem_cons_self)
    | some status' =>
      rw [readLetters_cons_of_some status]
      have later : (readLetters letters).map (status' :: ·) = .error c ↔
          readLetters letters = .error c := by
        cases readLetters letters <;> simp [Except.map]
      rw [later,ih]
      refine and_congr_right fun unknown => ?_
      constructor
      · rintro ⟨before,after,rfl,known⟩
        refine ⟨first :: before,after,rfl,List.forall_mem_cons.mpr ⟨?_,known⟩⟩
        rw [status]
        exact Option.some_ne_none _
      · rintro ⟨before,after,split,known⟩
        cases before with
        | nil =>
          cases split
          cases status.symm.trans unknown
        | cons d before =>
          cases split
          exact ⟨before,after,rfl,(List.forall_mem_cons.mp known).2⟩

theorem readLetters_append (first : readLetters letters = .ok script)
    (second : readLetters letters' = .ok script') :
    readLetters (letters ++ letters') = .ok (script ++ script') := by
  obtain ⟨known,rfl⟩ := readLetters_eq_ok.mp first
  obtain ⟨known',rfl⟩ := readLetters_eq_ok.mp second
  refine readLetters_eq_ok.mpr ⟨fun c mem => ?_,List.map_append⟩
  exact (List.mem_append.mp mem).elim (known c) (known' c)

/-- Lowering the case keeps what a character means, in ASCII where it does something. -/
theorem toLower_keeps (c : Char) :
    letterStatus c.toLower = letterStatus c ∧ isBlank c.toLower = isBlank c := by
  have uppers : ∀ n < 91, 65 ≤ n →
      letterStatus (Char.ofNat n).toLower = letterStatus (Char.ofNat n) ∧
        isBlank (Char.ofNat n).toLower = isBlank (Char.ofNat n) := by
    decide
  by_cases upper : c.val ≥ 'A'.val ∧ c.val ≤ 'Z'.val
  · have lowest : 65 ≤ c.toNat := UInt32.le_iff_toNat_le.mp upper.1
    have highest : c.toNat ≤ 90 := UInt32.le_iff_toNat_le.mp upper.2
    rw [← Char.ofNat_toNat c]
    exact uppers c.toNat (by omega) lowest
  · have same : c.toLower = c := dif_neg upper
    rw [same]
    exact ⟨rfl,rfl⟩

theorem readLetters_toLower :
    readLetters (letters.map Char.toLower) = (readLetters letters).mapError Char.toLower := by
  induction letters with
  | nil => rfl
  | cons c letters ih =>
    have same := (toLower_keeps c).1
    cases status : letterStatus c with
    | none =>
      rw [status] at same
      rw [List.map_cons,readLetters_cons_of_none same,readLetters_cons_of_none status]
      rfl
    | some status' =>
      rw [status] at same
      rw [List.map_cons,readLetters_cons_of_some same,readLetters_cons_of_some status,ih]
      cases readLetters letters <;> rfl

theorem written_blankless : lettersOf (written script) =
    script.map letterFor := by
  rw [lettersOf,written,String.toList_ofList]
  refine List.filter_eq_self.mpr fun c mem => ?_
  obtain ⟨status,_,rfl⟩ := List.mem_map.mp mem
  cases status <;> decide

theorem readLetters_written (heard : ∀ status ∈ script, status = .idle ∨ status = .busy) :
    readLetters (script.map letterFor) = .ok script := by
  refine readLetters_eq_ok.mpr ⟨fun c mem => ?_,?_⟩
  · obtain ⟨status,_,rfl⟩ := List.mem_map.mp mem
    cases status <;> decide
  · rw [List.map_map]
    refine (List.map_congr_left fun status mem => ?_).trans (List.map_id script)
    obtain rfl | rfl := heard status mem <;> rfl

variable {pattern : String}

theorem ofPattern_eq_ok {channel : Channel} :
    ofPattern pattern = .ok channel ↔ (∀ c ∈ pattern.toList, Allows c) ∧
      scripted ((lettersOf pattern).map announced) = channel := by
  have known : (∀ c ∈ lettersOf pattern, letterStatus c ≠ none) ↔
      ∀ c ∈ pattern.toList, Allows c := by
    simp only [lettersOf,List.mem_filter,allows_iff,Bool.not_eq_true',and_imp]
    refine forall₂_congr fun c _ => ?_
    cases isBlank c <;> simp
  rw [ofPattern,except_map_eq_ok,← known]
  constructor
  · rintro ⟨script,reads,rfl⟩
    obtain ⟨known,rfl⟩ := readLetters_eq_ok.mp reads
    exact ⟨known,rfl⟩
  · rintro ⟨known,rfl⟩
    exact ⟨_,readLetters_eq_ok.mpr ⟨known,rfl⟩,rfl⟩

theorem ofPattern_eq_error :
    ofPattern pattern = .error c ↔ ¬ Allows c ∧
      ∃ before after, pattern.toList = before ++ c :: after ∧ ∀ d ∈ before, Allows d := by
  have fails : ofPattern pattern = .error c ↔ readLetters (lettersOf pattern) = .error c := by
    unfold ofPattern lettersOf
    cases readLetters (pattern.toList.filter (! isBlank ·)) <;> simp [Except.map]
  rw [fails,readLetters_eq_error]
  constructor
  · rintro ⟨unknown,before,after,split,known⟩
    obtain ⟨first,second,parts,rfl,rest⟩ := List.filter_eq_append_iff.mp split
    obtain ⟨blanks,later,rfl,blank,counts,_⟩ := List.filter_eq_cons_iff.mp rest
    refine ⟨?offends,first ++ blanks,later,?parts,fun d mem => allows_iff.mpr ?allowed⟩
    case offends =>
      rw [allows_iff]
      simpa [unknown] using counts
    case parts => rw [parts,List.append_assoc]
    case allowed =>
      rcases List.mem_append.mp mem with mem | mem
      · by_cases blank : isBlank d
        · exact .inl blank
        · exact .inr (known d (List.mem_filter.mpr ⟨mem,by simpa using blank⟩))
      · exact .inl (by simpa using blank d mem)
  · rintro ⟨offends,before,after,split,allowed⟩
    rw [allows_iff,not_or,Decidable.not_not] at offends
    have counts : (! isBlank c) = true := by simpa using offends.1
    have kept : (c :: after).filter (! isBlank ·) = c :: after.filter (! isBlank ·) :=
      List.filter_cons_of_pos counts
    refine ⟨offends.2,before.filter (! isBlank ·),after.filter (! isBlank ·),?_,fun d mem => ?_⟩
    · rw [lettersOf,split,List.filter_append,kept]
    · obtain ⟨mem,blankless⟩ := List.mem_filter.mp mem
      refine (allows_iff.mp (allowed d mem)).resolve_left ?_
      simpa using blankless

/-- Each assessment takes one status from the script, and finds idle where the script has ended. -/
theorem assessments_scripted (instants : List Instant) (n : Nat) (asked : n < instants.length) :
    ((scripted script).assessments instants)[n]? = some (script[n]?.getD .idle) := by
  induction instants generalizing script n with
  | nil => cases asked
  | cons now later ih =>
    cases script with
    | nil =>
      cases n with
      | zero => rfl
      | succ n => exact (ih n (Nat.lt_of_succ_lt_succ asked)).trans (by rfl)
    | cons status script =>
      cases n with
      | zero => rfl
      | succ n => exact ih n (Nat.lt_of_succ_lt_succ asked)

theorem patternComplaint_inj {d : Char} (same : patternComplaint c = patternComplaint d) : c = d := by
  have chars := congrArg String.toList same
  simpa [patternComplaint,Char.toString] using chars

end Channel

open Channel in
/-- A pattern is read if and only if each of its characters is a blank or one of the four letters. At
the n-th assessment, whenever it comes, the channel then reports what the n-th character says that is
no blank, and idle after the last. Otherwise the first character that is neither is what the error
carries, as it stands in the pattern, and what the complaint names. Blanks do not matter, the case of
ASCII letters does not matter to the script, patterns one after the other are scripts one after the
other, and a script of idle and busy is read from its letters. -/
theorem patterns_played_back :
    (∀ pattern : String,
      ((∃ channel, ofPattern pattern = .ok channel) ↔ ∀ c ∈ pattern.toList, Allows c) ∧
      (∀ channel, ofPattern pattern = .ok channel →
        ∀ (instants : List Instant) (n : Nat), n < instants.length →
          (∀ c, (lettersOf pattern)[n]? = some c →
            (channel.assessments instants)[n]? = some (announced c)) ∧
          ((lettersOf pattern).length ≤ n → (channel.assessments instants)[n]? = some .idle)) ∧
      (∀ c, ofPattern pattern = .error c ↔ ¬ Allows c ∧
        ∃ before after, pattern.toList = before ++ c :: after ∧ ∀ d ∈ before, Allows d) ∧
      (∀ other, lettersOf other = lettersOf pattern → ofPattern other = ofPattern pattern) ∧
      (∀ other, (lettersOf other).map Char.toLower = (lettersOf pattern).map Char.toLower →
        (ofPattern other).mapError Char.toLower = (ofPattern pattern).mapError Char.toLower) ∧
      ∀ other script script', ofPattern pattern = .ok (scripted script) →
        ofPattern other = .ok (scripted script') →
        ofPattern (pattern ++ other) = .ok (scripted (script ++ script'))) ∧
    (∀ script : List ChannelStatus, (∀ status ∈ script, status = .idle ∨ status = .busy) →
      ofPattern (written script) = .ok (scripted script)) ∧
    ∀ c d, patternComplaint c = patternComplaint d → c = d := by
  refine ⟨fun pattern => ⟨?reads,?plays,fun c => ofPattern_eq_error,?blanks,?folds,?follows⟩,?writes,
    fun c d => patternComplaint_inj⟩
  case reads =>
    constructor
    · rintro ⟨channel,reads⟩
      exact (ofPattern_eq_ok.mp reads).1
    · exact fun allowed => ⟨_,ofPattern_eq_ok.mpr ⟨allowed,rfl⟩⟩
  case plays =>
    intro channel reads instants n asked
    obtain ⟨_,rfl⟩ := ofPattern_eq_ok.mp reads
    rw [assessments_scripted instants n asked,List.getElem?_map]
    constructor
    · intro c letter
      rw [letter]
      rfl
    · intro ended
      rw [List.getElem?_eq_none ended]
      rfl
  case blanks =>
    intro other same
    change (readLetters (lettersOf other)).map scripted = _
    rw [same]
    rfl
  case folds =>
    intro other same
    have lowered : ∀ pattern : String, (ofPattern pattern).mapError Char.toLower =
        (readLetters ((lettersOf pattern).map Char.toLower)).map scripted := by
      intro pattern
      rw [readLetters_toLower,ofPattern,lettersOf]
      cases readLetters (pattern.toList.filter (! isBlank ·)) <;> rfl
    rw [lowered other,lowered pattern,same]
  case follows =>
    intro other script script' first second
    obtain ⟨script,reads,same⟩ := except_map_eq_ok.mp first
    obtain ⟨script',reads',same'⟩ := except_map_eq_ok.mp second
    cases same
    cases same'
    rw [ofPattern,String.toList_append,List.filter_append,readLetters_append reads reads']
    rfl
  case writes =>
    intro script heard
    change (readLetters (lettersOf (written script))).map scripted = _
    rw [written_blankless,readLetters_written heard]
    rfl

/-- Blanks of all kinds and both cases. The capital with a dot is folded to a small letter with a dot
in Unicode, and still it is no letter of a pattern. -/
theorem patterns_played_back_mixed :
    ((Channel.scripted [.idle,.busy,.busy]).assessments [⟨7⟩,⟨-3⟩,⟨7⟩,⟨0⟩])[1]? = some .busy ∧
    ((Channel.scripted [.idle,.busy,.busy]).assessments [⟨7⟩,⟨-3⟩,⟨7⟩,⟨0⟩])[3]? = some .idle ∧
    Channel.ofPattern "i\u3000\u0130?" = .error '\u0130' ∧
    Channel.ofPattern "iBb\t" = Channel.ofPattern "i\u3000B b" ∧
    Channel.ofPattern ("i\u3000B b" ++ "I") = .ok (.scripted [.idle,.busy,.busy,.idle]) ∧
    Channel.ofPattern (Channel.written [.busy,.idle]) = .ok (.scripted [.busy,.idle]) := by
  have reads : Channel.ofPattern "i\u3000B b" = .ok (.scripted [.idle,.busy,.busy]) := rfl
  obtain ⟨_,plays,_,blanks,_,follows⟩ := patterns_played_back.1 "i\u3000B b"
  obtain ⟨_,_,fails,_⟩ := patterns_played_back.1 "i\u3000\u0130?"
  have played := plays _ reads [⟨7⟩,⟨-3⟩,⟨7⟩,⟨0⟩]
  refine ⟨?busy,?idle,?fails,?blanks,?follows,?writes⟩
  case busy => exact (played 1 (by decide)).1 'B' rfl
  case idle => exact (played 3 (by decide)).2 (by decide)
  case fails =>
    have allowed : ∀ d ∈ ['i','\u3000'], Channel.Allows d :=
      List.forall_mem_cons.mpr ⟨.inr (.inl rfl),List.forall_mem_singleton.mpr (.inl (by decide))⟩
    exact (fails _).mpr ⟨by decide,_,['?'],rfl,allowed⟩
  case blanks => exact blanks _ rfl
  case follows => exact follows "I" _ [.idle] reads rfl
  case writes => exact patterns_played_back.2.1 _ (by decide)

end ChannelAccess
