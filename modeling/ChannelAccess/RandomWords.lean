/-!
Sources of random words. A source is a value: drawing gives a word and the source that is left.
-/

namespace ChannelAccess

class WordSource (ρ : Type) where
  next : ρ → UInt32 × ρ

/-- Words written down in advance, zeros once they are used up. -/
structure WordScript where
  words : List UInt32
  deriving DecidableEq, Repr

instance : WordSource WordScript where
  next script :=
    match script.words with
    | [] => (0, script)
    | word :: words => (word, ⟨words⟩)

end ChannelAccess
