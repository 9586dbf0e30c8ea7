import TestAtlas.Proofs.CommandLine.Waiting

/-!
One value of one option exchanged for another. Where an option stands on its own
with its value behind it, the value decides nothing about how the rest of the
command line is read: either the command line is refused alike for all values,
or what is read differs in the value alone.
-/

namespace TestAtlas
namespace CommandLine

namespace Token

variable {grammar : Grammar}

theorem ofArguments_cons {argument : String} (notStop : argument ≠ stopText)
    (rest : List String) :
    ofArguments grammar (argument :: rest) = (do
      let token ← classify grammar argument
      return token :: (← ofArguments grammar rest)) := by
  rw [ofArguments, if_neg notStop]

/-- The tokens around an option and its value are the same for all values. -/
theorem ofArguments_around {before : List String} (options : stopText ∉ before)
    {option : String} (notStop : option ≠ stopText) {token : Token}
    (spelled : classify grammar option = .ok token) (after : List String) :
    ∃ outcome : Except Problem (List Token × List Token),
      ∀ value, value ≠ stopText → classify grammar value = .ok (.word value) →
        ofArguments grammar (before ++ option :: value :: after) =
          outcome.map fun (front, rest) => front ++ token :: .word value :: rest := by
  induction before with
  | nil =>
      refine ⟨(ofArguments grammar after).map fun rest => ([], rest), fun value plain word => ?_⟩
      rw [List.nil_append, ofArguments_cons notStop, ofArguments_cons plain, spelled, word]
      cases ofArguments grammar after <;> rfl
  | cons argument before ih =>
      obtain ⟨outcome, around⟩ := ih fun member => options (List.mem_cons_of_mem _ member)
      have first : argument ≠ stopText := fun same => options (same ▸ List.mem_cons_self)
      refine ⟨(do
        let token ← classify grammar argument
        let (front, rest) ← outcome
        return (token :: front, rest)), fun value plain word => ?_⟩
      rw [List.cons_append, ofArguments_cons first, around value plain word]
      cases classify grammar argument with
      | error problem => rfl
      | ok token => cases outcome <;> rfl

end Token

namespace Reading

variable {grammar : Grammar} {mention : Mention} {words rest : List Token}
  {positions : List Position} {arguments : Arguments} {reading later : Reading}

/-- What is left of the reading when there are no more options. -/
def finish (reading : Reading) : Except Early Arguments := do
  let last ← fillPositions reading.tokens reading.arguments reading.positions
  if last.positions.isEmpty then return last.arguments.leave (last.tokens.map Token.text)
  else throw (.refused (.required (last.positions.map (·.name))))

theorem finish_after (first : Arguments) :
    (reading.after first).finish = reading.finish.map (first ++ ·) := by
  unfold finish
  change fillPositions reading.tokens (first ++ reading.arguments) reading.positions >>= _ = _
  rw [fillPositions_append]
  cases fillPositions reading.tokens reading.arguments reading.positions with
  | error e => rfl
  | ok last =>
      change (if last.positions.isEmpty = true then _ else _) =
        Except.map _ (if last.positions.isEmpty = true then _ else _)
      split
      · exact congrArg Except.ok (Arguments.append_leave ..)
      · rfl

theorem run_finish_after (grammar : Grammar) (first : Arguments) (reading : Reading) :
    run grammar (reading.after first) >>= finish =
      (run grammar reading >>= finish).map (first ++ ·) := by
  rw [run_after]
  cases run grammar reading with
  | error e => rfl
  | ok last => exact finish_after first

theorem of_run (h : run grammar reading = .ok later) :
    later.tokens.any Token.isOption = false ∧ later.positions <:+ reading.positions := by
  generalize size : reading.tokens.length = n
  induction n using Nat.strongRecOn generalizing reading with
  | _ n ih =>
      cases options : reading.tokens.any Token.isOption with
      | false =>
          rw [run_of_not_any options] at h
          cases h
          exact ⟨options, List.suffix_rfl⟩
      | true =>
          rw [run_of_any options] at h
          cases stepped : step grammar reading with
          | error e =>
              rw [stepped] at h
              cases h
          | ok next =>
              rw [stepped] at h
              obtain ⟨shorter, fewer⟩ := of_step options stepped
              obtain ⟨none, others⟩ := ih _ (size ▸ shorter) h rfl
              exact ⟨none, others.trans fewer⟩

/-- The option takes the word behind it. -/
structure TakesWord (mention : Mention) : Prop where
  bare : mention.attached? = none
  takesValue : mention.switch.effect.takesValue = true

theorem takeFirstOption_word (takes : TakesWord mention)
    (plain : words.any Token.isOption = false) (text value : String) (rest : List Token)
    (positions : List Position) (arguments : Arguments) :
    takeFirstOption grammar
        ⟨words ++ .option text mention :: .word value :: rest, positions, arguments⟩ =
      (giveValue mention.switch value (arguments.leave (words.map Token.text))).map
        fun arguments => ⟨rest, positions, arguments⟩ := by
  rw [takeFirstOption_option plain, takeOption_eq, demand, takes.bare]
  dsimp only
  rw [takes.takesValue, if_pos rfl]
  change giveValue mention.switch value _ >>= _ = _
  cases giveValue mention.switch value (arguments.leave (words.map Token.text)) <;> rfl

theorem any_isOption_option (words : List Token) (text value : String) (rest : List Token) :
    (words ++ .option text mention :: .word value :: rest).any Token.isOption = true := by
  rw [List.any_append, List.any_cons]
  exact Bool.or_true _

/-- Words in front go to positions or, where there is none for them, the option is taken. -/
theorem run_word_option {word : Token} (front : word.isOption = false)
    (several : ∀ position ∈ positions, position.arity ≠ .remainder) (arguments : Arguments)
    (text value : String) (rest : List Token) :
    run grammar ⟨word :: words ++ .option text mention :: .word value :: rest, positions,
        arguments⟩ = (do
      let found ← fillPositions (word :: words) arguments positions
      if found.tokens.length < (word :: words).length then
        return found.before (.option text mention :: .word value :: rest)
      else
        takeFirstOption grammar (found.before (.option text mention :: .word value :: rest))) >>=
      run grammar := by
  rw [run_of_any (any_isOption_option (word :: words) text value rest),
    step_of_word front several rfl]

theorem takeFirstOption_run (takes : TakesWord mention) (plain : words.any Token.isOption = false)
    (text value : String) (rest : List Token) (positions : List Position) (arguments : Arguments) :
    takeFirstOption grammar
        ⟨words ++ .option text mention :: .word value :: rest, positions, arguments⟩ >>=
      run grammar =
    giveValue mention.switch value (arguments.leave (words.map Token.text)) >>=
      fun arguments => run grammar ⟨rest, positions, arguments⟩ := by
  rw [takeFirstOption_word takes plain]
  cases giveValue mention.switch value (arguments.leave (words.map Token.text)) <;> rfl

/-- Words before the option go to positions or are left over, whatever its value is. -/
theorem run_words (grammar : Grammar) (takes : TakesWord mention) (text : String)
    (plain : words.any Token.isOption = false)
    (several : ∀ position ∈ positions, position.arity ≠ .remainder) (arguments : Arguments)
    (rest : List Token) :
    ∃ outcome : Except Early (List Position × Arguments), ∀ value,
      run grammar ⟨words ++ .option text mention :: .word value :: rest, positions, arguments⟩ =
        (do
          let (positions, arguments) ← outcome
          let arguments ← giveValue mention.switch value arguments
          run grammar ⟨rest, positions, arguments⟩) := by
  generalize size : words.length = n
  induction n using Nat.strongRecOn generalizing words positions arguments with
  | _ n ih =>
      cases words with
      | nil =>
          refine ⟨.ok (positions, arguments.leave []), fun value => ?_⟩
          have stepped : step grammar
              ⟨.option text mention :: .word value :: rest, positions, arguments⟩ =
                takeFirstOption grammar
                  ⟨.option text mention :: .word value :: rest, positions, arguments⟩ := rfl
          rw [run_of_any (any_isOption_option [] text value rest), List.nil_append, stepped]
          exact takeFirstOption_run takes plain text value rest positions arguments
      | cons word words =>
          have front : word.isOption = false := by
            rw [List.any_cons, Bool.or_eq_false_iff] at plain
            exact plain.1
          cases filled : fillPositions (word :: words) arguments positions with
          | error e =>
              refine ⟨.error e, fun value => ?_⟩
              rw [run_word_option front several, filled]
              rfl
          | ok found =>
              obtain ⟨behind, others⟩ := of_fillPositions filled
              by_cases shorter : found.tokens.length < (word :: words).length
              · have plain' : found.tokens.any Token.isOption = false := by
                  rw [List.any_eq_false] at plain ⊢
                  exact fun token member => plain token (behind.subset member)
                obtain ⟨outcome, next⟩ := ih _ (size ▸ shorter) plain'
                  (fun position member => several position (others.subset member))
                  found.arguments rfl
                refine ⟨outcome, fun value => ?_⟩
                rw [run_word_option front several, filled, ← next]
                change (if found.tokens.length < (word :: words).length then _ else _) >>= _ = _
                rw [if_pos shorter]
                rfl
              · -- No position takes a word, so that all of them are left over before the option.
                have all := behind.eq_of_length_le (Nat.le_of_not_lt shorter)
                refine ⟨.ok (found.positions, found.arguments.leave
                  ((word :: words).map Token.text)), fun value => ?_⟩
                rw [run_word_option front several, filled]
                change (if found.tokens.length < (word :: words).length then _ else _) >>= _ = _
                rw [if_neg shorter]
                change takeFirstOption grammar ⟨found.tokens ++ _, _, _⟩ >>= _ = _
                rw [all]
                exact takeFirstOption_run takes plain text value rest found.positions found.arguments

/-- What is given apart from the option, whatever its value is. -/
theorem read_around (grammar : Grammar) (takes : TakesWord mention) (text : String)
    (several : ∀ position ∈ positions, position.arity ≠ .remainder)
    (front rest : List Token) :
    ∃ outcome : Except Early (Arguments × Arguments), ∀ value,
      (∀ arguments, giveValue mention.switch value arguments =
        .ok (arguments.give mention.switch.key [value])) →
      run grammar ⟨front ++ .option text mention :: .word value :: rest, positions, {}⟩ >>= finish =
        outcome.map fun (first, second) =>
          first.give mention.switch.key [value] ++ second := by
  have waits (value : String) : run grammar
      ⟨front ++ .option text mention :: .word value :: rest, positions, {}⟩ = _ :=
    run_before grammar ⟨front, positions, {}⟩ several rfl (.word value :: rest)
  cases read : run grammar ⟨front, positions, {}⟩ with
  | error e =>
      refine ⟨.error e, fun value _ => ?_⟩
      rw [waits, read]
      rfl
  | ok later =>
      obtain ⟨plain, others⟩ := of_run read
      obtain ⟨outcome, next⟩ := run_words grammar takes text plain
        (fun position member => several position (others.subset member)) later.arguments rest
      refine ⟨(do
        let (positions, first) ← outcome
        let second ← run grammar ⟨rest, positions, {}⟩ >>= finish
        return (first, second)), fun value accepted => ?_⟩
      rw [waits, read]
      change run grammar ⟨later.tokens ++ _, later.positions, later.arguments⟩ >>= _ = _
      rw [next]
      cases outcome with
      | error e => rfl
      | ok found =>
          obtain ⟨positions, first⟩ := found
          change giveValue mention.switch value first >>= _ >>= _ = _
          have behind := run_finish_after grammar (first.give mention.switch.key [value])
            ⟨rest, positions, {}⟩
          rw [after, Arguments.append_empty] at behind
          rw [accepted]
          change run grammar ⟨rest, positions, first.give mention.switch.key [value]⟩ >>= finish = _
          rw [behind]
          change _ = Except.map _
            ((run grammar ⟨rest, positions, {}⟩ >>= finish) >>= fun second => .ok (first, second))
          cases run grammar ⟨rest, positions, {}⟩ >>= finish <;> rfl

end Reading

/-- What a grammar reads around an option and its value is the same for all values. -/
theorem Grammar.read_around {grammar : Grammar}
    (several : ∀ position ∈ grammar.positions, position.arity ≠ .remainder)
    {before : List String} (options : Token.stopText ∉ before) {option : String}
    (notStop : option ≠ Token.stopText) {mention : Mention}
    (spelled : Token.classify grammar option = .ok (.option option mention))
    (takes : Reading.TakesWord mention) (after : List String) :
    ∃ outcome : Except Early (Arguments × Arguments), ∀ value, value ≠ Token.stopText →
      Token.classify grammar value = .ok (.word value) →
      (∀ arguments, Reading.giveValue mention.switch value arguments =
        .ok (arguments.give mention.switch.key [value])) →
      grammar.read (before ++ option :: value :: after) =
        outcome.map fun (first, second) =>
          first.give mention.switch.key [value] ++ second := by
  obtain ⟨tokens, spells⟩ := Token.ofArguments_around options notStop spelled after
  cases tokens with
  | error problem =>
      refine ⟨.error (.refused problem), fun value plain word _ => ?_⟩
      rw [read, spells value plain word]
      rfl
  | ok tokens =>
      obtain ⟨front, rest⟩ := tokens
      obtain ⟨outcome, reads⟩ := Reading.read_around grammar takes option several front rest
      refine ⟨outcome, fun value plain word accepted => ?_⟩
      rw [read, spells value plain word]
      exact reads value accepted

end CommandLine
end TestAtlas
