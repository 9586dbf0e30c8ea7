import TestAtlas.Proofs.CommandLine.Reading

/-!
Tokens from an option on wait until the tokens before it are read. A position
that takes whatever follows would be an exception, so there is none of this kind.
-/

namespace TestAtlas
namespace CommandLine
namespace Reading

variable {grammar : Grammar} {token : Token} {front tokens rest : List Token}
  {positions : List Position} {reading later : Reading}

/-- The reading if there are more tokens behind. -/
def before (rest : List Token) (reading : Reading) : Reading :=
  { reading with tokens := reading.tokens ++ rest }

theorem count?_le {arity : Arity} {n : Nat} (h : arity.count? tokens = some n) :
    n ≤ tokens.length := by
  unfold Arity.count? at h
  dsimp only at h
  split at h
  · rename_i text rest found
    have size := congrArg List.length found
    rw [List.length_drop, List.length_cons] at size
    have stops := (List.takeWhile_sublist (l := rest) isStop).length_le
    have words := (List.takeWhile_sublist (l := rest) fun t => isWord t || isStop t).length_le
    cases h
    cases arity <;> dsimp only <;> omega
  · cases h

theorem takeWhile_append_cons {α : Type} {p : α → Bool} {a : α} (ends : p a = false)
    (front rest : List α) : (front ++ a :: rest).takeWhile p = front.takeWhile p := by
  induction front with
  | nil => rw [List.nil_append, List.takeWhile_cons, ends, if_neg Bool.false_ne_true,
      List.takeWhile_nil]
  | cons b front ih => rw [List.cons_append, List.takeWhile_cons, List.takeWhile_cons, ih]

theorem count?_append {arity : Arity} (several : arity ≠ .remainder)
    (option : token.isOption = true) (front rest : List Token) :
    arity.count? (front ++ token :: rest) = arity.count? front := by
  have noStop : isStop token = false := by cases token <;> first | rfl | cases option
  have noWord : (isWord token || isStop token) = false := by
    cases token <;> first | rfl | cases option
  have words (others : List Token) :=
    takeWhile_append_cons (p := fun t => isWord t || isStop t) noWord others rest
  unfold Arity.count?
  dsimp only
  rw [takeWhile_append_cons noStop,
    List.drop_append_of_le_length (List.takeWhile_sublist isStop).length_le]
  cases front.drop (front.takeWhile isStop).length with
  | nil => cases token <;> first | rfl | cases option
  | cons first others =>
      cases first with
      | word text =>
          dsimp only [List.cons_append]
          cases arity with
          | one => rw [takeWhile_append_cons noStop]
          | several => rw [words]
          | remainder => exact absurd rfl several
      | stop | option text mention | unknown text => rfl

theorem fillPositions_before {arguments : Arguments}
    (several : ∀ position ∈ positions, position.arity ≠ .remainder)
    (option : token.isOption = true) (front rest : List Token) :
    fillPositions (front ++ token :: rest) arguments positions =
      (fillPositions front arguments positions).map (before (token :: rest)) := by
  induction positions generalizing front arguments with
  | nil => rfl
  | cons position others ih =>
      unfold fillPositions
      rw [count?_append (several position List.mem_cons_self) option]
      cases counted : position.arity.count? front with
      | none => rfl
      | some n =>
          have within := count?_le counted
          dsimp only
          rw [List.take_append_of_le_length within, List.drop_append_of_le_length within]
          cases orRefuse ((position.arguments (front.take n)).head?.forM
              (position.content.check position.name)) with
          | error e => rfl
          | ok checked =>
              exact ih (fun other member => several other (List.mem_cons_of_mem _ member)) _

theorem demand_append (option : token.isOption = true) (mention : Mention)
    (front rest : List Token) :
    demand grammar mention (front ++ token :: rest) =
      (demand grammar mention front).map fun (operation, tokens) =>
        (operation, tokens ++ token :: rest) := by
  unfold demand
  cases mention.attached? with
  | some value => rfl
  | none =>
      dsimp only
      split
      · rcases front with _ | ⟨_ | _ | _ | _, front⟩
        · cases token <;> first | rfl | cases option
        all_goals rfl
      · rfl

theorem takeFirstOption_before (option : token.isOption = true)
    (options : front.any Token.isOption = true) (rest : List Token) (positions : List Position)
    (arguments : Arguments) :
    takeFirstOption grammar ⟨front ++ token :: rest, positions, arguments⟩ =
      (takeFirstOption grammar ⟨front, positions, arguments⟩).map (before (token :: rest)) := by
  obtain ⟨words, first, behind, rfl, plain, found⟩ := exists_first_option options
  rw [List.append_assoc, List.cons_append]
  cases first with
  | word text => cases found
  | stop => cases found
  | option text mention =>
      rw [takeFirstOption_option plain, takeFirstOption_option plain, takeOption_eq, takeOption_eq,
        demand_append option]
      cases demand grammar mention behind with
      | error e => rfl
      | ok demand =>
          obtain ⟨operation, tokens⟩ := demand
          change operation _ >>= _ = (operation _ >>= _).map _
          dsimp only
          cases operation (arguments.leave (words.map Token.text)) <;> rfl
  | unknown text =>
      rw [takeFirstOption_unknown plain, takeFirstOption_unknown plain]
      rfl

theorem any_of_fillPositions {arguments : Arguments}
    (several : ∀ position ∈ positions, position.arity ≠ .remainder)
    (options : tokens.any Token.isOption = true)
    (h : fillPositions tokens arguments positions = .ok later) :
    later.tokens.any Token.isOption = true := by
  obtain ⟨words, token, rest, rfl, -, option⟩ := exists_first_option options
  rw [fillPositions_before several option] at h
  cases filled : fillPositions words arguments positions with
  | error e =>
      rw [filled] at h
      cases h
  | ok found =>
      rw [filled] at h
      cases h
      change (found.tokens ++ token :: rest).any Token.isOption = true
      rw [List.any_append, List.any_cons, option, Bool.true_or, Bool.or_true]

/-- A word in front goes to a position, or else the first option is taken. -/
theorem step_of_word {word : Token} {words : List Token} {arguments : Arguments}
    (first : word.isOption = false)
    (several : ∀ position ∈ positions, position.arity ≠ .remainder)
    (option : token.isOption = true) (rest : List Token) :
    step grammar ⟨word :: words ++ token :: rest, positions, arguments⟩ =
      (do
        let found ← fillPositions (word :: words) arguments positions
        if found.tokens.length < (word :: words).length then return found.before (token :: rest)
        else takeFirstOption grammar (found.before (token :: rest))) := by
  rw [step]
  change (if word.isOption = true then _ else
    fillPositions (word :: words ++ token :: rest) arguments positions >>= _) = _
  rw [first, if_neg Bool.false_ne_true, fillPositions_before several option]
  cases fillPositions (word :: words) arguments positions with
  | error e => rfl
  | ok found =>
      change (if (found.tokens ++ token :: rest).length < (word :: words ++ token :: rest).length
        then _ else _) = (if found.tokens.length < (word :: words).length then _ else _)
      simp only [List.length_append, Nat.add_lt_add_iff_right]

theorem step_before (several : ∀ position ∈ reading.positions, position.arity ≠ .remainder)
    (option : token.isOption = true) (options : reading.tokens.any Token.isOption = true)
    (rest : List Token) :
    step grammar (reading.before (token :: rest)) =
      (step grammar reading).map (before (token :: rest)) := by
  obtain ⟨front, positions, arguments⟩ := reading
  cases front with
  | nil => cases options
  | cons word words =>
      cases first : word.isOption with
      | true =>
          change (if word.isOption = true then _ else _) =
            Except.map _ (if word.isOption = true then _ else _)
          rw [first, if_pos rfl, if_pos rfl]
          exact takeFirstOption_before option options rest positions arguments
      | false =>
          change step grammar ⟨word :: words ++ token :: rest, positions, arguments⟩ = _
          rw [step_of_word first several option]
          change _ = Except.map _ (if word.isOption = true then _ else _)
          rw [first, if_neg Bool.false_ne_true]
          dsimp only
          cases filled : fillPositions (word :: words) arguments positions with
          | error e => rfl
          | ok found =>
              change (if found.tokens.length < (word :: words).length then _ else _) =
                Except.map _ (if found.tokens.length < (word :: words).length then _ else _)
              split
              · rfl
              · exact takeFirstOption_before option (any_of_fillPositions several options filled) ..

/-- The tokens before an option are read first. -/
theorem run_before (grammar : Grammar) (reading : Reading)
    (several : ∀ position ∈ reading.positions, position.arity ≠ .remainder)
    (option : token.isOption = true) (rest : List Token) :
    run grammar (reading.before (token :: rest)) =
      run grammar reading >>= fun later => run grammar (later.before (token :: rest)) := by
  generalize size : reading.tokens.length = n
  induction n using Nat.strongRecOn generalizing reading with
  | _ n ih =>
      cases options : reading.tokens.any Token.isOption with
      | false =>
          rw [run_of_not_any options]
          rfl
      | true =>
          have options' : (reading.before (token :: rest)).tokens.any Token.isOption = true := by
            change (reading.tokens ++ token :: rest).any Token.isOption = true
            rw [List.any_append, options, Bool.true_or]
          rw [run_of_any options', run_of_any options, step_before several option options]
          cases stepped : step grammar reading with
          | error e => rfl
          | ok later =>
              obtain ⟨shorter, fewer⟩ := of_step options stepped
              exact ih _ (size ▸ shorter) later
                (fun position member => several position (fewer.subset member)) rfl

end Reading
end CommandLine
end TestAtlas
