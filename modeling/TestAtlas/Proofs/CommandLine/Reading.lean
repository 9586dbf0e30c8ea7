import TestAtlas.CommandLine.Arguments

/-!
How a command line is read, step by step. What was given before stays in front
of what is given later and decides nothing, and every step takes something from
the tokens.
-/

namespace TestAtlas
namespace CommandLine

namespace Arguments

instance : Append Arguments where
  append first second :=
    { given := first.given ++ second.given, extra := first.extra ++ second.extra }

@[simp] theorem given_append (first second : Arguments) :
    (first ++ second).given = first.given ++ second.given := rfl

@[simp] theorem extra_append (first second : Arguments) :
    (first ++ second).extra = first.extra ++ second.extra := rfl

theorem append_empty (arguments : Arguments) : arguments ++ ({} : Arguments) = arguments := by
  change mk _ _ = mk _ _
  rw [mk.injEq]
  exact ⟨List.append_nil _, List.append_nil _⟩

theorem append_give (first second : Arguments) (key : String) (values : List String) :
    (first ++ second).give key values = first ++ second.give key values := by
  change mk _ _ = mk _ _
  rw [mk.injEq]
  exact ⟨List.append_assoc .., rfl⟩

theorem append_leave (first second : Arguments) (texts : List String) :
    (first ++ second).leave texts = first ++ second.leave texts := by
  change mk _ _ = mk _ _
  rw [mk.injEq]
  exact ⟨rfl, List.append_assoc ..⟩

end Arguments

namespace Reading

variable {grammar : Grammar} {switch : Switch} {tokens rest : List Token}
  {positions : List Position} {first second : Arguments} {reading later : Reading}

/-- The reading if other arguments were given before. -/
def after (first : Arguments) (reading : Reading) : Reading :=
  { reading with arguments := first ++ reading.arguments }

/-- What the operation does to arguments does not depend on those that were given before. -/
def Adds (operation : Arguments → Except Early Arguments) : Prop :=
  ∀ first second, operation (first ++ second) = (operation second).map (first ++ ·)

namespace Adds

theorem error (e : Early) : Adds fun _ => .error e := fun _ _ => rfl

theorem bind {operation next : Arguments → Except Early Arguments} (h : Adds operation)
    (h' : Adds next) : Adds fun arguments => operation arguments >>= next := by
  intro first second
  change operation (first ++ second) >>= next = (operation second >>= next).map (first ++ ·)
  rw [h first second]
  cases operation second with
  | error e => rfl
  | ok given => exact h' first given

theorem turnOn (switch : Switch) : Adds (turnOn switch) := by
  intro first second
  unfold Reading.turnOn
  split
  · rfl
  · rfl
  · exact congrArg Except.ok (Arguments.append_give ..)

theorem turnAllOn (switches : List Switch) : Adds (turnAllOn switches) := by
  induction switches with
  | nil => exact fun _ _ => rfl
  | cons switch rest ih => exact (turnOn switch).bind ih

theorem giveValue (switch : Switch) (value : String) : Adds (giveValue switch value) := by
  intro first second
  have given : Except.ok ((first ++ second).give switch.key [value]) =
      Except.map (ε := Early) (first ++ ·) (.ok (second.give switch.key [value])) :=
    congrArg Except.ok (Arguments.append_give ..)
  unfold Reading.giveValue
  split
  · rename_i content _
    cases content.check switch.label value with
    | error problem => rfl
    | ok checked => exact given
  · exact given

theorem takeAttached (value : List Char) (earlier : List Switch) (switch : Switch)
    (isShort : Bool) :
    Adds fun arguments => takeAttached grammar earlier switch isShort arguments value := by
  induction value generalizing earlier switch isShort with
  | nil =>
      unfold Reading.takeAttached
      split
      · exact (turnAllOn _).bind (giveValue switch _)
      · exact error _
  | cons c rest ih =>
      unfold Reading.takeAttached
      split
      · exact (turnAllOn _).bind (giveValue switch _)
      · dsimp only
        split
        · exact error _
        · rename_i next _
          split
          · exact error _
          · split
            · split
              · exact error _
              · exact turnAllOn _
            · exact ih (switch :: earlier) next true

end Adds

/-- What an option does to the arguments, and the tokens behind it and its value. -/
def demand (grammar : Grammar) (mention : Mention) (rest : List Token) :
    Except Early ((Arguments → Except Early Arguments) × List Token) :=
  match mention.attached? with
  | some value =>
      let isShort := mention.spelling[1]? != some Token.dash
      .ok (fun arguments => takeAttached grammar [] mention.switch isShort arguments value, rest)
  | none =>
      if mention.switch.effect.takesValue then
        match rest with
        | .word value :: rest => .ok (giveValue mention.switch value, rest)
        | _ => .error (.refused (.noValue mention.switch.label))
      else .ok (turnOn mention.switch, rest)

theorem takeOption_eq (grammar : Grammar) (reading : Reading) (mention : Mention)
    (rest : List Token) :
    takeOption grammar reading mention rest = (do
      let (operation, tokens) ← demand grammar mention rest
      let arguments ← operation reading.arguments
      return { reading with tokens, arguments }) := by
  unfold takeOption demand
  cases mention.attached? with
  | some value => rfl
  | none =>
      dsimp only
      split
      · rcases rest with _ | ⟨_ | _ | _ | _, rest⟩ <;> rfl
      · rfl

theorem adds_of_demand {mention : Mention} {operation : Arguments → Except Early Arguments}
    (h : demand grammar mention rest = .ok (operation, tokens)) : Adds operation := by
  unfold demand at h
  split at h
  · cases h
    exact .takeAttached _ _ _ _
  · split at h
    · split at h
      · cases h
        exact .giveValue _ _
      · cases h
    · cases h
      exact .turnOn _

theorem length_of_demand {mention : Mention} {operation : Arguments → Except Early Arguments}
    (h : demand grammar mention rest = .ok (operation, tokens)) :
    tokens.length ≤ rest.length := by
  unfold demand at h
  split at h
  · cases h
    exact Nat.le_refl _
  · split at h
    · split at h
      · cases h
        exact Nat.le_succ _
      · cases h
    · cases h
      exact Nat.le_refl _

theorem takeOption_after (first : Arguments) (reading : Reading) (mention : Mention)
    (rest : List Token) :
    takeOption grammar (reading.after first) mention rest =
      (takeOption grammar reading mention rest).map (after first) := by
  rw [takeOption_eq, takeOption_eq]
  cases demanded : demand grammar mention rest with
  | error e => rfl
  | ok demand =>
      obtain ⟨operation, tokens⟩ := demand
      change operation (first ++ reading.arguments) >>= _ =
        (operation reading.arguments >>= _).map (after first)
      rw [adds_of_demand demanded]
      cases operation reading.arguments <;> rfl

theorem takeFirstOption_after :
    takeFirstOption grammar (reading.after first) =
      (takeFirstOption grammar reading).map (after first) := by
  unfold takeFirstOption
  dsimp only [after]
  rw [Arguments.append_leave]
  split
  · exact takeOption_after first { reading with arguments := reading.arguments.leave _ } _ _
  · rw [Arguments.append_leave]
    rfl
  · rfl

theorem fillPositions_append (tokens : List Token) (first second : Arguments)
    (positions : List Position) :
    fillPositions tokens (first ++ second) positions =
      (fillPositions tokens second positions).map (after first) := by
  induction positions generalizing tokens second with
  | nil => rfl
  | cons position rest ih =>
      unfold fillPositions
      cases position.arity.count? tokens with
      | none => rfl
      | some n =>
          dsimp only
          rw [Arguments.append_give]
          cases orRefuse ((position.arguments (tokens.take n)).head?.forM
              (position.content.check position.name)) with
          | error e => rfl
          | ok checked => exact ih (tokens.drop n) _

theorem step_after :
    step grammar (reading.after first) = (step grammar reading).map (after first) := by
  rw [step, step]
  change (if reading.tokens.head?.any Token.isOption = true then _ else
    fillPositions reading.tokens (first ++ reading.arguments) reading.positions >>= _) = _
  rw [fillPositions_append]
  split
  · exact takeFirstOption_after
  · cases fillPositions reading.tokens reading.arguments reading.positions with
    | error e => rfl
    | ok filled =>
        change (if filled.tokens.length < reading.tokens.length then _ else _) =
          Except.map _ (if filled.tokens.length < reading.tokens.length then _ else _)
        split
        · rfl
        · exact takeFirstOption_after

theorem of_takeOption {mention : Mention}
    (h : takeOption grammar reading mention rest = .ok later) :
    later.tokens.length ≤ rest.length ∧ later.positions = reading.positions := by
  rw [takeOption_eq] at h
  cases demanded : demand grammar mention rest with
  | error e =>
      rw [demanded] at h
      cases h
  | ok demand =>
      obtain ⟨operation, tokens⟩ := demand
      rw [demanded] at h
      change operation reading.arguments >>= _ = _ at h
      cases outcome : operation reading.arguments with
      | error e =>
          rw [outcome] at h
          cases h
      | ok arguments =>
          rw [outcome] at h
          cases h
          exact ⟨length_of_demand demanded, rfl⟩

/-- The first option splits the tokens. -/
theorem exists_first_option (options : tokens.any Token.isOption = true) :
    ∃ words token rest, tokens = words ++ token :: rest ∧
      words.any Token.isOption = false ∧ token.isOption = true := by
  induction tokens with
  | nil => cases options
  | cons token rest ih =>
      cases first : token.isOption with
      | true => exact ⟨[], token, rest, rfl, rfl, first⟩
      | false =>
          rw [List.any_cons, first, Bool.false_or] at options
          obtain ⟨words, other, behind, rfl, plain, found⟩ := ih options
          exact ⟨token :: words, other, behind, rfl, by rw [List.any_cons, first, plain]; rfl, found⟩

theorem not_isOption_of_any {words : List Token} (plain : words.any Token.isOption = false) :
    ∀ token ∈ words, (!token.isOption) = true := by
  intro token member
  rw [List.any_eq_false] at plain
  simpa using plain token member

/-- The tokens before the first option are left over. -/
theorem takeFirstOption_option {words : List Token} (plain : words.any Token.isOption = false)
    (text : String) (mention : Mention) (rest : List Token) (positions : List Position)
    (arguments : Arguments) :
    takeFirstOption grammar ⟨words ++ .option text mention :: rest, positions, arguments⟩ =
      takeOption grammar ⟨words ++ .option text mention :: rest, positions,
        arguments.leave (words.map Token.text)⟩ mention rest := by
  have all := not_isOption_of_any plain
  unfold takeFirstOption
  dsimp only
  rw [List.takeWhile_append_of_pos all, List.dropWhile_append_of_pos all,
    List.takeWhile_cons_of_neg (by exact Bool.false_ne_true),
    List.dropWhile_cons_of_neg (by exact Bool.false_ne_true), List.append_nil]

theorem takeFirstOption_unknown {words : List Token} (plain : words.any Token.isOption = false)
    (text : String) (rest : List Token) (positions : List Position) (arguments : Arguments) :
    takeFirstOption grammar ⟨words ++ .unknown text :: rest, positions, arguments⟩ =
      .ok ⟨rest, positions, (arguments.leave (words.map Token.text)).leave [text]⟩ := by
  have all := not_isOption_of_any plain
  unfold takeFirstOption
  dsimp only
  rw [List.takeWhile_append_of_pos all, List.dropWhile_append_of_pos all,
    List.takeWhile_cons_of_neg (by exact Bool.false_ne_true),
    List.dropWhile_cons_of_neg (by exact Bool.false_ne_true), List.append_nil]

theorem of_takeFirstOption (options : reading.tokens.any Token.isOption = true)
    (h : takeFirstOption grammar reading = .ok later) :
    later.tokens.length < reading.tokens.length ∧ later.positions = reading.positions := by
  obtain ⟨tokens, positions, arguments⟩ := reading
  obtain ⟨words, token, rest, rfl, plain, found⟩ := exists_first_option options
  have shorter : rest.length < (words ++ token :: rest).length := by
    rw [List.length_append, List.length_cons]
    omega
  cases token with
  | word text => cases found
  | stop => cases found
  | option text mention =>
      rw [takeFirstOption_option plain] at h
      obtain ⟨taken, same⟩ := of_takeOption h
      exact ⟨Nat.lt_of_le_of_lt taken shorter, same⟩
  | unknown text =>
      rw [takeFirstOption_unknown plain] at h
      cases h
      exact ⟨shorter, rfl⟩

theorem of_fillPositions {arguments : Arguments}
    (h : fillPositions tokens arguments positions = .ok later) :
    later.tokens <:+ tokens ∧ later.positions <:+ positions := by
  induction positions generalizing tokens arguments with
  | nil =>
      cases h
      exact ⟨List.suffix_rfl, List.suffix_rfl⟩
  | cons position rest ih =>
      unfold fillPositions at h
      split at h
      · cases h
        exact ⟨List.suffix_rfl, List.suffix_rfl⟩
      · rename_i n _
        dsimp only at h
        cases checked : orRefuse ((position.arguments (tokens.take n)).head?.forM
            (position.content.check position.name)) with
        | error e =>
            rw [checked] at h
            cases h
        | ok checked' =>
            rw [checked] at h
            obtain ⟨behind, others⟩ := ih h
            exact ⟨behind.trans (List.drop_suffix n tokens),
              others.trans (List.suffix_cons position rest)⟩

/-- Every step takes a token, so there are steps enough for all of them. -/
theorem of_step (options : reading.tokens.any Token.isOption = true)
    (h : step grammar reading = .ok later) :
    later.tokens.length < reading.tokens.length ∧ later.positions <:+ reading.positions := by
  unfold step at h
  split at h
  · obtain ⟨shorter, same⟩ := of_takeFirstOption options h
    exact ⟨shorter, same ▸ List.suffix_rfl⟩
  · cases filled : fillPositions reading.tokens reading.arguments reading.positions with
    | error e =>
        rw [filled] at h
        cases h
    | ok found =>
        rw [filled] at h
        obtain ⟨behind, others⟩ := of_fillPositions filled
        change (if found.tokens.length < reading.tokens.length then _ else _) = _ at h
        split at h
        · rename_i shorter
          cases h
          exact ⟨shorter, others⟩
        · rename_i same
          have all := behind.eq_of_length_le (Nat.le_of_not_lt same)
          rw [← all] at options ⊢
          obtain ⟨shorter, same⟩ := of_takeFirstOption options h
          exact ⟨shorter, same ▸ others⟩

theorem steps_of_not_any (fuel : Nat) (none : reading.tokens.any Token.isOption = false) :
    steps grammar fuel reading = .ok reading := by
  cases fuel with
  | zero => rfl
  | succ fuel => rw [steps, none, if_neg Bool.false_ne_true]

theorem steps_eq_steps {fuel more : Nat} (enough : reading.tokens.length ≤ fuel)
    (enough' : reading.tokens.length ≤ more) :
    steps grammar fuel reading = steps grammar more reading := by
  -- Every step takes a token, so both amounts of fuel stay enough for what is left.
  induction fuel generalizing more reading with
  | zero =>
      have empty := List.eq_nil_of_length_eq_zero (Nat.le_zero.mp enough)
      rw [steps_of_not_any more (by rw [empty]; rfl)]
      rfl
  | succ fuel ih =>
      cases options : reading.tokens.any Token.isOption with
      | false => rw [steps_of_not_any _ options, steps_of_not_any _ options]
      | true =>
          cases more with
          | zero =>
              rw [List.eq_nil_of_length_eq_zero (Nat.le_zero.mp enough')] at options
              cases options
          | succ more =>
              rw [steps, steps, options, if_pos rfl, if_pos rfl]
              cases stepped : step grammar reading with
              | error e => rfl
              | ok later =>
                  have shorter := (of_step options stepped).1
                  exact ih (by omega) (by omega)

/-- Steps until there are no more options. -/
def run (grammar : Grammar) (reading : Reading) : Except Early Reading :=
  steps grammar reading.tokens.length reading

theorem run_of_not_any (none : reading.tokens.any Token.isOption = false) :
    run grammar reading = .ok reading :=
  steps_of_not_any _ none

theorem run_of_any (options : reading.tokens.any Token.isOption = true) :
    run grammar reading = step grammar reading >>= run grammar := by
  have one : 0 < reading.tokens.length := by
    obtain ⟨words, token, rest, found, -, -⟩ := exists_first_option options
    rw [found, List.length_append, List.length_cons]
    omega
  obtain ⟨fuel, enough⟩ := Nat.exists_eq_add_of_lt one
  rw [Nat.zero_add] at enough
  rw [run, enough, steps, options, if_pos rfl]
  cases stepped : step grammar reading with
  | error e => rfl
  | ok later =>
      have shorter := (of_step options stepped).1
      exact steps_eq_steps (by omega) (Nat.le_refl _)

theorem run_after (grammar : Grammar) (first : Arguments) (reading : Reading) :
    run grammar (reading.after first) = (run grammar reading).map (after first) := by
  generalize size : reading.tokens.length = n
  induction n using Nat.strongRecOn generalizing reading with
  | _ n ih =>
      cases options : reading.tokens.any Token.isOption with
      | false =>
          have options' : (reading.after first).tokens.any Token.isOption = false := options
          rw [run_of_not_any options, run_of_not_any options']
          rfl
      | true =>
          have options' : (reading.after first).tokens.any Token.isOption = true := options
          rw [run_of_any options, run_of_any options', step_after]
          cases stepped : step grammar reading with
          | error e => rfl
          | ok later =>
              have shorter := (of_step options stepped).1
              exact ih _ (size ▸ shorter) later rfl

end Reading
end CommandLine
end TestAtlas
