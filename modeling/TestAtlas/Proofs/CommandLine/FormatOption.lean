import TestAtlas.CommandLine.Request
import TestAtlas.Proofs.CommandLine.Substitution

/-!
The four command lines that name the four formats at one place. They are refused
alike, or the requests differ in the format alone.
-/

namespace TestAtlas
namespace CommandLine

open Report (Format)

namespace Token

variable {grammar : Grammar}

theorem text_of_classify {argument : String} {token : Token}
    (h : classify grammar argument = .ok token) : token.text = argument := by
  unfold classify at h
  dsimp only at h
  split at h
  · cases h
    rfl
  · split at h
    · cases h
      rfl
    · split at h
      · cases h
        rfl
      · split at h <;> cases h <;> rfl
      · cases h

theorem map_text_of_ofArguments {arguments : List String} {tokens : List Token}
    (h : ofArguments grammar arguments = .ok tokens) : tokens.map text = arguments := by
  induction arguments generalizing tokens with
  | nil =>
      cases h
      rfl
  | cons argument rest ih =>
      by_cases isStop : argument = stopText
      · rw [ofArguments, if_pos isStop] at h
        cases h
        rw [List.map_cons, List.map_map, isStop]
        exact congrArg (stopText :: ·) (List.map_id rest)
      · rw [ofArguments_cons isStop] at h
        cases first : classify grammar argument with
        | error problem =>
            rw [first] at h
            cases h
        | ok token =>
            cases others : ofArguments grammar rest with
            | error problem =>
                rw [first, others] at h
                cases h
            | ok behind =>
                rw [first, others] at h
                cases h
                rw [List.map_cons, text_of_classify first, ih others]

end Token

namespace Arguments

variable {first second : Arguments} {key other : String} {values : List String}

theorem isOn_around (h : other ≠ key) :
    (first.give other values ++ second).isOn key = (first ++ second).isOn key := by
  have unlike : (other == key) = false := beq_eq_false_iff_ne.mpr h
  change (first.given ++ [(other, values)] ++ second.given).any _ =
    (first.given ++ second.given).any _
  rw [List.any_append, List.any_append, List.any_append, List.any_cons, unlike]
  simp only [List.any_nil, Bool.or_false]

theorem value?_around (h : other ≠ key) :
    (first.give other values ++ second).value? key = (first ++ second).value? key := by
  have unlike : (other == key) = false := beq_eq_false_iff_ne.mpr h
  change ((first.given ++ [(other, values)] ++ second.given).reverse.find? _).bind _ =
    ((first.given ++ second.given).reverse.find? _).bind _
  rw [List.append_assoc, List.reverse_append, List.reverse_append, List.reverse_append,
    List.find?_append, List.find?_append, List.find?_append, List.reverse_singleton,
    List.find?_cons_of_neg (by rw [unlike]; exact Bool.false_ne_true), List.find?_nil,
    Option.or_none]

theorem values_around (h : other ≠ key) :
    (first.give other values ++ second).values key = (first ++ second).values key := by
  have unlike : (other == key) = false := beq_eq_false_iff_ne.mpr h
  change ((first.given ++ [(other, values)] ++ second.given).filter _).flatMap _ =
    ((first.given ++ second.given).filter _).flatMap _
  rw [List.filter_append, List.filter_append, List.filter_append,
    List.filter_cons_of_neg (by rw [unlike]; exact Bool.false_ne_true), List.filter_nil,
    List.append_nil]

/-- A value decides unless the same option is given once more. -/
theorem value?_give (first second : Arguments) (key value : String) :
    (first.give key [value] ++ second).value? key =
      match second.given.reverse.find? (·.1 == key) with
      | some entry => entry.2.head?
      | none => some value := by
  change ((first.given ++ [(key, [value])] ++ second.given).reverse.find? _).bind _ = _
  rw [List.reverse_append, List.find?_append]
  cases second.given.reverse.find? (·.1 == key) with
  | some entry => rfl
  | none =>
      rw [List.reverse_append, List.reverse_singleton, List.singleton_append,
        List.find?_cons_of_pos (by exact beq_self_eq_true key)]
      rfl

end Arguments

namespace Request

def formatOption : String := "--format"

def formatSwitch : Switch where
  names := [formatOption]
  effect := .take (.choice (Format.all.map Format.name))

def formatMention : Mention where
  switch := formatSwitch
  spelling := formatOption.toList

theorem takesWord_formatMention : Reading.TakesWord formatMention := ⟨rfl, rfl⟩

theorem giveValue_formatSwitch (format : Format) (arguments : Arguments) :
    Reading.giveValue formatSwitch format.name arguments =
      .ok (arguments.give formatOption [format.name]) := by
  cases format <;> rfl

theorem name_ne_stopText (format : Format) : format.name ≠ Token.stopText := by
  cases format <;> decide

theorem classify_name (grammar : Grammar) (format : Format) :
    Token.classify grammar format.name = .ok (.word format.name) := by
  cases format <;> rfl

/-- The command line with one of the formats at a place behind the command. -/
def line (command : String) (before after : List String) (format : Format) : List String :=
  command :: (before ++ formatOption :: format.name :: after)

/-- What all tasks have in common: they are spelled as words, their grammars know the format, and
no position takes options. -/
structure Known (command : String) (inner : Grammar) : Prop where
  found : ((tasks.find? (·.1 == command)).map (·.2)).getD importsGrammar = inner
  notStop : command ≠ Token.stopText
  word : Token.classify grammar command = .ok (.word command)
  accepted : (Content.choice (tasks.map (·.1))).check "cmd" command = .ok ()
  spelled : Token.classify inner formatOption = .ok (.option formatOption formatMention)
  several : ∀ position ∈ inner.positions, position.arity ≠ .remainder

variable {command : String} {inner : Grammar}

theorem known_of_mem (h : (command, inner) ∈ tasks) : Known command inner := by
  simp only [tasks, List.mem_cons, Prod.mk.injEq, List.not_mem_nil, or_false] at h
  obtain ⟨rfl, rfl⟩ | ⟨rfl, rfl⟩ | ⟨rfl, rfl⟩ := h
  · exact ⟨rfl, by decide, rfl, rfl, rfl, by decide⟩
  · exact ⟨rfl, by decide, rfl, rfl, rfl, by decide⟩
  · exact ⟨rfl, by decide, rfl, rfl, rfl, by decide⟩

/-- A command takes all that is behind it. -/
theorem fillPositions_command (known : Known command inner) (more : List Token) :
    Reading.fillPositions (.word command :: more) {} grammar.positions =
      .ok ⟨[], [], { given := [("cmd", command :: more.map Token.text)] }⟩ := by
  have counted : Arity.remainder.count? (.word command :: more) =
      some (Token.word command :: more).length := by
    change some (0 + 1 + more.length) = some (more.length + 1)
    rw [Nat.zero_add, Nat.add_comm]
  have position : grammar.positions =
      [{ name := "cmd", arity := .remainder, content := .choice (tasks.map (·.1)) }] := rfl
  rw [position, Reading.fillPositions, counted]
  dsimp only
  rw [List.take_of_length_le (Nat.le_refl _), List.drop_of_length_le (Nat.le_refl _)]
  change orRefuse ((Content.choice (tasks.map (·.1))).check "cmd" command) >>= _ = _
  rw [known.accepted]
  rfl

theorem readBy_grammar (known : Known command inner) (rest : List String) :
    readBy grammar (command :: rest) =
      ((orRefuse (Token.ofArguments grammar (command :: rest))).mapError (⟨grammar, ·⟩)).map
        fun _ => { given := [("cmd", command :: rest)] } := by
  rw [readBy, Grammar.read, Token.ofArguments_cons known.notStop, known.word]
  cases others : Token.ofArguments grammar rest with
  | error problem => rfl
  | ok more =>
      have filled := fillPositions_command known more
      rw [Token.map_text_of_ofArguments others] at filled
      change Except.mapError _ (Reading.run grammar ⟨.word command :: more, grammar.positions, {}⟩
        >>= Reading.finish) = .ok _
      have read : Reading.run grammar ⟨.word command :: more, grammar.positions, {}⟩ >>=
          Reading.finish = .ok { given := [("cmd", command :: rest)] } := by
        cases options : (Token.word command :: more).any Token.isOption with
        | false =>
            rw [Reading.run_of_not_any options]
            change Reading.fillPositions _ _ _ >>= _ = _
            rw [filled]
            rfl
        | true =>
            rw [Reading.run_of_any options]
            change (Reading.fillPositions _ _ _ >>= _) >>= _ >>= _ = _
            rw [filled]
            rfl
      rw [read]
      rfl

/-- The request of a task with arguments, of which none may be left over. -/
def requestOf (command : String) (arguments : Arguments) : Except Refusal Request :=
  match arguments.extra with
  | [] => .ok { common := commonOf arguments, task := taskOf command arguments }
  | extra => .error ⟨grammar, .refused (.unrecognized extra)⟩

theorem requestOf_of_nil {arguments : Arguments} (h : arguments.extra = []) :
    requestOf command arguments =
      .ok { common := commonOf arguments, task := taskOf command arguments } := by
  rw [requestOf, h]

theorem requestOf_of_cons {arguments : Arguments} {text : String} {others : List String}
    (h : arguments.extra = text :: others) :
    requestOf command arguments =
      .error ⟨grammar, .refused (.unrecognized (text :: others))⟩ := by
  rw [requestOf, h]

theorem ofArguments_command (known : Known command inner) (rest : List String) :
    ofArguments (command :: rest) = (do
      let _ ← (orRefuse (Token.ofArguments grammar (command :: rest))).mapError (Refusal.mk grammar)
      readBy inner rest >>= requestOf command) := by
  rw [ofArguments, readBy_grammar known]
  cases orRefuse (Token.ofArguments grammar (command :: rest)) with
  | error e => rfl
  | ok tokens =>
      have words : ({ given := [("cmd", command :: rest)] } : Arguments).values "cmd" =
          command :: rest := List.append_nil _
      have passed : (Except.ok tokens : Except Early (List Token)).mapError (Refusal.mk grammar) =
          .ok tokens := rfl
      rw [passed]
      simp only [Except.map, bind, Except.bind, words, List.headD_cons, known.found,
        List.drop_succ_cons, List.drop_zero]
      cases readBy inner rest with
      | error e => rfl
      | ok arguments =>
          simp only [requestOf, List.nil_append]
          cases arguments.extra <;> rfl

/-- The format is not an argument of the task. -/
theorem taskOf_around (name value : String) (first second : Arguments) :
    taskOf name (first.give formatOption [value] ++ second) = taskOf name (first ++ second) := by
  simp only [taskOf, choicesOf, selectionOf, kindOf, formatOption,
    Arguments.value?_around (show "--format" ≠ "path" by decide),
    Arguments.value?_around (show "--format" ≠ "--pdb" by decide),
    Arguments.value?_around (show "--format" ≠ "--path-extension" by decide),
    Arguments.value?_around (show "--format" ≠ "--kind" by decide),
    Arguments.value?_around (show "--format" ≠ "--search" by decide),
    Arguments.value?_around (show "--format" ≠ "--limit" by decide),
    Arguments.values_around (show "--format" ≠ "signatures" by decide),
    Arguments.values_around (show "--format" ≠ "--additional-pdb" by decide),
    Arguments.isOn_around (show "--format" ≠ "--no-symbols" by decide),
    Arguments.isOn_around (show "--format" ≠ "--debug" by decide)]

/-- Unless another option decides on the format, it is the one that is named. -/
theorem commonOf_around (first second : Arguments) : ∃ common : Common,
    (∀ format : Format,
      commonOf (first.give formatOption [format.name] ++ second) = common) ∨
    ∀ format : Format,
      commonOf (first.give formatOption [format.name] ++ second) = { common with format } := by
  have others (format : Format) :
      commonOf (first.give formatOption [format.name] ++ second) =
        { commonOf (first ++ second) with
          format := Format.chosen ((first ++ second).isOn "--json")
            ((first ++ second).isOn "--no-color")
            (some (((first.give formatOption [format.name] ++ second).value?
              formatOption).getD Format.plain.name)) } := by
    simp only [commonOf, formatOption,
      Arguments.isOn_around (show "--format" ≠ "--json" by decide),
      Arguments.isOn_around (show "--format" ≠ "--no-color" by decide),
      Arguments.isOn_around (show "--format" ≠ "--quiet" by decide),
      Arguments.isOn_around (show "--format" ≠ "--verbose" by decide),
      Arguments.isOn_around (show "--format" ≠ "--debug" by decide)]
  simp only [others, Arguments.value?_give]
  cases second.given.reverse.find? (·.1 == formatOption) with
  | some entry =>
      refine ⟨{ commonOf (first ++ second) with
        format := Format.chosen ((first ++ second).isOn "--json")
          ((first ++ second).isOn "--no-color")
          (some (entry.2.head?.getD Format.plain.name)) }, .inl fun format => rfl⟩
  | none =>
      cases (first ++ second).isOn "--json" with
      | true =>
          exact ⟨{ commonOf (first ++ second) with format := .json }, .inl fun format => rfl⟩
      | false =>
          cases (first ++ second).isOn "--no-color" with
          | true =>
              exact ⟨{ commonOf (first ++ second) with format := .plain }, .inl fun format => rfl⟩
          | false =>
              refine ⟨commonOf (first ++ second), .inr fun format => ?_⟩
              cases format <;> rfl

/-- The command lines are refused alike, or they ask for the same task, with the formats as they
are named or all with one format. -/
theorem ofArguments_line (h : (command, inner) ∈ tasks) {before : List String}
    (options : Token.stopText ∉ before) (after : List String) :
    (∃ refusal, ∀ format, ofArguments (line command before after format) = .error refusal) ∨
    ∃ common task,
      (∀ format, ofArguments (line command before after format) = .ok { common, task }) ∨
      ∀ format, ofArguments (line command before after format) =
        .ok { common := { common with format }, task } := by
  have known := known_of_mem h
  -- The whole program knows no formats, so to it the option is an unknown one.
  obtain ⟨outer, spells⟩ := Token.ofArguments_around options (by decide : formatOption ≠ _)
    (show Token.classify grammar formatOption = .ok (.unknown formatOption) from rfl) after
  obtain ⟨outcome, reads⟩ := Grammar.read_around known.several options
    (by decide : formatOption ≠ _) known.spelled takesWord_formatMention after
  have tokens (format : Format) := spells format.name (name_ne_stopText format)
    (classify_name grammar format)
  have arguments (format : Format) := reads format.name (name_ne_stopText format)
    (classify_name inner format) (giveValue_formatSwitch format)
  have asked (format : Format) := ofArguments_command known
    (before ++ formatOption :: format.name :: after)
  simp only [readBy, arguments, Token.ofArguments_cons known.notStop, known.word, tokens] at asked
  cases outer with
  | error problem => exact .inl ⟨⟨grammar, .refused problem⟩, asked⟩
  | ok found =>
      cases outcome with
      | error e => exact .inl ⟨⟨inner, e⟩, asked⟩
      | ok given =>
          obtain ⟨first, second⟩ := given
          cases left : first.extra ++ second.extra with
          | cons text others =>
              refine .inl ⟨⟨grammar, .refused (.unrecognized (text :: others))⟩, fun format => ?_⟩
              rw [line, asked]
              exact requestOf_of_cons left
          | nil =>
              obtain ⟨common, fixed | free⟩ := commonOf_around first second
              · refine .inr ⟨common, taskOf command (first ++ second), .inl fun format => ?_⟩
                rw [line, asked, ← fixed format, ← taskOf_around command format.name]
                exact requestOf_of_nil left
              · refine .inr ⟨common, taskOf command (first ++ second), .inr fun format => ?_⟩
                rw [line, asked, ← free format, ← taskOf_around command format.name]
                exact requestOf_of_nil left

end Request
end CommandLine
end TestAtlas
